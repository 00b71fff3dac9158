import SchemaCompiler.Proofs.ReferenceGraph
import SchemaCompiler.Proofs.Resolution.Adding
import SchemaCompiler.Proofs.Schema.Twin

/-!
Deduplication is exact.

* `Resolution.Posed`: no name is given twice, and only components are referred to;
* `Resolution.merged_of_resolve`, `Resolution.twin_of_resolve`: what resolution makes of components
  alone;
* `Resolution.taken_of_resolve`: after resolution every input stands for the only entry of its form;
* `Resolution.exact_of_resolve`: two inputs stand for one entry if and only if their canonical forms
  are equal after renaming, and that is the form of the entry.
-/

namespace SchemaCompiler.Resolution

/-- No name is given twice, and only components are referred to. -/
structure Posed (components candidates : Table Schema) : Prop where
  distinct : (Table.keys (components ++ candidates)).Nodup
  refers : ∀ name s target, (name, s) ∈ components ++ candidates → s.Names target →
    target ∈ Table.keys components

/-- The forms of a table give every form the name of its entry. -/
lemma lookup_forms {table : Table Schema} {forms : Forms}
    (ok : table.mapM (fun (name, s) => return (← canonical s, name)) = .ok forms)
    (apart : ∀ m s n t, (m, s) ∈ table → (n, t) ∈ table → canonical s = canonical t → m = n)
    (form : Canonical) (first : String) :
    forms.lookup form = some first ↔ ∃ s, (first, s) ∈ table ∧ canonical s = .ok form := by
  have formed := mapM_eq_ok_iff.1 ok
  clear ok
  induction formed with
  | nil => simp
  | @cons head entry table forms first' _ ih =>
      obtain ⟨name, s⟩ := head
      obtain ⟨own, formed, eq⟩ := bind_eq_ok_iff.1 first'
      cases eq
      have others : ∀ m t n u, (m, t) ∈ table → (n, u) ∈ table → canonical t = canonical u → m = n :=
        fun m t n u memM memN =>
          apart m t n u (List.mem_cons_of_mem _ memM) (List.mem_cons_of_mem _ memN)
      have later : forms.lookup form = some first ↔
          ∃ s, (first, s) ∈ table ∧ canonical s = .ok form := ih others
      rw [lookup_cons]
      by_cases eq : form = own
      · -- no later entry has this form, as no two entries share one
        rw [if_pos eq, Option.some.injEq, eq]
        constructor
        · rintro rfl
          exact ⟨s, List.mem_cons_self, formed⟩
        · rintro ⟨t, mem, same⟩
          exact apart _ _ _ _ List.mem_cons_self mem (formed.trans same.symm)
      · rw [if_neg eq, later]
        constructor
        · rintro ⟨t, mem, same⟩
          exact ⟨t, List.mem_cons_of_mem _ mem, same⟩
        · rintro ⟨t, mem, same⟩
          rcases List.mem_cons.1 mem with eq' | mem
          · cases eq'
            rw [formed] at same
            exact absurd (Except.ok.inj same).symm eq
          · exact ⟨t, mem, same⟩

/-! ### Resolution -/

/-- What is left of the schemas of routes when the entries for errors have got their names. -/
def Progress.finish (progress : Progress) : Progress :=
  progress.added.foldl (fun progress (entry, names) => progress.nameError entry names) progress

/-- What resolution consists of: merging, taking in the schemas of routes, giving names to the entries
for errors and checking the references. -/
lemma resolve_eq_ok_iff {components candidates : Table Schema} {resolution : Resolution} :
    resolve components candidates = .ok resolution ↔
      ∃ table renames forms added, merge components = .ok (table, renames) ∧
        table.mapM (fun (name, s) => return (← canonical s, name)) = .ok forms ∧
        Progress.addAll ⟨table, renames, forms, []⟩ candidates = .ok added ∧
        dangling? added.finish.table added.finish.table = none ∧
        resolution = ⟨ordered added.finish.table (ReferenceGraph.emissionOrder added.finish.table),
          added.finish.renames, ReferenceGraph.cycles added.finish.table⟩ := by
  simp only [resolve, bind_eq_ok_iff]
  constructor
  · rintro ⟨⟨table, renames⟩, merged, forms, formed, added, taken, ok⟩
    refine ⟨table, renames, forms, added, merged, formed, taken, ?_⟩
    split at ok
    · cases ok
    · next closed => exact ⟨closed, (Except.ok.inj ok).symm⟩
  · rintro ⟨table, renames, forms, added, merged, formed, taken, closed, rfl⟩
    refine ⟨(table, renames), merged, forms, formed, added, taken, ?_⟩
    split
    · next fault dangling => cases closed.symm.trans dangling
    · rfl

lemma resolve_cases {components candidates : Table Schema} {resolution : Resolution}
    (ok : resolve components candidates = .ok resolution) :
    ∃ table renames forms added, merge components = .ok (table, renames) ∧
      table.mapM (fun (name, s) => return (← canonical s, name)) = .ok forms ∧
      Progress.addAll ⟨table, renames, forms, []⟩ candidates = .ok added ∧
      resolution.table = ordered added.finish.table
        (ReferenceGraph.emissionOrder added.finish.table) ∧
      resolution.renames = added.finish.renames := by
  obtain ⟨table, renames, forms, added, merged, formed, taken, -, rfl⟩ := resolve_eq_ok_iff.1 ok
  exact ⟨table, renames, forms, added, merged, formed, taken, rfl, rfl⟩

/-! ### What names stand for -/

lemma get?_ordered (table : Table Schema) (names : List String) (name : String) :
    Table.get? (ordered table names) name = if name ∈ names then Table.get? table name else none := by
  induction names with
  | nil => rfl
  | cons first rest ih =>
      rw [ordered, List.filterMap_cons]
      cases found : Table.get? table first with
      | none =>
          rw [Option.map_none, ← ordered, ih]
          by_cases eq : name = first
          · rw [eq, found]
            simp
          · simp [eq]
      | some s =>
          rw [Option.map_some, Table.get?_cons, ← ordered, ih]
          by_cases eq : first = name
          · rw [if_pos eq, if_pos (List.mem_cons.2 (.inl eq.symm)), ← eq, found]
          · simp [eq, Ne.symm eq]

lemma keys_ordered {table : Table Schema} {names : List String}
    (known : ∀ name ∈ names, name ∈ Table.keys table) : Table.keys (ordered table names) = names := by
  induction names with
  | nil => rfl
  | cons first rest ih =>
      obtain ⟨s, found⟩ := Table.exists_get?_iff.2 (known first List.mem_cons_self)
      rw [ordered, List.filterMap_cons, found, Option.map_some, ← ordered, Table.keys, List.map_cons,
        ← Table.keys, ih fun name mem => known name (List.mem_cons_of_mem _ mem)]

section Emission

variable {table : Table Schema} (distinct : (Table.keys table).Nodup)

include distinct

lemma get?_emitted (name : String) :
    Table.get? (ordered table (ReferenceGraph.emissionOrder table)) name = Table.get? table name := by
  rw [get?_ordered]
  split
  · rfl
  · next unknown =>
      refine (Table.get?_eq_none_iff.2 fun mem => unknown ?_).symm
      exact (ReferenceGraph.emissionOrder_perm distinct).mem_iff.2 mem

lemma keys_emitted : Table.keys (ordered table (ReferenceGraph.emissionOrder table)) =
    ReferenceGraph.emissionOrder table :=
  keys_ordered fun _ => (ReferenceGraph.emissionOrder_perm distinct).mem_iff.1

lemma nodup_keys_emitted :
    (Table.keys (ordered table (ReferenceGraph.emissionOrder table))).Nodup := by
  rw [keys_emitted distinct]
  exact (ReferenceGraph.emissionOrder_perm distinct).nodup_iff.2 distinct

end Emission

/-- After resolution without schemas of routes every component stands for an entry, which is one of
the components with its references redirected. -/
theorem merged_of_resolve {components : Table Schema} {resolution : Resolution}
    (distinct : (Table.keys components).Nodup) (ok : resolve components [] = .ok resolution) :
    Merged components resolution.table resolution.renames := by
  obtain ⟨table, renames, forms, added, merged, -, adding, tableEq, renamesEq⟩ := resolve_cases ok
  cases adding
  have merging := (merged_of_merge distinct merged).1
  have found : ∀ name, Table.get? resolution.table name = Table.get? table name := fun name => by
    rw [tableEq]
    exact get?_emitted merging.distinct name
  rw [renamesEq]
  refine ⟨?_, fun name mem => ?_, merging.known, fun name s => ?_, fun name s input => ?_⟩
  · rw [tableEq]
    exact nodup_keys_emitted merging.distinct
  · obtain ⟨s, there⟩ := Table.exists_get?_iff.2 mem
    rw [found] at there
    exact merging.alive name (Table.mem_keys_of_get? there)
  · rw [found]
    exact merging.own name s
  · rw [found]
    exact merging.stands name s input

/-- After resolution the entry that a component stands for is its twin. -/
theorem twin_of_resolve {components : Table Schema} {resolution : Resolution}
    (distinct : (Table.keys components).Nodup)
    (refers : ∀ name s, (name, s) ∈ components → ∀ target ∈ s.references,
      target ∈ Table.keys components)
    (ok : resolve components [] = .ok resolution) {name : String} {s : Schema}
    (mem : (name, s) ∈ components) :
    ∃ t, Table.get? resolution.table (resolution.canonicalName name) = some t ∧
      Schema.Twin (.ofTable resolution.renames) (· ∈ Table.keys components) s t := by
  obtain ⟨t, there, same⟩ :=
    (merged_of_resolve distinct ok).stands name s ((Table.get?_eq_some_iff distinct).2 mem)
  exact ⟨t, there, same.symm, refers name s mem⟩

/-- After resolution every input stands for the only entry of its form. -/
theorem taken_of_resolve {components candidates : Table Schema} {resolution : Resolution}
    (posed : Posed components candidates) (ok : resolve components candidates = .ok resolution) :
    ∃ progress : Progress, Taken components (components ++ candidates) progress ∧
      resolution.renames = progress.renames ∧
      (∀ name, Table.get? resolution.table name = Table.get? progress.table name) ∧
      (Table.keys resolution.table).Nodup := by
  obtain ⟨table, renames, forms, added, merged, formed, adding, tableEq, renamesEq⟩ := resolve_cases ok
  have distinct : (Table.keys components).Nodup := by
    have := posed.distinct
    rw [Table.keys, List.map_append] at this
    exact this.of_append_left
  have refers : ∀ name s target, Table.get? components name = some s → s.Names target →
      target ∈ Table.keys components := fun name s target found =>
    posed.refers name s target (List.mem_append_left _ (Table.mem_of_get? found))
  obtain ⟨merging, apart⟩ := merged_of_merge distinct merged
  have initial : Filling components components ⟨table, renames, forms, []⟩ := by
    refine ⟨.initial merging apart (fun name s => formed_of_merge distinct merged) refers,
      fun _ mem => mem, ?_, ?_, fun _ mem => by cases mem⟩
    · intro name mem
      rcases List.mem_append.1 mem with mem | mem
      · obtain ⟨s, found⟩ := Table.exists_get?_iff.2 mem
        obtain ⟨t, there, -⟩ := merging.own name s found
        exact Table.mem_keys_of_get? there
      · exact merging.known name mem
    · intro form first
      simp only [lookup_forms formed (fun m s n t memM memN => (apart m s n t
        ((Table.get?_eq_some_iff merging.distinct).2 memM)
        ((Table.get?_eq_some_iff merging.distinct).2 memN)).2), Table.get?_eq_some_iff merging.distinct]
  have filled := initial.addAll posed.distinct
    (fun other s target mem => posed.refers other s target (List.mem_append_right _ mem)) adding
  have taken : Taken components (components ++ candidates) added.finish :=
    filled.taken.nameErrors filled.added
  refine ⟨added.finish, taken, renamesEq, fun name => ?_, ?_⟩
  · rw [tableEq, get?_emitted taken.distinct]
  · rw [tableEq]
    exact nodup_keys_emitted taken.distinct

/-- What exact deduplication of some inputs is. -/
structure Exact (inputs : Table Schema) (resolution : Resolution) : Prop where
  /-- Two inputs stand for one entry if and only if they have one form after renaming. -/
  joined : ∀ a b s t, (a, s) ∈ inputs → (b, t) ∈ inputs →
    ∃ c d, canonical (s.rename (.ofTable resolution.renames)) = .ok c ∧
      canonical (t.rename (.ofTable resolution.renames)) = .ok d ∧
      (resolution.canonicalName a = resolution.canonicalName b ↔ c = d)
  /-- An input stands for an entry of just its form. -/
  entry : ∀ a s, (a, s) ∈ inputs →
    ∃ t, Table.get? resolution.table (resolution.canonicalName a) = some t ∧
      canonical t = canonical (s.rename (.ofTable resolution.renames))
  /-- No two entries have one form. -/
  apart : resolution.table.Pairwise fun x y => canonical x.2 ≠ canonical y.2

/-- **Deduplication is exact**, for components and schemas of routes that refer to components. -/
theorem exact_of_resolve {components candidates : Table Schema} {resolution : Resolution}
    (posed : Posed components candidates) (ok : resolve components candidates = .ok resolution) :
    Exact (components ++ candidates) resolution := by
  obtain ⟨progress, taken, renames, entries, distinct⟩ := taken_of_resolve posed ok
  have stands : ∀ a s, (a, s) ∈ components ++ candidates →
      ∃ t form, Table.get? progress.table (resolution.canonicalName a) = some t ∧
        canonical t = .ok form ∧ canonical (s.rename (.ofTable resolution.renames)) = .ok form := by
    intro a s mem
    rw [canonicalName, renames]
    exact taken.stands a s ((Table.get?_eq_some_iff posed.distinct).2 mem)
  refine ⟨?_, ?_, ?_⟩
  · intro a b s t memA memB
    obtain ⟨u, c, foundA, entryA, formA⟩ := stands a s memA
    obtain ⟨v, d, foundB, entryB, formB⟩ := stands b t memB
    refine ⟨c, d, formA, formB, fun same => ?_, fun same => ?_⟩
    · rw [same, foundB] at foundA
      cases foundA
      exact Except.ok.inj (entryA.symm.trans entryB)
    · refine (taken.apart _ u _ v foundA foundB).2 ?_
      rw [entryA, entryB, same]
  · intro a s mem
    obtain ⟨t, form, found, entry, own⟩ := stands a s mem
    exact ⟨t, by rw [entries, found], by rw [entry, own]⟩
  · refine (List.pairwise_map.1 distinct).imp_of_mem fun {x y} memX memY ne same => ne ?_
    have foundX := (Table.get?_eq_some_iff distinct).2 memX
    have foundY := (Table.get?_eq_some_iff distinct).2 memY
    rw [entries] at foundX foundY
    exact (taken.apart _ _ _ _ foundX foundY).2 same

/-- Three components and the schema of a route, of which two and two are merged. -/
theorem exact_of_resolve_pets :
    let components : Table Schema :=
      [("Cat", .mk .boolean false), ("Dog", .mk .boolean false), ("Pet", .mk (.reference "Dog") false)]
    let candidates : Table Schema := [("GetPet", .mk (.reference "Cat") false)]
    ∃ resolution, Posed components candidates ∧ resolve components candidates = .ok resolution ∧
      Exact (components ++ candidates) resolution := by
  intro components candidates
  have posed : Posed components candidates := by
    refine ⟨by decide, ?_⟩
    rintro name s target mem ⟨t, within, names⟩
    simp only [components, candidates, List.cons_append, List.nil_append, List.mem_cons,
      List.not_mem_nil, or_false, Prod.mk.injEq] at mem
    rcases mem with ⟨-, rfl⟩ | ⟨-, rfl⟩ | ⟨-, rfl⟩ | ⟨-, rfl⟩ <;> cases within with
    | self => cases names <;> decide
    | child among => cases among
  have found : (resolve components candidates).toOption.isSome = true := by decide +kernel
  cases ok : resolve components candidates with
  | error fault =>
      rw [ok] at found
      cases found
  | ok resolution => exact ⟨resolution, posed, rfl, exact_of_resolve posed ok⟩

end SchemaCompiler.Resolution
