import SchemaCompiler.Proofs.Resolution.Deduplication

/-!
When resolution succeeds.

Merging fails only for want of a canonical form, and whether a schema has one does not depend on the
names in it.  References are checked after merging, but an entry refers to entries if and only if
the components that it stands for refer to components.

* `Resolution.Formed`: all schemas of a table have canonical forms;
* `Resolution.exists_merge`: merging such a table succeeds;
* `Resolution.dangling?_eq_none_iff`: no reference is dangling if all of them name entries;
* `Resolution.exists_resolve_iff`: resolution of components succeeds if and only if they have
  canonical forms and refer to components.
-/

namespace SchemaCompiler.Resolution

/-- All schemas of a table have canonical forms. -/
def Formed (table : Table Schema) : Prop :=
  ∀ name s, (name, s) ∈ table → ∃ form, canonical s = .ok form

lemma Formed.tail {head : String × Schema} {rest : Table Schema} (formed : Formed (head :: rest)) :
    Formed rest :=
  fun name s mem => formed name s (List.mem_cons_of_mem _ mem)

/-! ### Merging -/

lemma exists_duplicates {forms : Forms} {rest : Table Schema} (formed : Formed rest) :
    ∃ merged, duplicates forms rest = .ok merged := by
  induction rest generalizing forms with
  | nil => exact ⟨[], rfl⟩
  | cons head rest ih =>
      obtain ⟨name, s⟩ := head
      obtain ⟨form, own⟩ := formed name s List.mem_cons_self
      simp only [duplicates, bind_eq_ok_iff]
      cases met : forms.lookup form with
      | none =>
          obtain ⟨merged, others⟩ := @ih ((form, name) :: forms) formed.tail
          exact ⟨merged, form, own, by rwa [met]⟩
      | some first =>
          obtain ⟨merged, others⟩ := @ih forms formed.tail
          refine ⟨(name, first) :: merged, form, own, ?_⟩
          rw [met]
          exact bind_eq_ok_iff.2 ⟨merged, others, rfl⟩

/-- Renaming gives and takes no canonical forms. -/
lemma Formed.round {table : Table Schema} (formed : Formed table) (merged : Table String) :
    Formed (renameAll (.ofTable merged) (kept merged table)) := by
  intro name s mem
  obtain ⟨⟨old, t⟩, among, eq⟩ := List.mem_map.1 mem
  obtain ⟨rfl, rfl⟩ := Prod.mk.inj eq
  have before := formed old t (List.mem_filter.1 among).1
  exact Schema.exists_canonical_iff.2 (Schema.safe_rename_iff.2 (Schema.exists_canonical_iff.1 before))

lemma exists_mergeRounds {table : Table Schema} (renames : Table String) (formed : Formed table) :
    ∃ result, mergeRounds table renames = .ok result := by
  induction length : table.length using Nat.strong_induction_on generalizing table renames with
  | _ n ih =>
      subst length
      obtain ⟨merged, found⟩ := @exists_duplicates [] _ formed
      rw [mergeRounds]
      simp only [bind_eq_ok_iff]
      by_cases fewer : (kept merged table).length < table.length
      · have shorter : (renameAll (.ofTable merged) (kept merged table)).length < table.length := by
          rwa [renameAll, Table.mapValues, List.length_map]
        obtain ⟨result, done⟩ :=
          ih _ shorter (extendRenames renames merged) (formed.round merged) rfl
        exact ⟨result, merged, found, (dif_pos fewer).trans done⟩
      · exact ⟨(table, renames), merged, found, (dif_neg fewer).trans rfl⟩

/-- Merging succeeds if all schemas have canonical forms. -/
theorem exists_merge {components : Table Schema} (formed : Formed components) :
    ∃ result, merge components = .ok result :=
  exists_mergeRounds [] formed

/-! ### References -/

lemma dangling?_eq_none_iff {table rest : Table Schema} :
    dangling? table rest = none ↔
      ∀ name s, (name, s) ∈ rest → ∀ target ∈ s.references, target ∈ Table.keys table := by
  induction rest with
  | nil => simp [dangling?]
  | cons head rest ih =>
      obtain ⟨name, s⟩ := head
      have here : (s.references.find? fun target => !Table.contains table target) = none ↔
          ∀ target ∈ s.references, target ∈ Table.keys table := by
        simp [List.find?_eq_none, Table.contains, ← Table.exists_get?_iff, ← Option.ne_none_iff_exists']
      rw [dangling?]
      cases found : s.references.find? fun target => !Table.contains table target with
      | some target =>
          refine iff_of_false (fun none => by cases none) fun closed => ?_
          rw [here.2 (closed name s List.mem_cons_self)] at found
          cases found
      | none =>
          rw [ih]
          constructor
          · rintro closed m t (- | ⟨-, mem⟩)
            · exact here.1 found
            · exact closed m t mem
          · exact fun closed m t mem => closed m t (List.mem_cons_of_mem _ mem)

section Merged

variable {inputs table : Table Schema} {renames : Table String}

/-- An input that a name stands for after merging is an input. -/
lemma Merged.mem_keys_of_apply (merged : Merged inputs table renames) {name : String}
    (mem : (Renaming.ofTable renames).apply name ∈ Table.keys table) : name ∈ Table.keys inputs := by
  cases renamed : Table.get? renames name with
  | some target => exact merged.known name (Table.mem_keys_of_get? renamed)
  | none =>
      rw [Renaming.apply, Renaming.ofTable, renamed, Option.getD_none] at mem
      obtain ⟨s, found⟩ := Table.exists_get?_iff.2 mem
      obtain ⟨t, input, -⟩ := merged.own name s found
      exact Table.mem_keys_of_get? input

/-- Entries refer to entries if and only if the inputs refer to inputs. -/
theorem Merged.references_iff (merged : Merged inputs table renames)
    (distinct : (Table.keys inputs).Nodup) :
    (∀ name s, (name, s) ∈ table → ∀ target ∈ s.references, target ∈ Table.keys table) ↔
      ∀ name s, (name, s) ∈ inputs → ∀ target ∈ s.references, target ∈ Table.keys inputs := by
  constructor
  · intro closed name s mem target refers
    obtain ⟨t, stands, same⟩ := merged.stands name s ((Table.get?_eq_some_iff distinct).2 mem)
    refine merged.mem_keys_of_apply (closed _ t (Table.mem_of_get? stands) _ ?_)
    rw [← Schema.mem_references_normal_iff, same, Schema.mem_references_normal_iff]
    exact Schema.mem_references_rename_iff.2 ⟨target, refers, rfl⟩
  · intro closed name s mem target refers
    obtain ⟨t, input, rfl⟩ := merged.own name s ((Table.get?_eq_some_iff merged.distinct).2 mem)
    obtain ⟨old, named, rfl⟩ := Schema.mem_references_rename_iff.1 refers
    obtain ⟨u, there⟩ :=
      Table.exists_get?_iff.2 (closed name t (Table.mem_of_get? input) old named)
    obtain ⟨v, stands, -⟩ := merged.stands old u there
    exact Table.mem_keys_of_get? stands

end Merged

/-! ### Resolution -/

/-- The forms of a table are found if they exist. -/
lemma exists_forms {table : Table Schema} (formed : Formed table) :
    ∃ forms, table.mapM (fun (name, s) => return (← canonical s, name)) =
      (.ok forms : Except CompileError Forms) := by
  induction table with
  | nil => exact ⟨[], rfl⟩
  | cons head rest ih =>
      obtain ⟨name, s⟩ := head
      obtain ⟨form, own⟩ := formed name s List.mem_cons_self
      obtain ⟨forms, others⟩ := ih formed.tail
      refine ⟨(form, name) :: forms, mapM_eq_ok_iff.2 (.cons ?_ (mapM_eq_ok_iff.1 others))⟩
      exact bind_eq_ok_iff.2 ⟨form, own, rfl⟩

/-- Components with canonical forms are merged, and their entries have forms. -/
lemma exists_merged {components : Table Schema} (distinct : (Table.keys components).Nodup)
    (formed : Formed components) :
    ∃ table renames forms, merge components = .ok (table, renames) ∧
      table.mapM (fun (name, s) => return (← canonical s, name)) =
        (.ok forms : Except CompileError Forms) ∧ Merged components table renames := by
  obtain ⟨⟨table, renames⟩, merge⟩ := exists_merge formed
  obtain ⟨merged, apart⟩ := merged_of_merge distinct merge
  have formed' : Formed table := by
    intro name s mem
    have found := (Table.get?_eq_some_iff merged.distinct).2 mem
    exact (apart name s name s found found).1
  obtain ⟨forms, collected⟩ := exists_forms formed'
  exact ⟨table, renames, forms, merge, collected, merged⟩

/-- Only schemas with canonical forms can be taken into a table. -/
lemma Progress.formed_of_addAll {progress after : Progress} {candidates : Table Schema}
    (ok : progress.addAll candidates = .ok after) : Formed candidates := by
  induction candidates generalizing progress with
  | nil => nofun
  | cons head rest ih =>
      obtain ⟨name, candidate⟩ := head
      obtain ⟨next, first, ok⟩ := bind_eq_ok_iff.1 ok
      obtain ⟨form, formed, -⟩ := bind_eq_ok_iff.1 first
      rintro other s (- | ⟨-, mem⟩)
      · exact Schema.exists_canonical_iff.2
          (Schema.safe_rename_iff.1 (Schema.exists_canonical_iff.1 ⟨form, formed⟩))
      · exact ih ok other s mem

/-- Only schemas with canonical forms can be resolved. -/
lemma formed_of_resolve {components candidates : Table Schema} {resolution : Resolution}
    (distinct : (Table.keys components).Nodup) (ok : resolve components candidates = .ok resolution) :
    Formed (components ++ candidates) := by
  obtain ⟨table, renames, forms, added, merged, -, adding, -⟩ := resolve_eq_ok_iff.1 ok
  intro name s mem
  rcases List.mem_append.1 mem with mem | mem
  · exact formed_of_merge distinct merged ((Table.get?_eq_some_iff distinct).2 mem)
  · exact Progress.formed_of_addAll adding name s mem

/-- **Resolution of components succeeds** if and only if all of them have canonical forms and refer to
components. -/
theorem exists_resolve_iff {components : Table Schema} (distinct : (Table.keys components).Nodup) :
    (∃ resolution, resolve components [] = .ok resolution) ↔
      Formed components ∧
        ∀ name s, (name, s) ∈ components → ∀ target ∈ s.references,
          target ∈ Table.keys components := by
  constructor
  · rintro ⟨resolution, ok⟩
    have formed := formed_of_resolve distinct ok
    rw [List.append_nil] at formed
    refine ⟨formed, ?_⟩
    obtain ⟨table, renames, forms, added, merged, -, adding, closed, -⟩ := resolve_eq_ok_iff.1 ok
    cases adding
    exact ((merged_of_merge distinct merged).1.references_iff distinct).1 (dangling?_eq_none_iff.1 closed)
  · rintro ⟨formed, closed⟩
    obtain ⟨table, renames, forms, merged, collected, merging⟩ := exists_merged distinct formed
    refine ⟨_, resolve_eq_ok_iff.2 ⟨table, renames, forms, ⟨table, renames, forms, []⟩, merged,
      collected, rfl, ?_, rfl⟩⟩
    exact dangling?_eq_none_iff.2 ((merging.references_iff distinct).2 closed)

end SchemaCompiler.Resolution
