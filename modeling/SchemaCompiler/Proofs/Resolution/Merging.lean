import SchemaCompiler.Proofs.Except
import SchemaCompiler.Proofs.Schema.Renaming
import SchemaCompiler.Resolution

/-!
Merging is exact.

In each round the entries whose form an earlier entry has are dropped, and the references to them
are redirected, by which further entries may come to have one form.  The invariant over the rounds is
that every component that there was stands for an entry whose normal form is that of the component
with its references redirected.

* `Resolution.duplicates_spec`: what one search for duplicates finds;
* `Resolution.Merged`: the invariant, and `Merged.round`, by which it passes through a round;
* `Resolution.Apart`: all entries have canonical forms, and no two entries have the same;
* `Resolution.merged_of_merge`: both hold after merging.
-/

namespace SchemaCompiler.Resolution

/-! ### One search for duplicates -/

lemma lookup_cons (form met : Canonical) (name : String) (forms : Forms) :
    ((form, name) :: forms).lookup met = if met = form then some name else forms.lookup met := by
  rw [List.lookup_cons]
  by_cases eq : met = form
  · rw [if_pos eq, eq]
    simp
  · rw [if_neg eq, show (met == form) = false by simpa using eq]

/-- What is known of an entry after a search: it is no duplicate, or it is one of an entry that is
kept, which has been met before or is met in the search. -/
def Placed (forms : Forms) (rest : Table Schema) (merged : Table String) (name : String)
    (form : Canonical) : Prop :=
  (Table.get? merged name = none ∧ forms.lookup form = none) ∨
    ∃ first, Table.get? merged name = some first ∧
      (forms.lookup form = some first ∨ forms.lookup form = none ∧
        ∃ s, (first, s) ∈ rest ∧ Table.get? merged first = none ∧ canonical s = .ok form)

/-- What a search for duplicates finds. -/
structure Search (forms : Forms) (rest : Table Schema) (merged : Table String) : Prop where
  among : ∀ name ∈ Table.keys merged, name ∈ Table.keys rest
  distinct : (Table.keys merged).Nodup
  placed : ∀ name s, (name, s) ∈ rest →
    ∃ form, canonical s = .ok form ∧ Placed forms rest merged name form
  apart : ∀ m s n t, (m, s) ∈ rest → (n, t) ∈ rest → Table.get? merged m = none →
    Table.get? merged n = none → canonical s = canonical t → m = n

lemma Search.form_unmet {forms : Forms} {rest : Table Schema} {merged : Table String}
    (search : Search forms rest merged) {name : String} {s : Schema} {form : Canonical}
    (mem : (name, s) ∈ rest) (kept : Table.get? merged name = none) (ok : canonical s = .ok form) :
    forms.lookup form = none := by
  obtain ⟨other, found, placed⟩ := search.placed name s mem
  obtain rfl : other = form := by
    rw [ok] at found
    exact (Except.ok.inj found).symm
  rcases placed with ⟨-, unmet⟩ | ⟨first, taken, -⟩
  · exact unmet
  · rw [kept] at taken
    cases taken

/-- An entry whose form has been met is merged. -/
lemma Search.merge {forms : Forms} {rest : Table Schema} {merged : Table String}
    (search : Search forms rest merged) {name first : String} {s : Schema} {form : Canonical}
    (new : name ∉ Table.keys rest) (ok : canonical s = .ok form)
    (met : forms.lookup form = some first) :
    Search forms ((name, s) :: rest) ((name, first) :: merged) := by
  have other : ∀ n t, (n, t) ∈ rest → name ≠ n := by
    rintro n t mem rfl
    exact new (List.mem_map.2 ⟨_, mem, rfl⟩)
  have kept : ∀ n t, (n, t) ∈ rest →
      Table.get? ((name, first) :: merged) n = Table.get? merged n := fun n t mem => by
    rw [Table.get?_cons, if_neg (other n t mem)]
  have taken : Table.get? ((name, first) :: merged) name = some first := by
    rw [Table.get?_cons, if_pos rfl]
  refine ⟨?_, ?_, ?_, ?_⟩
  · intro n mem
    rcases List.mem_cons.1 mem with rfl | mem
    · exact List.mem_cons_self
    · exact List.mem_cons_of_mem _ (search.among n mem)
  · exact List.nodup_cons.2 ⟨fun mem => new (search.among name mem), search.distinct⟩
  · intro n t mem
    rcases List.mem_cons.1 mem with eq | mem
    · cases eq
      exact ⟨form, ok, .inr ⟨first, taken, .inl met⟩⟩
    · obtain ⟨found, ok, placed⟩ := search.placed n t mem
      refine ⟨found, ok, ?_⟩
      rw [Placed, kept n t mem]
      -- only the entry at hand gets a target; the others keep the reason for which they were placed
      rcases placed with unmet | ⟨target, eq, before | ⟨unmet, u, mem', alive, form'⟩⟩
      · exact .inl unmet
      · exact .inr ⟨target, eq, .inl before⟩
      · refine .inr ⟨target, eq, .inr ⟨unmet, u, List.mem_cons_of_mem _ mem', ?_, form'⟩⟩
        rw [kept target u mem', alive]
  · intro m t n u memM memN aliveM aliveN same
    rcases List.mem_cons.1 memM with eq | memM
    · cases eq
      rw [taken] at aliveM
      cases aliveM
    · rcases List.mem_cons.1 memN with eq | memN
      · cases eq
        rw [taken] at aliveN
        cases aliveN
      · rw [kept m t memM] at aliveM
        rw [kept n u memN] at aliveN
        exact search.apart m t n u memM memN aliveM aliveN same

/-- An entry whose form has not been met is kept. -/
lemma Search.keep {forms : Forms} {rest : Table Schema} {merged : Table String} {name : String}
    {s : Schema} {form : Canonical} (search : Search ((form, name) :: forms) rest merged)
    (new : name ∉ Table.keys rest) (ok : canonical s = .ok form) (unmet : forms.lookup form = none) :
    Search forms ((name, s) :: rest) merged := by
  have alive : Table.get? merged name = none :=
    Table.get?_eq_none_iff.2 fun mem => new (search.among name mem)
  have own : ∀ t, canonical t = .ok form → ∀ n, (n, t) ∈ rest → Table.get? merged n ≠ none := by
    intro t form' n mem kept
    have := search.form_unmet mem kept form'
    rw [lookup_cons, if_pos rfl] at this
    cases this
  refine ⟨fun n mem => List.mem_cons_of_mem _ (search.among n mem), search.distinct, ?_, ?_⟩
  · intro n t mem
    rcases List.mem_cons.1 mem with eq | mem
    · cases eq
      exact ⟨form, ok, .inl ⟨alive, unmet⟩⟩
    · obtain ⟨found, form', placed⟩ := search.placed n t mem
      refine ⟨found, form', ?_⟩
      by_cases eq : found = form
      · -- the entry at hand is the first of this form
        subst eq
        rcases placed with ⟨kept, -⟩ | ⟨first, taken, met | ⟨none, -⟩⟩
        · exact absurd kept (own t form' n mem)
        · rw [lookup_cons, if_pos rfl, Option.some.injEq] at met
          exact .inr ⟨name, by rw [taken, met], .inr ⟨unmet, s, List.mem_cons_self, alive, ok⟩⟩
        · rw [lookup_cons, if_pos rfl] at none
          cases none
      · rw [Placed, lookup_cons, if_neg eq] at placed
        rcases placed with placed | ⟨first, taken, met | ⟨none, u, mem', kept, same⟩⟩
        · exact .inl placed
        · exact .inr ⟨first, taken, .inl met⟩
        · exact .inr ⟨first, taken, .inr ⟨none, u, List.mem_cons_of_mem _ mem', kept, same⟩⟩
  · intro m t n u memM memN aliveM aliveN same
    rcases List.mem_cons.1 memM with eq | memM <;> rcases List.mem_cons.1 memN with eq' | memN
    · cases eq
      cases eq'
      rfl
    · cases eq
      exact absurd aliveN (own u (same ▸ ok) n memN)
    · cases eq'
      exact absurd aliveM (own t (same ▸ ok) m memM)
    · exact search.apart m t n u memM memN aliveM aliveN same

theorem duplicates_spec {forms : Forms} {rest : Table Schema} {merged : Table String}
    (distinct : (Table.keys rest).Nodup) (ok : duplicates forms rest = .ok merged) :
    Search forms rest merged := by
  induction rest generalizing forms merged with
  | nil =>
      cases ok
      exact ⟨nofun, List.nodup_nil, nofun, nofun⟩
  | cons head rest ih =>
      obtain ⟨name, s⟩ := head
      obtain ⟨new, distinct⟩ := List.nodup_cons.1 distinct
      rw [duplicates, bind_eq_ok_iff] at ok
      obtain ⟨form, formed, ok⟩ := ok
      cases met : forms.lookup form with
      | none =>
          rw [met] at ok
          exact (ih distinct ok).keep new formed met
      | some first =>
          rw [met, bind_eq_ok_iff] at ok
          obtain ⟨merged', others, eq⟩ := ok
          cases eq
          exact (ih distinct others).merge new formed met

/-! ### Rounds -/

/-- Every input stands for an entry of a table, which is one of the inputs with its references
redirected; for the others the normal forms agree. -/
structure Merged (inputs table : Table Schema) (renames : Table String) : Prop where
  distinct : (Table.keys table).Nodup
  alive : ∀ name ∈ Table.keys table, Table.get? renames name = none
  known : ∀ name ∈ Table.keys renames, name ∈ Table.keys inputs
  own : ∀ name s, Table.get? table name = some s →
    ∃ t, Table.get? inputs name = some t ∧ s = t.rename (.ofTable renames)
  stands : ∀ name s, Table.get? inputs name = some s →
    ∃ t, Table.get? table ((Renaming.ofTable renames).apply name) = some t ∧
      t.normal = (s.rename (.ofTable renames)).normal

/-- At first every input stands for itself. -/
lemma Merged.initial {inputs : Table Schema} (distinct : (Table.keys inputs).Nodup) :
    Merged inputs inputs [] := by
  have same : ∀ s : Schema, s.rename (.ofTable []) = s := fun s =>
    Schema.rename_eq_self fun name _ => rfl
  refine ⟨distinct, fun name _ => rfl, nofun, ?_, ?_⟩
  · exact fun name s found => ⟨s, found, (same s).symm⟩
  · exact fun name s found => ⟨s, found, by rw [same]⟩

/-- Renames follow further ones as their composition. -/
lemma ofTable_extendRenames {renames merged : Table String} (distinct : (Table.keys merged).Nodup)
    (alive : ∀ name ∈ Table.keys merged, Table.get? renames name = none) :
    Renaming.ofTable (extendRenames renames merged) =
      (Renaming.ofTable renames).andThen (.ofTable merged) := by
  funext name
  rw [Renaming.ofTable, extendRenames, Table.get?_foldl_insert distinct, redirect, Table.get?_mapValues,
    Renaming.andThen, Renaming.ofTable]
  cases before : Table.get? renames name with
  | none => exact Option.or_none
  | some target =>
      have absent : Table.get? merged name = none := by
        by_contra there
        have mem := Table.exists_get?_iff.1 (Option.ne_none_iff_exists'.1 there)
        rw [alive name mem] at before
        cases before
      rw [absent]
      rfl

lemma mem_keys_extendRenames {renames merged : Table String} (distinct : (Table.keys merged).Nodup)
    {name : String} (mem : name ∈ Table.keys (extendRenames renames merged)) :
    name ∈ Table.keys renames ∨ name ∈ Table.keys merged := by
  obtain ⟨target, found⟩ := Table.exists_get?_iff.2 mem
  rw [extendRenames, Table.get?_foldl_insert distinct, redirect, Table.get?_mapValues] at found
  rcases Option.or_eq_some_iff.1 found with found | ⟨-, found⟩
  · exact .inr (Table.exists_get?_iff.1 ⟨_, found⟩)
  · obtain ⟨old, found, -⟩ := Option.map_eq_some_iff.1 found
    exact .inl (Table.exists_get?_iff.1 ⟨_, found⟩)

/-- The entries that a round keeps. -/
def kept (merged : Table String) (table : Table Schema) : Table Schema :=
  table.filter fun entry => !Table.contains merged entry.1

lemma get?_kept {merged : Table String} {table : Table Schema} {name : String} :
    Table.get? (kept merged table) name =
      if Table.get? merged name = none then Table.get? table name else none := by
  rw [kept, Table.get?_filter fun name => !Table.contains merged name, Table.contains]
  cases Table.get? merged name <;> rfl

/-- Every entry is kept or is merged into one of its form that is. -/
lemma Search.exists_kept {table : Table Schema} {merged : Table String}
    (search : Search [] table merged) (distinct : (Table.keys table).Nodup) {name : String}
    {s : Schema} (found : Table.get? table name = some s) :
    ∃ t, Table.get? (kept merged table) ((Renaming.ofTable merged).apply name) = some t ∧
      t.normal = s.normal := by
  obtain ⟨form, ok, placed⟩ := search.placed name s (Table.mem_of_get? found)
  rw [Renaming.apply, Renaming.ofTable]
  rcases placed with ⟨alive, -⟩ | ⟨first, taken, met | ⟨-, t, mem, alive, same⟩⟩
  · refine ⟨s, ?_, rfl⟩
    rw [alive, Option.getD_none, get?_kept, if_pos alive, found]
  · cases met
  · refine ⟨t, ?_, (Schema.canonical_eq_iff same ok).1 rfl⟩
    rw [taken, Option.getD_some, get?_kept, if_pos alive, Table.get?_eq_some_iff distinct]
    exact mem

/-- The invariant passes through a round. -/
lemma Merged.round {inputs table : Table Schema} {renames merged : Table String}
    (before : Merged inputs table renames) (search : Search [] table merged) :
    Merged inputs (renameAll (.ofTable merged) (kept merged table)) (extendRenames renames merged) := by
  have dead : ∀ name ∈ Table.keys merged, Table.get? renames name = none := fun name mem =>
    before.alive name (search.among name mem)
  have composed := ofTable_extendRenames search.distinct dead
  refine ⟨?_, ?_, ?_, ?_, ?_⟩
  · rw [renameAll, Table.keys_mapValues]
    exact before.distinct.sublist (Table.keys_filter_sublist _ _)
  · -- no survivor is renamed: it was not renamed before, nor is it merged now
    intro name mem
    rw [renameAll, Table.keys_mapValues] at mem
    obtain ⟨s, found⟩ := Table.exists_get?_iff.2 mem
    rw [get?_kept] at found
    split at found
    · next alive =>
        have := congrFun composed name
        rw [Renaming.andThen, Renaming.ofTable, Renaming.ofTable, Renaming.ofTable,
          before.alive name (Table.mem_keys_of_get? found), alive] at this
        exact this
    · cases found
  · intro name mem
    rcases mem_keys_extendRenames search.distinct mem with mem | mem
    · exact before.known name mem
    · obtain ⟨s, found⟩ := Table.exists_get?_iff.2 (search.among name mem)
      obtain ⟨t, there, -⟩ := before.own name s found
      exact Table.mem_keys_of_get? there
  · -- what survives comes from an input, renamed by this round after the earlier ones
    intro name s found
    rw [renameAll, Table.get?_mapValues] at found
    obtain ⟨t, stays, rfl⟩ := Option.map_eq_some_iff.1 found
    rw [get?_kept] at stays
    split at stays
    · obtain ⟨u, there, rfl⟩ := before.own name t stays
      exact ⟨u, there, by rw [composed, Schema.rename_rename]⟩
    · cases stays
  · intro name s found
    obtain ⟨t, there, normal⟩ := before.stands name s found
    obtain ⟨u, stays, same⟩ := search.exists_kept before.distinct there
    refine ⟨u.rename (.ofTable merged), ?_, ?_⟩
    · rw [composed, Renaming.apply_andThen, renameAll, Table.get?_mapValues, stays, Option.map_some]
    · rw [composed, ← Schema.rename_rename, Schema.normal_rename, same, normal, ← Schema.normal_rename]

/-- Every entry has a canonical form, and no other one has the same. -/
def Apart (table : Table Schema) : Prop :=
  ∀ m s n t, Table.get? table m = some s → Table.get? table n = some t →
    (∃ form, canonical s = .ok form) ∧ (canonical s = canonical t → m = n)

/-- A search that drops nothing has found no two entries of one form. -/
lemma Search.apart_of_kept {table : Table Schema} {merged : Table String}
    (search : Search [] table merged) (all : ¬(kept merged table).length < table.length) :
    Apart table := by
  have alive : ∀ name s, (name, s) ∈ table → Table.get? merged name = none := by
    intro name s mem
    have length := Nat.le_antisymm (List.length_filter_le _ _) (Nat.le_of_not_lt all)
    have := (List.length_filter_eq_length_iff.1 length) (name, s) mem
    rw [Table.contains] at this
    cases eq : Table.get? merged name with
    | none => rfl
    | some first => simp [eq] at this
  intro m s n t foundM foundN
  have memM := Table.mem_of_get? foundM
  have memN := Table.mem_of_get? foundN
  obtain ⟨form, ok, -⟩ := search.placed m s memM
  refine ⟨⟨form, ok⟩, ?_⟩
  exact search.apart m s n t memM memN (alive m s memM) (alive n t memN)

/-- What one round of merging is. -/
lemma mergeRounds_cases {table : Table Schema} {renames : Table String}
    {result : Table Schema × Table String} (ok : mergeRounds table renames = .ok result) :
    ∃ merged, duplicates [] table = .ok merged ∧
      ((kept merged table).length < table.length ∧
          mergeRounds (renameAll (.ofTable merged) (kept merged table))
            (extendRenames renames merged) = .ok result ∨
        ¬(kept merged table).length < table.length ∧ result = (table, renames)) := by
  rw [mergeRounds, bind_eq_ok_iff] at ok
  obtain ⟨merged, found, ok⟩ := ok
  refine ⟨merged, found, ?_⟩
  change (if _ : (kept merged table).length < table.length then
      mergeRounds (renameAll (.ofTable merged) (kept merged table)) (extendRenames renames merged)
    else .ok (table, renames)) = .ok result at ok
  split at ok
  · next fewer => exact .inl ⟨fewer, ok⟩
  · next all => exact .inr ⟨all, (Except.ok.inj ok).symm⟩

/-- The invariant holds after the rounds, and then no two entries have one canonical form. -/
theorem mergeRounds_spec {inputs table last : Table Schema} {renames final : Table String}
    (before : Merged inputs table renames) (ok : mergeRounds table renames = .ok (last, final)) :
    Merged inputs last final ∧ Apart last := by
  induction length : table.length using Nat.strong_induction_on generalizing table renames with
  | _ n ih =>
      subst length
      obtain ⟨merged, found, ⟨fewer, ok⟩ | ⟨all, result⟩⟩ := mergeRounds_cases ok
      · refine ih _ ?_ (before.round (duplicates_spec before.distinct found)) ok rfl
        rwa [renameAll, Table.mapValues, List.length_map]
      · cases result
        exact ⟨before, (duplicates_spec before.distinct found).apart_of_kept all⟩

/-- Merging is exact: every component stands for the only entry that its form has. -/
theorem merged_of_merge {inputs table : Table Schema} {renames : Table String}
    (distinct : (Table.keys inputs).Nodup) (ok : merge inputs = .ok (table, renames)) :
    Merged inputs table renames ∧ Apart table :=
  mergeRounds_spec (.initial distinct) ok

/-- Only components with canonical forms can be merged. -/
lemma formed_of_merge {inputs : Table Schema} {result : Table Schema × Table String}
    (distinct : (Table.keys inputs).Nodup) (ok : merge inputs = .ok result) {name : String}
    {s : Schema} (found : Table.get? inputs name = some s) : ∃ form, canonical s = .ok form := by
  obtain ⟨merged, search, -⟩ := mergeRounds_cases ok
  obtain ⟨form, ok, -⟩ := (duplicates_spec distinct search).placed name s (Table.mem_of_get? found)
  exact ⟨form, ok⟩

/-- Entries refer to entries if the components refer to components. -/
theorem Merged.closed {inputs table : Table Schema} {renames : Table String}
    (merged : Merged inputs table renames)
    (closed : ∀ m s n, Table.get? inputs m = some s → s.Names n → n ∈ Table.keys inputs)
    {name target : String} {s : Schema} (found : Table.get? table name = some s)
    (names : s.Names target) : target ∈ Table.keys table := by
  obtain ⟨t, input, rfl⟩ := merged.own name s found
  obtain ⟨old, named, rfl⟩ := Schema.names_rename_iff.1 names
  obtain ⟨u, there⟩ := Table.exists_get?_iff.2 (closed name t old input named)
  obtain ⟨v, stands, -⟩ := merged.stands old u there
  exact Table.mem_keys_of_get? stands

end SchemaCompiler.Resolution
