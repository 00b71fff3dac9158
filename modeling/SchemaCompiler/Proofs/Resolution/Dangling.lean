import SchemaCompiler.Proofs.Resolution.Success

/-!
How the resolution of components fails.

References are checked after merging, in a table from which entries are gone and in which references
have been rewritten.  A name that no component has is never the source or the target of a rename, so
what is reported of the entry that is left is true of the component as it was given.

* `Resolution.exists_of_dangling?`: a fault is about an entry and one of its references;
* `Resolution.Survives`: a component is not merged into another one;
* `Resolution.Merged.refers_of_dangling`: an entry refers to what is not there as its component does;
* `Resolution.resolve_or_dangling`: components with canonical forms can be resolved unless one of
  them refers to what is no component, and then that is what resolution reports.
-/

namespace SchemaCompiler.Resolution

/-- A fault is about a listed entry, one of whose references names nothing in the table. -/
lemma exists_of_dangling? {table rest : Table Schema} {fault : CompileError}
    (found : dangling? table rest = some fault) :
    ∃ source s target, fault = .danglingReference source target ∧ (source, s) ∈ rest ∧
      target ∈ s.references ∧ target ∉ Table.keys table := by
  induction rest with
  | nil => cases found
  | cons head rest ih =>
      obtain ⟨name, s⟩ := head
      rw [dangling?] at found
      split at found
      · next target missing =>
          cases found
          obtain ⟨absent, -⟩ := List.find?_eq_some_iff_append.1 missing
          refine ⟨name, s, target, rfl, List.mem_cons_self, List.mem_of_find?_eq_some missing, ?_⟩
          simpa [Table.contains, ← Table.get?_eq_none_iff] using absent
      · obtain ⟨source, t, target, eq, mem, refers, absent⟩ := ih found
        exact ⟨source, t, target, eq, List.mem_cons_of_mem _ mem, refers, absent⟩

/-- A component is not merged into another one. -/
def Survives (components : Table Schema) (name : String) : Prop :=
  ∃ table renames, merge components = .ok (table, renames) ∧ name ∈ Table.keys table ∧
    Table.get? renames name = none

/-- An entry that refers to what is not in the table stands for a component that does so, and that is
no component. -/
lemma Merged.refers_of_dangling {inputs table : Table Schema} {renames : Table String}
    (merged : Merged inputs table renames) {name target : String} {s : Schema}
    (entry : (name, s) ∈ table) (refers : target ∈ s.references) (absent : target ∉ Table.keys table) :
    ∃ t, Table.get? inputs name = some t ∧ target ∈ t.references ∧ target ∉ Table.keys inputs := by
  obtain ⟨t, input, rfl⟩ := merged.own name s ((Table.get?_eq_some_iff merged.distinct).2 entry)
  obtain ⟨old, named, rfl⟩ := Schema.mem_references_rename_iff.1 refers
  -- a component stands for an entry, so the name that was rewritten is none
  have unknown : old ∉ Table.keys inputs := by
    intro known
    obtain ⟨u, there⟩ := Table.exists_get?_iff.2 known
    obtain ⟨v, stands, -⟩ := merged.stands old u there
    exact absent (Table.mem_keys_of_get? stands)
  have kept : (Renaming.ofTable renames).apply old = old := by
    have unnamed : Table.get? renames old = none :=
      Table.get?_eq_none_iff.2 fun mem => unknown (merged.known old mem)
    rw [Renaming.apply, Renaming.ofTable, unnamed, Option.getD_none]
  rw [kept]
  exact ⟨t, input, named, unknown⟩

/-! ### Resolution -/

/-- What resolution fails with: what a canonical form is missing for, or a dangling reference. -/
lemma resolve_eq_error_iff {components candidates : Table Schema} {fault : CompileError} :
    resolve components candidates = .error fault ↔
      merge components = .error fault ∨ ∃ table renames, merge components = .ok (table, renames) ∧
        (table.mapM (fun (name, s) => return (← canonical s, name)) =
            (.error fault : Except CompileError Forms) ∨
          ∃ forms, table.mapM (fun (name, s) => return (← canonical s, name)) =
              (.ok forms : Except CompileError Forms) ∧
            (Progress.addAll ⟨table, renames, forms, []⟩ candidates = .error fault ∨
              ∃ added, Progress.addAll ⟨table, renames, forms, []⟩ candidates = .ok added ∧
                dangling? added.finish.table added.finish.table = some fault)) := by
  simp only [resolve, bind_eq_error_iff, Prod.exists]
  refine or_congr_right (exists₂_congr fun table renames => and_congr_right fun _ => or_congr_right
    (exists_congr fun forms => and_congr_right fun _ => or_congr_right
      (exists_congr fun added => and_congr_right fun _ => ?_)))
  -- all that is left is the check of references
  constructor
  · intro failed
    split at failed
    · next error found =>
        cases failed
        exact found
    · cases failed
  · intro found
    split
    · next error found' => exact congrArg Except.error (Option.some.inj (found'.symm.trans found))
    · next none => cases none.symm.trans found

/-- Components with canonical forms fail to be resolved by the check of references alone. -/
lemma exists_dangling?_of_resolve {components : Table Schema}
    (distinct : (Table.keys components).Nodup) (formed : Formed components) {fault : CompileError}
    (failed : resolve components [] = .error fault) :
    ∃ table renames, merge components = .ok (table, renames) ∧ Merged components table renames ∧
      dangling? table table = some fault := by
  obtain ⟨table, renames, forms, merge, collected, merged⟩ := exists_merged distinct formed
  refine ⟨table, renames, merge, merged, ?_⟩
  rcases resolve_eq_error_iff.1 failed with unmerged | ⟨_, _, merge', uncollected | checked⟩
  · cases merge.symm.trans unmerged
  · cases merge.symm.trans merge'
    cases collected.symm.trans uncollected
  · cases merge.symm.trans merge'
    obtain ⟨_, -, unadded | ⟨added, adding, found⟩⟩ := checked
    · cases unadded
    · cases adding
      exact found

/-- **Resolution rejects dangling tables and no others**: components with canonical forms can be resolved
if and only if they refer to components, and otherwise a component that is not merged into another one
is reported with a reference of its own to what is no component. -/
theorem resolve_or_dangling {components : Table Schema} (distinct : (Table.keys components).Nodup)
    (formed : Formed components) :
    ((∃ resolution, resolve components [] = .ok resolution) ↔
        ∀ name s, (name, s) ∈ components → ∀ target ∈ s.references,
          target ∈ Table.keys components) ∧
      ∀ fault, resolve components [] = .error fault →
        ∃ source s target, fault = .danglingReference source target ∧
          Table.get? components source = some s ∧ target ∈ s.references ∧
          target ∉ Table.keys components ∧ Survives components source := by
  constructor
  · rw [exists_resolve_iff distinct, and_iff_right formed]
  · intro fault failed
    obtain ⟨table, renames, merge, merged, found⟩ := exists_dangling?_of_resolve distinct formed failed
    obtain ⟨source, s, target, rfl, entry, refers, absent⟩ := exists_of_dangling? found
    obtain ⟨t, input, refers, unknown⟩ := merged.refers_of_dangling entry refers absent
    have survives : source ∈ Table.keys table := List.mem_map_of_mem entry
    exact ⟨source, t, target, rfl, input, refers, unknown, table, renames, merge, survives,
      merged.alive source survives⟩

/-- The component that is reported was given the reference that others were merged by: `Friend` is merged
into `Pet` as soon as `Dog` is merged into `Cat`, and no `Bird` is there. -/
theorem resolve_or_dangling_bird :
    let pets (name : String) : Schema :=
      .mk (.union .anyOf [.ofName name, .ofName "Bird"] none false) false
    let components : Table Schema :=
      [("Cat", .mk .boolean false), ("Dog", .mk .boolean false), ("Pet", pets "Dog"),
        ("Friend", pets "Cat")]
    (Table.keys components).Nodup ∧ Formed components ∧
      ∃ source s target, resolve components [] = .error (.danglingReference source target) ∧
        (CompileError.danglingReference source target).message =
          "schema 'Pet' references undefined schema 'Bird'" ∧
        Table.get? components source = some s ∧ target ∈ s.references ∧
        target ∉ Table.keys components ∧ Survives components source := by
  intro pets components
  have distinct : (Table.keys components).Nodup := by decide
  have formed : Formed components := by
    have all : ∀ entry ∈ components, (canonical entry.2).toOption.isSome = true := by decide
    exact fun name s mem => exists_eq_ok_of_isSome (all (name, s) mem)
  have reported : (fault? (resolve components [])).map CompileError.message =
      some "schema 'Pet' references undefined schema 'Bird'" := by decide +kernel
  obtain ⟨fault, failed, wording⟩ := Option.map_eq_some_iff.1 reported
  rw [fault?_eq_some_iff] at failed
  obtain ⟨source, s, target, rfl, found⟩ := (resolve_or_dangling distinct formed).2 fault failed
  exact ⟨distinct, formed, source, s, target, failed, wording, found⟩

end SchemaCompiler.Resolution
