import SchemaCompiler.Output.Modules
import SchemaCompiler.Proofs.Resolution.Cycles
import SchemaCompiler.Proofs.Validator.Basic

/-!
Which validators put references off.

The validators of a resolved table are declared one after another, so a reference is put off if its
entry is not declared before.  The order of emission leaves just the references inside of cycles: an
entry outside of every cycle finds all that it refers to declared, and the first entry of a cycle refers
to one that is not.

* `Scope.Declares`, `Scope.after`: the schemas that are declared after some names;
* `Validator.needsLazy_ofSchema_iff`: the validator of a schema puts a reference off if the schema refers
  to a name that is not declared;
* `Resolution.needsLazy_iff_cycle`: references are put off in cycles alone, and in each of them;
* `Resolution.annotated_iff_cycles`: declarations are annotated if there is a cycle.
-/

namespace SchemaCompiler

/-! ### Scopes -/

namespace Scope

/-- The schemas that are declared are those of some names. -/
def Declares (scope : Scope) (names : List String) : Prop :=
  ∀ name, scope.isDeclared name = true ↔ name ∈ names

/-- The scope after the declarations of some names, one after another. -/
def after (suffix : String) (names : List String) : Scope := names.foldl declare (start suffix)

lemma isDeclared_declare (scope : Scope) (name other : String) :
    (scope.declare name).isDeclared other = (other == name || scope.isDeclared other) := by
  obtain ⟨suffix, declared⟩ := scope
  cases declared with
  | none => exact (Bool.or_true _).symm
  | some names => exact List.contains_cons

lemma Declares.declare {scope : Scope} {names : List String} (declares : scope.Declares names)
    (name : String) : (scope.declare name).Declares (names ++ [name]) := by
  intro other
  rw [isDeclared_declare, Bool.or_eq_true, beq_iff_eq, declares other, List.mem_append,
    List.mem_singleton, or_comm]

/-- Just the names that were declared are. -/
lemma declares_after (suffix : String) (names : List String) : (after suffix names).Declares names := by
  induction names using List.reverseRecOn with
  | nil =>
      intro name
      simp [after, start, isDeclared]
  | append_singleton names name ih =>
      rw [after, List.foldl_append]
      exact ih.declare name

end Scope

/-! ### References of validators -/

namespace Validator

variable {registry : Registry} {scope : Scope}

lemma anyNeedsLazy_eq (members : List Validator) :
    anyNeedsLazy scope members = members.any (needsLazy scope) := by
  induction members with
  | nil => rfl
  | cons v rest ih => rw [anyNeedsLazy, ih, List.any_cons]

lemma fieldsNeedLazy_eq (fields : List (Field Validator)) :
    fieldsNeedLazy scope fields = fields.any fun field => field.rule.needsLazy scope := by
  induction fields with
  | nil => rfl
  | cons field rest ih => rw [fieldsNeedLazy, ih, List.any_cons]

/-- External names are always there. -/
lemma needsLazy_orExternal {base : Validator} (plain : base.needsLazy scope = false)
    (name : Option String) : (base.orExternal name).needsLazy scope = false := by
  cases name with
  | none => exact plain
  | some name => rfl

lemma needsLazy_orNull (base : Validator) (admitsNull : Bool) :
    (base.orNull admitsNull).needsLazy scope = base.needsLazy scope := by
  cases admitsNull <;> rfl

lemma needsLazy_ofRules (rules : ObjectRules Schema) :
    (ofRules registry rules).needsLazy scope =
      rules.children.any fun s => (ofSchema registry s).needsLazy scope := by
  obtain ⟨properties, required, extras⟩ := rules
  rw [ofRules, needsLazy, fieldsNeedLazy_eq, ofProperties_eq, List.any_map, ObjectRules.children,
    List.any_append, List.any_map]
  congr 1
  cases extras <;> simp [ofExtras, extrasNeedLazy, Extras.toList]

/-- A schema puts references off if it is a reference to what is not declared, or if a schema inside it
does. -/
lemma needsLazy_ofSchema (s : Schema) :
    (ofSchema registry s).needsLazy scope =
      (s.reference?.toList.any (fun name => !scope.isDeclared name) ||
        s.children.any fun child => (ofSchema registry child).needsLazy scope) := by
  obtain ⟨kind, nullable⟩ := s
  have children : (Schema.mk kind nullable).children = kind.children := rfl
  rw [ofSchema, needsLazy_orNull]
  cases kind with
  | string rules =>
      obtain ⟨checks, _ | listed⟩ := rules
      · exact needsLazy_orExternal rfl _
      · rfl
  | number rules =>
      obtain ⟨checks, _ | listed⟩ := rules
      · exact needsLazy_orExternal rfl _
      · rfl
  | boolean => exact needsLazy_orExternal rfl _
  | null => rfl
  | any => rfl
  | array items bounds => simp [ofKind, needsLazy, Schema.reference?, children, SchemaKind.children]
  | object rules => exact needsLazy_ofRules rules
  | union keyword members discriminator objectTyped =>
      rw [ofKind, needsLazy, anyNeedsLazy_eq, ofSchemas_eq, List.any_map]
      rfl
  | intersection members inline objectTyped =>
      cases inline with
      | none =>
          rw [ofKind, needsLazy, anyNeedsLazy_eq, ofSchemas_eq, List.any_map]
          simp [Schema.reference?, children, SchemaKind.children, Function.comp_def]
      | some rules =>
          rw [ofKind, needsLazy, anyNeedsLazy_eq, ofSchemas_eq, List.any_append, List.any_map, List.any_cons,
            needsLazy_ofRules, List.any_nil, Bool.or_false]
          simp [Schema.reference?, children, SchemaKind.children, Function.comp_def]
  | reference name => simp [ofKind, needsLazy, Schema.reference?, children, SchemaKind.children]

/-- The validator of a schema puts a reference off if the schema refers to a name that is not declared. -/
theorem needsLazy_ofSchema_iff {names : List String} (declares : scope.Declares names) {s : Schema} :
    (ofSchema registry s).needsLazy scope = true ↔ ∃ name ∈ s.references, name ∉ names := by
  have undeclared : ∀ name, (!scope.isDeclared name) = true ↔ name ∉ names := fun name => by
    rw [Bool.not_eq_true', ← Bool.not_eq_true, declares name]
  simp only [Schema.references, List.mem_eraseDups]
  induction s using Schema.induction with
  | step s ih =>
      rw [needsLazy_ofSchema, Schema.mentions_eq]
      simp only [Bool.or_eq_true, List.any_eq_true, undeclared, List.mem_append, List.mem_flatMap,
        or_and_right, exists_or]
      refine or_congr Iff.rfl ⟨?_, ?_⟩
      · rintro ⟨child, among, lazy⟩
        obtain ⟨name, mem, new⟩ := (ih child among).1 lazy
        exact ⟨name, ⟨child, among, mem⟩, new⟩
      · rintro ⟨name, ⟨child, among, mem⟩, new⟩
        exact ⟨child, among, (ih child among).2 ⟨name, mem, new⟩⟩

end Validator

/-! ### Declarations of a resolved table -/

namespace Resolution

open ReferenceGraph

variable {table components candidates : Table Schema} {resolution : Resolution}

section Arranged

variable (arranged : Arranged table resolution)

include arranged

/-- An entry refers to one that does not come before it only inside of a component. -/
lemma Arranged.mutual_of_refers {before after : Table Schema} {name target : String} {s : Schema}
    (split : resolution.table = before ++ (name, s) :: after)
    (refers : Refers resolution.table name target) (late : target ∉ Table.keys before) :
    Mutual resolution.table name target := by
  have order := emissionOrder_of_keys arranged.distinct arranged.get?_table arranged.keys_table
  rw [← arranged.keys_table] at order
  obtain ⟨sequence, emitted⟩ := exists_emittedBy arranged.nodup arranged.refers_known
  rw [order] at emitted
  have keys : Table.keys resolution.table = Table.keys before ++ name :: Table.keys after := by
    simp [split, Table.keys]
  have distinct := arranged.nodup
  by_contra apart
  have lt := emitted.idxOf_lt distinct (by simp [keys]) refers apart
  rw [keys] at lt distinct
  have new : name ∉ Table.keys before := fun mem =>
    List.disjoint_of_nodup_append distinct mem List.mem_cons_self
  rw [List.idxOf_append_of_notMem late, List.idxOf_append_of_notMem new, List.idxOf_cons_self] at lt
  exact Nat.not_lt_of_le (Nat.le_add_right _ _) lt

/-- At the turn of an entry its validator puts a reference off if the entry refers to an entry of its
cycle that does not come before it. -/
lemma Arranged.needsLazy_iff {registry : Registry} {suffix : String} {before after : Table Schema}
    {name : String} {s : Schema} (split : resolution.table = before ++ (name, s) :: after) :
    (Validator.ofSchema registry s).needsLazy (Scope.after suffix (Table.keys before)) = true ↔
      ∃ cycle ∈ resolution.cycles, name ∈ cycle ∧
        ∃ target ∈ cycle, target ∈ s.references ∧ target ∉ Table.keys before := by
  rw [Validator.needsLazy_ofSchema_iff (Scope.declares_after suffix _)]
  constructor
  · rintro ⟨target, mem, late⟩
    have found : Table.get? resolution.table name = some s :=
      (Table.get?_eq_some_iff arranged.nodup).2 (by simp [split])
    have refers : Refers resolution.table name target := ⟨s, found, mem⟩
    obtain ⟨cycle, isCycle, here, there⟩ := exists_isCycle arranged.nodup arranged.refers_known refers
      (arranged.mutual_of_refers split refers late)
    exact ⟨cycle, arranged.mem_cycles_iff.2 isCycle, here, target, there, mem, late⟩
  · rintro ⟨cycle, -, -, target, -, mem, late⟩
    exact ⟨target, mem, late⟩

/-- The first entry of a cycle puts a reference off. -/
lemma Arranged.exists_needsLazy (registry : Registry) (suffix : String) {cycle : List String}
    (mem : cycle ∈ resolution.cycles) :
    ∃ before name s after, resolution.table = before ++ (name, s) :: after ∧ name ∈ cycle ∧
      (Validator.ofSchema registry s).needsLazy (Scope.after suffix (Table.keys before)) = true := by
  have isCycle := arranged.mem_cycles_iff.1 mem
  match cycle with
  | [] => exact absurd rfl isCycle.1.inhabited
  | name :: rest =>
      obtain ⟨target, within, s, found, refers⟩ :=
        isCycle.refers_head arranged.nodup arranged.refers_known
      obtain ⟨before, after, split⟩ := List.append_of_mem (Table.mem_of_get? found)
      refine ⟨before, name, s, after, split, List.mem_cons_self, ?_⟩
      refine (arranged.needsLazy_iff split).2
        ⟨_, mem, List.mem_cons_self, target, within, refers, ?_⟩
      exact isCycle.1.notMem_before arranged.nodup split within

end Arranged

/-- **References are put off on cycles alone.**  When the validators of a resolved table are declared one
after another, that of an entry puts a reference off if and only if somewhere inside the entry is a
reference to an entry of its own cycle that does not come before it.  So an entry outside of every cycle
puts none off, and every cycle has an entry that does. -/
theorem needsLazy_iff_cycle (registry : Registry) (suffix : String)
    (distinct : (Table.keys components).Nodup) (ok : resolve components candidates = .ok resolution) :
    (∀ before name s after, resolution.table = before ++ (name, s) :: after →
      ((Validator.ofSchema registry s).needsLazy (Scope.after suffix (Table.keys before)) = true ↔
        ∃ cycle ∈ resolution.cycles, name ∈ cycle ∧ ∃ target ∈ cycle, target ∉ Table.keys before ∧
          ∃ t, s.Within t ∧ t.kind = .reference target) ∧
      ((∀ cycle ∈ resolution.cycles, name ∉ cycle) →
        (Validator.ofSchema registry s).needsLazy (Scope.after suffix (Table.keys before)) = false)) ∧
      ∀ cycle ∈ resolution.cycles, ∃ before name s after,
        resolution.table = before ++ (name, s) :: after ∧ name ∈ cycle ∧
          (Validator.ofSchema registry s).needsLazy (Scope.after suffix (Table.keys before)) = true := by
  obtain ⟨table, arranged⟩ := exists_arranged_of_resolve distinct ok
  refine ⟨fun before name s after split => ⟨?_, fun outside => ?_⟩,
    fun cycle mem => arranged.exists_needsLazy registry suffix mem⟩
  · simp only [arranged.needsLazy_iff split, Schema.mem_references_iff, and_comm]
  · by_contra lazy
    obtain ⟨cycle, mem, here, -⟩ :=
      (arranged.needsLazy_iff split).1 (Bool.eq_true_of_not_eq_false lazy)
    exact outside cycle mem here

/-- Both entries refer to themselves, and so both put a reference off. -/
theorem needsLazy_iff_cycle_rings :
    ∃ resolution, resolve rings [] = .ok resolution ∧
      resolution.cycles = [["Outer"], ["Inner"]] ∧
      ∀ cycle ∈ resolution.cycles, ∃ before name s after,
        resolution.table = before ++ (name, s) :: after ∧ name ∈ cycle ∧
          (Validator.ofSchema .empty s).needsLazy (Scope.after "Schema" (Table.keys before)) = true := by
  have found : (resolve rings []).toOption.map cycles = some [["Outer"], ["Inner"]] := by
    decide +kernel
  cases ok : resolve rings [] with
  | error fault =>
      rw [ok] at found
      cases found
  | ok resolution =>
      rw [ok] at found
      exact ⟨resolution, rfl, Option.some.inj found,
        (needsLazy_iff_cycle .empty "Schema" (by decide) ok).2⟩

/-! ### Annotations -/

/-- Some declaration is annotated if some validator puts a reference off at its turn. -/
lemma annotated_iff {scope : Scope} {entries : List (String × Validator)} :
    (validatorDeclarations scope entries).2 = true ↔
      ∃ before name v after, entries = before ++ (name, v) :: after ∧
        v.needsLazy ((Table.keys before).foldl Scope.declare scope) = true := by
  induction entries generalizing scope with
  | nil => simp [validatorDeclarations]
  | cons entry rest ih =>
      obtain ⟨name, v⟩ := entry
      rw [validatorDeclarations, Bool.or_eq_true, ih]
      constructor
      · rintro (lazy | ⟨before, other, w, after, rfl, lazy⟩)
        · exact ⟨[], name, v, rest, rfl, lazy⟩
        · exact ⟨(name, v) :: before, other, w, after, rfl, lazy⟩
      · rintro ⟨before, other, w, after, eq, lazy⟩
        cases before with
        | nil =>
            cases eq
            exact .inl lazy
        | cons head before =>
            cases eq
            exact .inr ⟨before, other, w, after, rfl, lazy⟩

/-- The declarations of a resolved table are annotated somewhere if and only if it has a cycle. -/
theorem annotated_iff_cycles (registry : Registry) (suffix : String)
    (distinct : (Table.keys components).Nodup) (ok : resolve components candidates = .ok resolution) :
    (validatorDeclarations (Scope.start suffix)
      (Table.mapValues (Validator.ofSchema registry) resolution.table)).2 = true ↔
      resolution.cycles ≠ [] := by
  obtain ⟨table, arranged⟩ := exists_arranged_of_resolve distinct ok
  rw [annotated_iff]
  constructor
  · rintro ⟨before, name, v, after, split, lazy⟩
    obtain ⟨before, rest, table, rfl, eq⟩ := List.map_eq_append_iff.1 split
    obtain ⟨⟨name, s⟩, after, rfl, same, rfl⟩ := List.map_eq_cons_iff.1 eq
    cases same
    rw [← Table.mapValues, Table.keys_mapValues] at lazy
    obtain ⟨cycle, mem, -⟩ := (arranged.needsLazy_iff table).1 lazy
    exact List.ne_nil_of_mem mem
  · intro cyclic
    obtain ⟨cycle, mem⟩ := List.exists_mem_of_ne_nil _ cyclic
    obtain ⟨before, name, s, after, split, -, lazy⟩ := arranged.exists_needsLazy registry suffix mem
    refine ⟨Table.mapValues (Validator.ofSchema registry) before, name, Validator.ofSchema registry s,
      Table.mapValues (Validator.ofSchema registry) after, ?_, ?_⟩
    · rw [split, Table.mapValues, List.map_append]
      rfl
    · rw [Table.keys_mapValues]
      exact lazy

end Resolution

end SchemaCompiler
