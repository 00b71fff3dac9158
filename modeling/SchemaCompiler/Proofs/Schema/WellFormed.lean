import Mathlib.Tactic
import SchemaCompiler.Proofs.Schema.Part

/-!
Schemas that are read from fragments are well formed.

* `Schema.WellFormed`: no property and no required name is given twice, and required names are those
  of properties;
* `Schema.wellFormed_rename_iff`, `Schema.wellFormed_normal_iff`: names and order do not matter;
* `Schema.wellFormed_of_ofJson?`: what is read is well formed, as no object of the fragment names a
  member twice.
-/

namespace SchemaCompiler

/-! ### Values without repeated members -/

@[simp]
lemma Json.wellFormed_bool (b : Bool) : (Json.bool b).WellFormed := trivial

@[simp]
lemma Json.wellFormed_number (n : Json.Number) : (Json.number n).WellFormed := trivial

@[simp]
lemma Json.wellFormed_string (s : String) : (Json.string s).WellFormed := trivial

lemma Json.wellFormed_array_iff {items : List Json} :
    (Json.array items).WellFormed ↔ ∀ item ∈ items, item.WellFormed := by
  rw [WellFormed]
  induction items with
  | nil => simp [WellFormedItems]
  | cons item rest ih => rw [WellFormedItems, ih, List.forall_mem_cons]

lemma Json.wellFormed_object_iff {members : List (String × Json)} :
    (Json.object members).WellFormed ↔
      (Table.keys members).Nodup ∧ ∀ entry ∈ members, entry.2.WellFormed := by
  have all : WellFormedMembers members ↔ ∀ entry ∈ members, entry.2.WellFormed := by
    induction members with
    | nil => simp [WellFormedMembers]
    | cons entry rest ih => rw [WellFormedMembers, ih, List.forall_mem_cons]
  rw [WellFormed, all]
  rfl

lemma Json.WellFormed.get? {members : List (String × Json)} (wellFormed : (Json.object members).WellFormed)
    {name : String} {value : Json} (found : Table.get? members name = some value) :
    value.WellFormed :=
  (wellFormed_object_iff.1 wellFormed).2 _ (Table.mem_of_get? found)

/-! ### Well-formed schemas -/

/-- No property and no required name is given twice, and required names are those of properties. -/
structure ObjectRules.WellFormed (rules : ObjectRules Schema) : Prop where
  distinct : (Table.keys rules.properties).Nodup
  once : rules.required.Nodup
  known : ∀ name ∈ rules.required, name ∈ Table.keys rules.properties

/-- All rules of objects in a schema are well formed. -/
def Schema.WellFormed (s : Schema) : Prop :=
  ∀ t, s.Within t → ∀ rules, t.kind.rules? = some rules → rules.WellFormed

lemma Schema.wellFormed_iff {s : Schema} :
    s.WellFormed ↔ (∀ rules, s.kind.rules? = some rules → rules.WellFormed) ∧
      ∀ child ∈ s.children, child.WellFormed := by
  constructor
  · intro wellFormed
    exact ⟨wellFormed s (.self s), fun child among t within => wellFormed t (.child among within)⟩
  · rintro ⟨own, inside⟩ t within
    cases within with
    | self => exact own
    | child among within => exact inside _ among t within

/-! ### Renaming and normal forms -/

/-- The names of properties stay, whatever the schemas become. -/
lemma ObjectRules.wellFormed_map_iff (f : Schema → Schema) {rules : ObjectRules Schema} :
    (rules.map f).WellFormed ↔ rules.WellFormed := by
  have keys : Table.keys (rules.map f).properties = Table.keys rules.properties :=
    Table.keys_mapValues f rules.properties
  exact ⟨fun ⟨distinct, once, known⟩ => ⟨keys ▸ distinct, once, fun name mem => keys ▸ known name mem⟩,
    fun ⟨distinct, once, known⟩ => ⟨keys ▸ distinct, once, fun name mem => keys ▸ known name mem⟩⟩

/-- The normal form of rules has the same names in another order. -/
lemma ObjectRules.wellFormed_normal_iff {rules : ObjectRules Schema} :
    (normal rules).WellFormed ↔ rules.WellFormed := by
  have names : (Table.keys (normal rules).properties).Perm (Table.keys rules.properties) := by
    rw [normal_eq, ← Table.keys_mapValues Schema.normal rules.properties]
    exact (Table.sort_perm _).map Prod.fst
  have required : (normal rules).required.Perm rules.required := by
    rw [normal_eq]
    exact sortStrings_perm rules.required
  constructor
  · rintro ⟨distinct, once, known⟩
    exact ⟨names.nodup_iff.1 distinct, required.nodup_iff.1 once, fun name mem =>
      names.mem_iff.1 (known name (required.mem_iff.2 mem))⟩
  · rintro ⟨distinct, once, known⟩
    exact ⟨names.nodup_iff.2 distinct, required.nodup_iff.2 once, fun name mem =>
      names.mem_iff.2 (known name (required.mem_iff.1 mem))⟩

/-- Rules that say nothing are well formed. -/
lemma ObjectRules.wellFormed_bare : (bare : ObjectRules Schema).WellFormed :=
  ⟨List.nodup_nil, List.nodup_nil, nofun⟩

lemma SchemaKind.rules?_map (f : Schema → Schema) (name : String → String)
    (selection : Discriminator → Discriminator) (kind : SchemaKind) :
    (kind.map f name selection).rules? = kind.rules?.map (ObjectRules.map f) := by
  cases kind <;> rfl

/-- Whether a schema is well formed does not depend on the names in it. -/
theorem Schema.wellFormed_rename_iff {f : Renaming} {s : Schema} :
    (s.rename f).WellFormed ↔ s.WellFormed := by
  induction s using Schema.induction with
  | step s ih =>
      have own : (∀ rules, (s.rename f).kind.rules? = some rules → rules.WellFormed) ↔
          ∀ rules, s.kind.rules? = some rules → rules.WellFormed := by
        rw [kind_rename, SchemaKind.rules?_map]
        cases s.kind.rules? with
        | none => simp
        | some rules => simp [ObjectRules.wellFormed_map_iff]
      rw [wellFormed_iff, wellFormed_iff, own, children_rename, List.forall_mem_map]
      exact and_congr_right fun _ => forall₂_congr ih

/-- Whether a schema is well formed does not depend on order. -/
theorem Schema.wellFormed_normal_iff {s : Schema} : s.normal.WellFormed ↔ s.WellFormed := by
  induction s using Schema.induction with
  | step s ih =>
      have own : (∀ rules, s.normal.kind.rules? = some rules → rules.WellFormed) ↔
          ∀ rules, s.kind.rules? = some rules → rules.WellFormed := by
        obtain ⟨kind, nullable⟩ := s
        cases kind with
        | object rules =>
            change (∀ r, some (ObjectRules.normal rules) = some r → r.WellFormed) ↔
              ∀ r, some rules = some r → r.WellFormed
            simp only [Option.some.injEq, forall_eq', ObjectRules.wellFormed_normal_iff]
        | intersection members inline objectTyped =>
            change (∀ r, ObjectRules.normalInline inline = some r → r.WellFormed) ↔
              ∀ r, inline = some r → r.WellFormed
            cases inline with
            | none => rfl
            | some rules =>
                -- rules that say nothing are left out, and they are well formed
                by_cases bare : rules.isBare = true
                · rw [ObjectRules.normalInline, if_pos bare, ObjectRules.isBare_iff.1 bare]
                  simp [ObjectRules.wellFormed_bare]
                · rw [ObjectRules.normalInline, if_neg bare]
                  simp only [Option.some.injEq, forall_eq', ObjectRules.wellFormed_normal_iff]
        | _ => rfl
      rw [wellFormed_iff, wellFormed_iff, own]
      refine and_congr_right fun _ => ⟨fun inside child mem => ?_, fun inside child mem => ?_⟩
      · exact (ih child mem).1 (inside _ (mem_children_normal_iff.2 ⟨child, mem, rfl⟩))
      · obtain ⟨t, among, rfl⟩ := mem_children_normal_iff.1 mem
        exact (ih t among).2 (inside t among)

/-! ### Reading -/

variable {keywords : Keywords}

lemma eraseDups_eq_self {names : List String} (once : names.Nodup) : names.eraseDups = names := by
  induction names with
  | nil => rfl
  | cons name rest ih =>
      obtain ⟨new, once⟩ := List.nodup_cons.1 once
      have others : rest.filter (fun b => !b == name) = rest :=
        List.filter_eq_self.2 fun b mem => by
          rw [Bool.not_eq_true', beq_eq_false_iff_ne]
          exact fun eq => new (eq ▸ mem)
      rw [List.eraseDups_cons, others, ih once]

/-- What named properties are called is what the members of the fragment are called. -/
lemma keys_of_read {entries : List (String × Json)} {properties : List (String × Schema)}
    (read : List.Forall₂ (fun entry property => property.1 = entry.1 ∧
      Schema.ofJson? entry.2 = .ok property.2) entries properties) :
    Table.keys properties = Table.keys entries := by
  induction read with
  | nil => rfl
  | cons first _ ih => exact congrArg₂ _ first.1 ih

lemma ReadRequired.nodup {known required : List String} (read : ReadRequired keywords known required) :
    required.Nodup := by
  rcases read with ⟨-, rfl⟩ | ⟨names, -, -, rfl⟩
  · exact List.nodup_nil
  · exact nodup_eraseDups names

lemma ReadRequired.subset {known required : List String} (read : ReadRequired keywords known required) :
    required ⊆ known := by
  rcases read with ⟨-, rfl⟩ | ⟨names, -, among, rfl⟩
  · exact List.nil_subset _
  · exact fun name mem => among name (List.mem_eraseDups.1 mem)

/-- Rules that are read are well formed. -/
lemma ReadObject.wellFormed (wellFormed : (Json.object keywords).WellFormed)
    {rules : ObjectRules Schema} (read : ReadObject keywords rules) : rules.WellFormed := by
  obtain ⟨properties, required, -⟩ := read
  refine ⟨?_, required.nodup, fun name mem => required.subset mem⟩
  rcases properties with ⟨-, eq⟩ | ⟨entries, there, all⟩
  · rw [eq]
    exact List.nodup_nil
  · rw [keys_of_read all]
    exact (Json.wellFormed_object_iff.1 (wellFormed.get? there)).1

/-- What stands in a fragment names no member twice if the fragment does not. -/
lemma Keywords.Part.wellFormed {part : Json} (here : keywords.Part part)
    (wellFormed : (Json.object keywords).WellFormed) : part.WellFormed := by
  cases here with
  | items found => exact wellFormed.get? found
  | further found => exact wellFormed.get? found
  | property found mem => exact (Json.wellFormed_object_iff.1 (wellFormed.get? found)).2 _ mem
  | member c found mem => exact Json.wellFormed_array_iff.1 (wellFormed.get? found) _ mem

/-- **What is read is well formed.** -/
theorem Schema.wellFormed_of_ofJson? {value : Json} (wellFormed : value.WellFormed) {s : Schema}
    (ok : Schema.ofJson? value = .ok s) : s.WellFormed := by
  induction s using Schema.induction generalizing value with
  | step s ih =>
      obtain ⟨keywords, form, nullable, rfl, -, -, read, -⟩ := Schema.ofJson?_eq_ok_iff.1 ok
      refine wellFormed_iff.2 ⟨fun rules found => ?_, fun child mem => ?_⟩
      · exact (read.rules found).wellFormed wellFormed
      · obtain ⟨part, here, read⟩ := read.exists_part mem
        exact ih child mem (here.wellFormed wellFormed) read

end SchemaCompiler
