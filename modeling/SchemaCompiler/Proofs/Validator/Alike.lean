import SchemaCompiler.Proofs.Schema.Renaming
import SchemaCompiler.Proofs.Validator.Basic
import SchemaCompiler.Proofs.Validator.Correspondence

/-!
The validators of kinds with one normal form.

What canonical forms leave open does not matter to validation, with two exceptions, which are conditions
here: whether divisors demand the same, and which rules stand beside the members of an intersection.

* `NumberChecks.passed_iff`: checks with one normal form demand the same if their divisors do;
* `Validator.corresponds_string`, `Validator.corresponds_number`, `Validator.corresponds_rules`: the
  validators correspond to each other if those of the schemas inside are related.
-/

namespace SchemaCompiler

/-! ### Numbers -/

lemma Json.Number.equals_plain (m n : Json.Number) : m.plain.equals n = m.equals n := by
  rw [equals, equals, Double.sameValue, Double.sameValue, value_plain]

lemma Json.Number.less_plain (m n : Json.Number) :
    m.plain.less n = m.less n ∧ n.less m.plain = n.less m := by
  rw [less, less, less, less, Double.less, Double.less, Double.less, Double.less, value_plain]
  exact ⟨rfl, rfl⟩

/-- What a divisor demands, if there is one. -/
def NumberChecks.Divides (checks : NumberChecks) (n : Json.Number) : Prop :=
  ∀ divisor, checks.multipleOf = some divisor → n.isMultipleOf divisor = true

/-- How bounds are spelled does not matter. -/
lemma NumberChecks.Passed.of_normal_eq {checks checks' : NumberChecks}
    (same : checks.normal = checks'.normal) {n : Json.Number}
    (divisors : checks.Divides n → checks'.Divides n) (passed : checks.Passed n) :
    checks'.Passed n := by
  have bound : ∀ {least least' : Option Json.Number},
      least.map Json.Number.plain = least'.map Json.Number.plain → ∀ b', least' = some b' →
        ∃ b, least = some b ∧ b.less n = b'.less n ∧ n.less b = n.less b' := by
    rintro least least' eq b' rfl
    obtain ⟨b, found, plain⟩ := Option.map_eq_some_iff.1 eq
    obtain ⟨less, greater⟩ := b.less_plain n
    obtain ⟨less', greater'⟩ := b'.less_plain n
    refine ⟨b, found, ?_, ?_⟩
    · rw [← less, plain, less']
    · rw [← greater, plain, greater']
  obtain ⟨integer, -, minimum, maximum, above, below, -⟩ := NumberChecks.mk.inj same
  obtain ⟨whole, great, small, multiple⟩ := passed
  refine ⟨fun needed => whole (integer.trans needed), fun b' found => ?_, fun b' found => ?_,
    divisors multiple⟩
  · obtain ⟨b, there, less, greater⟩ := bound minimum b' found
    have := great b there
    rwa [above, less, greater] at this
  · obtain ⟨b, there, less, greater⟩ := bound maximum b' found
    have := small b there
    rwa [below, less, greater] at this

/-- Checks with one normal form demand the same if their divisors do. -/
lemma NumberChecks.passed_iff {checks checks' : NumberChecks} (same : checks.normal = checks'.normal)
    {n : Json.Number} (divisors : checks.Divides n ↔ checks'.Divides n) :
    checks.Passed n ↔ checks'.Passed n :=
  ⟨.of_normal_eq same divisors.1, .of_normal_eq same.symm divisors.2⟩

lemma exists_equals_sortNumbers_iff {numbers : List Json.Number} {n : Json.Number} :
    (∃ m ∈ sortNumbers numbers, m.equals n = true) ↔ ∃ m ∈ numbers, m.equals n = true := by
  simp only [mem_sortNumbers, exists_exists_and_eq_and, Json.Number.equals_plain]

namespace Validator

/-! ### Kinds -/

variable {registry : Registry} {store store' : Store} {related : Validator → Validator → Prop}

/-- An external name does not matter. -/
lemma corresponds_orExternal {v w : Validator} (bases : related v w)
    (h : Corresponds store store' related v w) (name : Option String) :
    Corresponds store store' related (v.orExternal name) (w.orExternal name) := by
  cases name with
  | none => exact h
  | some name => exact .external bases

/-- The order of allowed strings does not matter. -/
lemma corresponds_string {rules rules' : StringRules} (same : rules.normal = rules'.normal)
    (leaf : ∀ checks : StringChecks, related (.string checks) (.string checks)) :
    Corresponds store store' related (ofKind registry (.string rules))
      (ofKind registry (.string rules')) := by
  obtain ⟨checks, enumeration⟩ := rules
  obtain ⟨checks', enumeration'⟩ := rules'
  obtain ⟨rfl, same⟩ := StringRules.mk.inj same
  cases enumeration with
  | none =>
      obtain rfl : enumeration' = none := Option.map_eq_none_iff.1 same.symm
      rw [ofKind]
      exact corresponds_orExternal (leaf checks) (.string checks) _
  | some listed =>
      obtain ⟨listed', rfl, sameListed⟩ := Option.map_eq_some_iff.1 same.symm
      obtain ⟨values, -⟩ := Enumeration.mk.inj sameListed
      rw [ofKind, ofKind]
      refine .strings fun text => ?_
      rw [← mem_sortStrings, ← values, mem_sortStrings]

/-- The spelling of numbers and the order of those that are allowed do not matter. -/
lemma corresponds_number {rules rules' : NumberRules} (same : rules.normal = rules'.normal)
    (divisors : rules.enumeration = none →
      ∀ n, rules.checks.Divides n ↔ rules'.checks.Divides n)
    (leaf : ∀ checks checks' : NumberChecks, (∀ n, checks.Passed n ↔ checks'.Passed n) →
      related (.number checks) (.number checks')) :
    Corresponds store store' related (ofKind registry (.number rules))
      (ofKind registry (.number rules')) := by
  obtain ⟨checks, enumeration⟩ := rules
  obtain ⟨checks', enumeration'⟩ := rules'
  obtain ⟨sameChecks, same⟩ := NumberRules.mk.inj same
  cases enumeration with
  | none =>
      obtain rfl : enumeration' = none := Option.map_eq_none_iff.1 same.symm
      have passed : ∀ n, checks.Passed n ↔ checks'.Passed n := fun n =>
        NumberChecks.passed_iff sameChecks (divisors rfl n)
      have integer : checks.integer = checks'.integer := (NumberChecks.mk.inj sameChecks).1
      have name : registry.external? (.number ⟨checks, none⟩) =
          registry.external? (.number ⟨checks', none⟩) := by
        rw [Registry.external?, Registry.external?, integer]
      rw [ofKind, ofKind, name]
      exact corresponds_orExternal (leaf checks checks' passed) (.number passed) _
  | some listed =>
      obtain ⟨listed', rfl, sameListed⟩ := Option.map_eq_some_iff.1 same.symm
      obtain ⟨values, -⟩ := Enumeration.mk.inj sameListed
      rw [ofKind, ofKind]
      refine .numbers fun n => ?_
      rw [← exists_equals_sortNumbers_iff, ← values, exists_equals_sortNumbers_iff]

/-! ### Rules of objects -/

/-- Every property has one of its name with the same normal form. -/
lemma exists_property_of_sort_eq {α : Type} {g h : α → Schema} {ps qs : Table α}
    (eq : Table.sort (Table.mapValues g ps) = Table.sort (Table.mapValues h qs)) {entry : String × α}
    (mem : entry ∈ ps) : ∃ entry' ∈ qs, entry'.1 = entry.1 ∧ g entry.2 = h entry'.2 := by
  have listed : (entry.1, g entry.2) ∈ Table.sort (Table.mapValues g ps) :=
    Table.mem_sort.2 (List.mem_map.2 ⟨entry, mem, rfl⟩)
  rw [eq, Table.mem_sort, Table.mapValues, List.mem_map] at listed
  obtain ⟨entry', mem', same⟩ := listed
  obtain ⟨name, value⟩ := Prod.mk.inj same
  exact ⟨entry', mem', name, value.symm⟩

/-- The rules for further members are of one form. -/
lemma ofExtras_cases {g : Schema → Schema} {extras extras' : Extras Schema}
    (eq : (extras.map g).normal = extras'.normal) :
    (∃ p q, extras = .schema p ∧ extras' = .schema q ∧ (g p).normal = q.normal) ∨
      ofExtras registry extras = ofExtras registry extras' ∧
        ∀ rule, ofExtras registry extras ≠ .schema rule := by
  cases extras <;> cases extras' <;> simp [Extras.map, Extras.normal, ofExtras] at eq ⊢
  exact eq

/-- The order of properties and of required names does not matter. -/
lemma corresponds_rules {g : Schema → Schema} {rules rules' : ObjectRules Schema}
    (same : (rules.map g).normal = rules'.normal)
    (properties : ∀ name p q, (name, p) ∈ rules.properties → (name, q) ∈ rules'.properties →
      (g p).normal = q.normal → related (ofSchema registry p) (ofSchema registry q))
    (further : ∀ p q, rules.extras = .schema p → rules'.extras = .schema q →
      (g p).normal = q.normal → related (ofSchema registry p) (ofSchema registry q)) :
    Corresponds store store' related (ofRules registry rules) (ofRules registry rules') := by
  obtain ⟨ps, required, extras⟩ := rules
  obtain ⟨qs, required', extras'⟩ := rules'
  rw [ObjectRules.map, ObjectRules.normal_eq, ObjectRules.normal_eq, ObjectRules.mk.injEq,
    Table.mapValues_mapValues] at same
  obtain ⟨sameProperties, sameRequired, sameExtras⟩ := same
  -- names are sorted when they are normalized, which keeps what is among them
  have needed : ∀ name, required'.contains name = required.contains name := fun name => by
    rw [Bool.eq_iff_iff, List.contains_iff_mem, List.contains_iff_mem, ← mem_sortStrings,
      ← sameRequired, mem_sortStrings]
  have extra : (ofExtras registry extras = .forbid ↔ ofExtras registry extras' = .forbid) ∧
      (∀ rule, ofExtras registry extras = .schema rule →
        ∃ rule', ofExtras registry extras' = .schema rule' ∧ related rule rule') ∧
      ∀ rule', ofExtras registry extras' = .schema rule' →
        ∃ rule, ofExtras registry extras = .schema rule ∧ related rule rule' := by
    rcases @ofExtras_cases registry _ _ _ sameExtras with ⟨p, q, rfl, rfl, eq⟩ | ⟨eq, other⟩
    · have pair := further p q rfl rfl eq
      refine ⟨by simp [ofExtras], fun rule eq => ?_, fun rule' eq => ?_⟩
      · cases eq
        exact ⟨_, rfl, pair⟩
      · cases eq
        exact ⟨_, rfl, pair⟩
    · rw [eq] at other ⊢
      exact ⟨Iff.rfl, fun rule found => absurd found (other rule),
        fun rule found => absurd found (other rule)⟩
  rw [ofRules, ofRules, ofProperties_eq, ofProperties_eq]
  refine .object ?_ ?_ extra.1 extra.2.1 extra.2.2
  · rw [List.forall_mem_map]
    rintro ⟨name, p⟩ mem
    obtain ⟨⟨_, q⟩, mem', rfl, eq⟩ := exists_property_of_sort_eq sameProperties mem
    exact ⟨_, List.mem_map_of_mem mem', rfl, by rw [needed], properties _ p q mem mem' eq⟩
  · rw [List.forall_mem_map]
    rintro ⟨name, q⟩ mem'
    obtain ⟨⟨_, p⟩, mem, rfl, eq⟩ := exists_property_of_sort_eq sameProperties.symm mem'
    exact ⟨_, List.mem_map_of_mem mem, rfl, by rw [needed], properties _ p q mem mem' eq.symm⟩

end Validator

end SchemaCompiler
