import Mathlib.Tactic
import SchemaCompiler.Proofs.Validator.Checks
import SchemaCompiler.Proofs.Validator.Equations

/-!
Validation decides the declarative meaning of validators.

What a validator admits is given by rules, one for each form of validator, and by the finite
derivations that these rules allow.  Validation itself remembers which names it has followed for a
value and gives up when it meets one of them again.  The two agree for every store, whatever its
references lead to.

* `Rule`: the rules, with the premises about the value itself and those about the values inside it
  kept apart;
* `DerivesIn`, `Derives`: derivations up to a height, and derivations;
* `issueAt?_eq_none_iff`: validation proceeds by the rules, names followed so far being kept for
  the same value and dropped for those inside;
* `derives_of_issueAt?_eq_none`: what validation accepts has a derivation;
* `issueAt?_eq_none_of_derivesIn`: what has a derivation is accepted.  The invariant is that no name
  followed so far has a derivation as low as the one at hand, so that a derivation of least height
  is never cut;
* `accepts_iff_derives`, `issue?_eq_none_iff_derives`: the two together.
-/

namespace SchemaCompiler.Validator

/-! ### Rules and derivations -/

/-- One rule: a validator admits a value if certain validators admit certain values.  `inside` is
asked about the values inside the value, and `here` about the value itself. -/
inductive Rule (store : Store) (inside here : Validator → Json → Prop) : Validator → Json → Prop
  | string {checks : StringChecks} {text : String} (passed : checks.Passed text) :
      Rule store inside here (.string checks) (.string text)
  | number {checks : NumberChecks} {n : Json.Number} (passed : checks.Passed n) :
      Rule store inside here (.number checks) (.number n)
  | boolean (b : Bool) : Rule store inside here .boolean (.bool b)
  | null : Rule store inside here .null .null
  | unknown (value : Json) : Rule store inside here .unknown value
  | strings {listed : Enumeration String} {checks : StringChecks} {text : String}
      (among : text ∈ listed.values) : Rule store inside here (.strings listed checks) (.string text)
  | numbers {listed : Enumeration Json.Number} {checks : NumberChecks} {m n : Json.Number}
      (among : m ∈ listed.values) (equal : m.equals n = true) :
      Rule store inside here (.numbers listed checks) (.number n)
  | array {item : Validator} {bounds : ItemBounds} {items : List Json}
      (passed : bounds.Passed items.length) (all : ∀ value ∈ items, inside item value) :
      Rule store inside here (.array item bounds) (.array items)
  | object {fields : List (Field Validator)} {extras : Extras Validator} {members : Table Json}
      (present : ∀ field ∈ fields, field.optional = false →
        Table.contains members field.name = true)
      (declared : ∀ field ∈ fields, ∀ value, Table.get? members field.name = some value →
        inside field.rule value)
      (closed : extras = .forbid → ∀ entry ∈ members, entry.1 ∈ fields.map Field.name)
      (further : ∀ rule, extras = .schema rule → ∀ entry ∈ members,
        entry.1 ∉ fields.map Field.name → inside rule entry.2) :
      Rule store inside here (.object fields extras) (.object members)
  | union {keyword : UnionKeyword} {members : List Validator} {member : Validator}
      {discriminator : Option Discriminator} {objectTyped : Bool} {value : Json}
      (plain : discriminator = none ∨ members.length < 2) (among : member ∈ members)
      (holds : here member value) :
      Rule store inside here (.union keyword members discriminator objectTyped) value
  | tagged {keyword : UnionKeyword} {members : List Validator} {member : Validator}
      {discriminator : Discriminator} {objectTyped : Bool} {object : Table Json} {tag : String}
      (several : 2 ≤ members.length)
      (tagged : Table.get? object discriminator.property = some (.string tag))
      (first : (members.find? fun member => (memberTags store discriminator member).contains tag) =
        some member)
      (holds : here member (.object object)) :
      Rule store inside here (.union keyword members (some discriminator) objectTyped)
        (.object object)
  | intersection {members : List Validator} {inlined objectTyped : Bool} {value : Json}
      (all : ∀ member ∈ members, here member value) :
      Rule store inside here (.intersection members inlined objectTyped) value
  | reference {name : String} {target : Validator} {value : Json}
      (found : store.get? name = some target) (holds : here target value) :
      Rule store inside here (.reference name) value
  | external {name : String} {base : Validator} {value : Json} (holds : here base value) :
      Rule store inside here (.external name base) value
  | admittedNull (inner : Validator) : Rule store inside here (.nullable inner) .null
  | nullable {inner : Validator} {value : Json} (holds : here inner value) :
      Rule store inside here (.nullable inner) value

/-- There is a derivation of at most a height. -/
def DerivesIn (store : Store) : ℕ → Validator → Json → Prop
  | 0 => fun _ _ => False
  | n + 1 => Rule store (DerivesIn store n) (DerivesIn store n)

/-- There is a finite derivation. -/
def Derives (store : Store) (v : Validator) (value : Json) : Prop := ∃ n, DerivesIn store n v value

variable {store : Store}

/-- A rule goes through with other premises that follow from the old ones: it asks about smaller
values, and about the same value only for smaller validators unless it follows a reference. -/
lemma Rule.imp {inside here inside' here' : Validator → Json → Prop} {v : Validator} {value : Json}
    (rule : Rule store inside here v value)
    (within : ∀ w x, sizeOf x < sizeOf value → inside w x → inside' w x)
    (same : ∀ w, sizeOf w < sizeOf v ∨ (∃ name, v = .reference name ∧ store.get? name = some w) →
      here w value → here' w value) :
    Rule store inside' here' v value := by
  cases rule with
  | string passed => exact .string passed
  | number passed => exact .number passed
  | boolean b => exact .boolean b
  | null => exact .null
  | unknown => exact .unknown value
  | strings among => exact .strings among
  | numbers among equal => exact .numbers among equal
  | array passed all => exact .array passed fun x mem => within _ _ (Json.sizeOf_lt_array mem) (all x mem)
  | object present declared closed further =>
      exact .object present
        (fun field among x found => within _ _ (Json.sizeOf_lt_object (Table.mem_of_get? found))
          (declared field among x found))
        closed
        (fun r isSchema entry mem new => within _ _ (Json.sizeOf_lt_object mem)
          (further r isSchema entry mem new))
  | union plain among holds =>
      exact .union plain among (same _ (.inl (sizeOf_lt_union among _ _ _)) holds)
  | tagged several tagged first holds =>
      have among := List.mem_of_find?_eq_some first
      exact .tagged several tagged first (same _ (.inl (sizeOf_lt_union among _ _ _)) holds)
  | intersection all =>
      exact .intersection fun w mem => same w (.inl (sizeOf_lt_intersection mem _ _)) (all w mem)
  | reference found holds => exact .reference found (same _ (.inr ⟨_, rfl, found⟩) holds)
  | external holds => exact .external (same _ (.inl (sizeOf_lt_external _ _)) holds)
  | admittedNull inner => exact .admittedNull inner
  | nullable holds => exact .nullable (same _ (.inl (sizeOf_lt_nullable _)) holds)

/-- A rule goes through with weaker premises. -/
lemma Rule.mono {inside here inside' here' : Validator → Json → Prop} {v : Validator} {value : Json}
    (rule : Rule store inside here v value) (within : ∀ w x, inside w x → inside' w x)
    (same : ∀ w, here w value → here' w value) : Rule store inside' here' v value :=
  rule.imp (fun w x _ => within w x) (fun w _ => same w)

lemma DerivesIn.succ {n : ℕ} {v : Validator} {value : Json} (h : DerivesIn store n v value) :
    DerivesIn store (n + 1) v value := by
  induction n generalizing v value with
  | zero => exact h.elim
  | succ n ih => exact Rule.mono h (fun _ _ => ih) (fun _ => ih)

lemma DerivesIn.mono {m n : ℕ} (le : m ≤ n) {v : Validator} {value : Json}
    (h : DerivesIn store m v value) : DerivesIn store n v value := by
  induction n, le using Nat.le_induction with
  | base => exact h
  | succ n _ ih => exact ih.succ

/-- Finitely many derivations have a common height. -/
lemma exists_common_height {α : Type} {p : ℕ → α → Prop} (mono : ∀ a n, p n a → p (n + 1) a)
    {l : List α} (each : ∀ a ∈ l, ∃ n, p n a) : ∃ n, ∀ a ∈ l, p n a := by
  have lift : ∀ a m n, m ≤ n → p m a → p n a := by
    intro a m n le h
    induction n, le using Nat.le_induction with
    | base => exact h
    | succ n _ ih => exact mono a n ih
  induction l with
  | nil => exact ⟨0, by simp⟩
  | cons a l ih =>
      obtain ⟨m, hm⟩ := each a (by simp)
      obtain ⟨n, hn⟩ := ih fun b hb => each b (by simp [hb])
      refine ⟨max m n, fun b hb => ?_⟩
      rcases List.mem_cons.1 hb with rfl | hb
      · exact lift b m _ (le_max_left m n) hm
      · exact lift b n _ (le_max_right m n) (hn b hb)

lemma exists_height_declared {fields : List (Field Validator)} {members : Table Json}
    (declared : ∀ field ∈ fields, ∀ x, Table.get? members field.name = some x →
      Derives store field.rule x) :
    ∃ n, ∀ field ∈ fields, ∀ x, Table.get? members field.name = some x →
      DerivesIn store n field.rule x := by
  refine exists_common_height (fun _ _ low x hx => (low x hx).succ) fun field among => ?_
  cases found : Table.get? members field.name with
  | none => exact ⟨0, by simp⟩
  | some x =>
      obtain ⟨n, derives⟩ := declared field among x found
      exact ⟨n, fun y eq => Option.some.inj eq ▸ derives⟩

lemma exists_height_further {named : List String} {extras : Extras Validator}
    {members : List (String × Json)}
    (further : ∀ rule, extras = .schema rule → ∀ entry ∈ members, entry.1 ∉ named →
      Derives store rule entry.2) :
    ∃ n, ∀ entry ∈ members, ∀ rule, extras = .schema rule → entry.1 ∉ named →
      DerivesIn store n rule entry.2 := by
  refine exists_common_height (fun _ _ low rule eq new => (low rule eq new).succ) fun entry mem => ?_
  by_cases asked : ∃ rule, extras = .schema rule ∧ entry.1 ∉ named
  · obtain ⟨rule, rfl, new⟩ := asked
    obtain ⟨n, derives⟩ := further rule rfl entry mem new
    exact ⟨n, fun other eq _ => Extras.schema.inj eq ▸ derives⟩
  · exact ⟨0, fun rule eq new => absurd ⟨rule, eq, new⟩ asked⟩

/-- What follows from derivations by a rule has a derivation. -/
lemma Derives.of_rule {v : Validator} {value : Json}
    (rule : Rule store (Derives store) (Derives store) v value) : Derives store v value := by
  -- the premises are finitely many, so one height is enough for all of them
  suffices ∃ n, Rule store (DerivesIn store n) (DerivesIn store n) v value by
    obtain ⟨n, h⟩ := this
    exact ⟨n + 1, h⟩
  cases rule with
  | string passed => exact ⟨0, .string passed⟩
  | number passed => exact ⟨0, .number passed⟩
  | boolean b => exact ⟨0, .boolean b⟩
  | null => exact ⟨0, .null⟩
  | unknown => exact ⟨0, .unknown value⟩
  | strings among => exact ⟨0, .strings among⟩
  | numbers among equal => exact ⟨0, .numbers among equal⟩
  | @array item bounds items passed all =>
      obtain ⟨n, hn⟩ := exists_common_height
        (p := fun n x => DerivesIn store n item x) (fun _ _ h => h.succ) all
      exact ⟨n, .array passed hn⟩
  | object present declared closed further =>
      obtain ⟨m, hm⟩ := exists_height_declared declared
      obtain ⟨n, hn⟩ := exists_height_further further
      exact ⟨max m n, .object present
        (fun field hf x hx => (hm field hf x hx).mono (le_max_left m n)) closed
        (fun r hr entry he new => (hn entry he r hr new).mono (le_max_right m n))⟩
  | union plain among holds =>
      obtain ⟨n, hn⟩ := holds
      exact ⟨n, .union plain among hn⟩
  | tagged several tagged first holds =>
      obtain ⟨n, hn⟩ := holds
      exact ⟨n, .tagged several tagged first hn⟩
  | intersection all =>
      obtain ⟨n, hn⟩ := exists_common_height
        (p := fun n w => DerivesIn store n w value) (fun _ _ h => h.succ) all
      exact ⟨n, .intersection hn⟩
  | reference found holds =>
      obtain ⟨n, hn⟩ := holds
      exact ⟨n, .reference found hn⟩
  | external holds =>
      obtain ⟨n, hn⟩ := holds
      exact ⟨n, .external hn⟩
  | admittedNull inner => exact ⟨0, .admittedNull inner⟩
  | nullable holds =>
      obtain ⟨n, hn⟩ := holds
      exact ⟨n, .nullable hn⟩

/-- Derivations end with a rule. -/
lemma derives_iff_rule {v : Validator} {value : Json} :
    Derives store v value ↔ Rule store (Derives store) (Derives store) v value := by
  constructor
  · rintro ⟨n, derives⟩
    cases n with
    | zero => exact derives.elim
    | succ n => exact Rule.mono derives (fun _ _ h => ⟨n, h⟩) fun _ h => ⟨n, h⟩
  · exact Derives.of_rule

/-! ### Validation by the rules -/

lemma itemsIssue?_eq_none_iff {v : Validator} {items : List Json} (index : ℕ) :
    itemsIssue? store v index items = none ↔ ∀ x ∈ items, issueAt? store [] v x = none := by
  induction items generalizing index with
  | nil => simp [itemsIssue?]
  | cons x rest ih =>
      rw [itemsIssue?]
      cases h : issueAt? store [] v x with
      | some issue => simp [h]
      | none => simp [h, ih]

lemma fieldsIssue?_eq_none_iff {fields : List (Field Validator)} {members : Table Json} :
    fieldsIssue? store fields members = none ↔
      (∀ field ∈ fields, field.optional = false → Table.contains members field.name = true) ∧
      ∀ field ∈ fields, ∀ x, Table.get? members field.name = some x →
        issueAt? store [] field.rule x = none := by
  induction fields with
  | nil => simp [fieldsIssue?]
  | cons field rest ih =>
      rw [fieldsIssue?_cons]
      simp only [List.forall_mem_cons, Table.contains]
      cases found : Table.get? members field.name with
      | some x => cases h : issueAt? store [] field.rule x <;> simp [h, ih, Table.contains]
      | none => cases field.optional <;> simp [ih, Table.contains]

lemma extrasIssue?_eq_none_iff {named : List String} {extras : Extras Validator}
    {members : List (String × Json)} :
    extrasIssue? store named extras members = none ↔
      (extras = .forbid → ∀ entry ∈ members, entry.1 ∈ named) ∧
      ∀ rule, extras = .schema rule → ∀ entry ∈ members, entry.1 ∉ named →
        issueAt? store [] rule entry.2 = none := by
  induction members with
  | nil => simp [extrasIssue?]
  | cons entry rest ih =>
      obtain ⟨name, x⟩ := entry
      rw [extrasIssue?.eq_def]
      by_cases h : name ∈ named
      · simp only [List.contains_iff_mem, h, if_true, ih, List.forall_mem_cons, true_and,
          not_true_eq_false, IsEmpty.forall_iff]
      · cases extras with
        | unspecified => simpa [h] using ih
        | allow => simpa [h] using ih
        | forbid => simp [h]
        | schema rule =>
            cases g : issueAt? store [] rule x with
            | some issue => simp [h, g]
            | none => simpa [h, g] using ih

lemma someAccepts_iff {visited : List String} {members : List Validator} {value : Json} :
    someAccepts store visited members value = true ↔
      ∃ member ∈ members, issueAt? store visited member value = none := by
  induction members with
  | nil => simp [someAccepts]
  | cons member rest ih => rw [someAccepts]; simp [ih]

lemma allIssue?_eq_none_iff {visited : List String} {members : List Validator} {value : Json} :
    allIssue? store visited members value = none ↔
      ∀ member ∈ members, issueAt? store visited member value = none := by
  induction members with
  | nil => simp [allIssue?]
  | cons member rest ih =>
      rw [allIssue?]
      cases h : issueAt? store visited member value with
      | some issue => simp [h]
      | none => simp [h, ih]

lemma selecting?_eq_none_iff {discriminator : Option Discriminator} {members : List Validator} :
    selecting? discriminator members = none ↔ discriminator = none ∨ members.length < 2 := by
  rw [selecting?]
  split
  · next h => simp [not_lt.2 h]
  · next h => simp [not_le.1 h]

lemma selecting?_eq_some_iff {discriminator : Option Discriminator} {used : Discriminator}
    {members : List Validator} :
    selecting? discriminator members = some used ↔
      2 ≤ members.length ∧ discriminator = some used := by
  rw [selecting?]
  split
  · next h => simp [h]
  · next h => simp [h]

lemma selected?_eq_some_iff {discriminator : Discriminator} {members : List Validator}
    {object : Table Json} {member : Validator} :
    selected? store discriminator members object = some member ↔
      ∃ tag, Table.get? object discriminator.property = some (.string tag) ∧
        (members.find? fun member => (memberTags store discriminator member).contains tag) =
          some member := by
  rw [selected?, Option.bind_eq_some_iff]
  refine exists_congr fun tag => and_congr_left fun _ => ?_
  cases Table.get? object discriminator.property with
  | none => simp
  | some x => cases x <;> simp [Json.string?]

/-- A reference is followed once for each value. -/
lemma issueAt?_reference_eq_none_iff {visited : List String} {name : String} {value : Json} :
    issueAt? store visited (.reference name) value = none ↔
      ∃ target, store.get? name = some target ∧ name ∉ visited ∧
        issueAt? store (name :: visited) target value = none := by
  rw [issueAt?_reference]
  cases store.get? name with
  | none => simp
  | some target => by_cases seen : name ∈ visited <;> simp [seen]

/-! ### What the rules ask of each form -/

section Inversion

variable {inside here : Validator → Json → Prop} {value : Json}

lemma rule_string_iff {checks : StringChecks} :
    Rule store inside here (.string checks) value ↔
      ∃ text, value = .string text ∧ checks.Passed text := by
  constructor
  · intro rule
    cases rule with
    | string passed => exact ⟨_, rfl, passed⟩
  · rintro ⟨text, rfl, passed⟩
    exact .string passed

lemma rule_number_iff {checks : NumberChecks} :
    Rule store inside here (.number checks) value ↔ ∃ n, value = .number n ∧ checks.Passed n := by
  constructor
  · intro rule
    cases rule with
    | number passed => exact ⟨_, rfl, passed⟩
  · rintro ⟨n, rfl, passed⟩
    exact .number passed

lemma rule_boolean_iff : Rule store inside here .boolean value ↔ ∃ b, value = .bool b := by
  constructor
  · intro rule
    cases rule with
    | boolean b => exact ⟨b, rfl⟩
  · rintro ⟨b, rfl⟩
    exact .boolean b

lemma rule_null_iff : Rule store inside here .null value ↔ value = .null := by
  constructor
  · rintro ⟨⟩
    rfl
  · rintro rfl
    exact .null

lemma rule_strings_iff {listed : Enumeration String} {checks : StringChecks} :
    Rule store inside here (.strings listed checks) value ↔
      ∃ text, value = .string text ∧ text ∈ listed.values := by
  constructor
  · intro rule
    cases rule with
    | strings among => exact ⟨_, rfl, among⟩
  · rintro ⟨text, rfl, among⟩
    exact .strings among

lemma rule_numbers_iff {listed : Enumeration Json.Number} {checks : NumberChecks} :
    Rule store inside here (.numbers listed checks) value ↔
      ∃ n, value = .number n ∧ ∃ m ∈ listed.values, m.equals n = true := by
  constructor
  · intro rule
    cases rule with
    | numbers among equal => exact ⟨_, rfl, _, among, equal⟩
  · rintro ⟨n, rfl, m, among, equal⟩
    exact .numbers among equal

lemma rule_array_iff {item : Validator} {bounds : ItemBounds} :
    Rule store inside here (.array item bounds) value ↔
      ∃ items, value = .array items ∧ bounds.Passed items.length ∧ ∀ x ∈ items, inside item x := by
  constructor
  · intro rule
    cases rule with
    | array passed all => exact ⟨_, rfl, passed, all⟩
  · rintro ⟨items, rfl, passed, all⟩
    exact .array passed all

lemma rule_object_iff {fields : List (Field Validator)} {extras : Extras Validator} :
    Rule store inside here (.object fields extras) value ↔
      ∃ members, value = .object members ∧
        ((∀ field ∈ fields, field.optional = false → Table.contains members field.name = true) ∧
          ∀ field ∈ fields, ∀ x, Table.get? members field.name = some x → inside field.rule x) ∧
        (extras = .forbid → ∀ entry ∈ members, entry.1 ∈ fields.map Field.name) ∧
        ∀ rule, extras = .schema rule → ∀ entry ∈ members, entry.1 ∉ fields.map Field.name →
          inside rule entry.2 := by
  constructor
  · intro rule
    cases rule with
    | object present declared closed further =>
        exact ⟨_, rfl, ⟨present, declared⟩, closed, further⟩
  · rintro ⟨members, rfl, ⟨present, declared⟩, closed, further⟩
    exact .object present declared closed further

lemma rule_union_iff {keyword : UnionKeyword} {members : List Validator}
    {discriminator : Option Discriminator} {objectTyped : Bool} :
    Rule store inside here (.union keyword members discriminator objectTyped) value ↔
      selecting? discriminator members = none ∧ (∃ member ∈ members, here member value) ∨
        ∃ used entries member, selecting? discriminator members = some used ∧
          value = .object entries ∧ selected? store used members entries = some member ∧
          here member value := by
  simp only [selecting?_eq_none_iff, selecting?_eq_some_iff, selected?_eq_some_iff]
  constructor
  · intro rule
    cases rule with
    | union plain among holds => exact .inl ⟨plain, _, among, holds⟩
    | tagged several tagged first holds =>
        exact .inr ⟨_, _, _, ⟨several, rfl⟩, rfl, ⟨_, tagged, first⟩, holds⟩
  · rintro (⟨plain, member, among, holds⟩ |
      ⟨used, entries, member, ⟨several, rfl⟩, rfl, ⟨tag, tagged, first⟩, holds⟩)
    · exact .union plain among holds
    · exact .tagged several tagged first holds

lemma rule_intersection_iff {members : List Validator} {inlined objectTyped : Bool} :
    Rule store inside here (.intersection members inlined objectTyped) value ↔
      ∀ member ∈ members, here member value := by
  constructor
  · intro rule
    cases rule with
    | intersection all => exact all
  · exact .intersection

lemma rule_external_iff {name : String} {base : Validator} :
    Rule store inside here (.external name base) value ↔ here base value := by
  constructor
  · intro rule
    cases rule with
    | external holds => exact holds
  · exact .external

lemma rule_nullable_iff {inner : Validator} :
    Rule store inside here (.nullable inner) value ↔ value = .null ∨ here inner value := by
  constructor
  · intro rule
    cases rule with
    | admittedNull => exact .inl rfl
    | nullable holds => exact .inr holds
  · rintro (rfl | holds)
    · exact .admittedNull inner
    · exact .nullable holds

end Inversion

/-- Validation proceeds by the rules: the names followed so far are kept for the value itself and
dropped for the values inside it. -/
lemma issueAt?_eq_none_iff {visited : List String} {v : Validator} {value : Json}
    (notReference : ∀ name, v ≠ .reference name) :
    issueAt? store visited v value = none ↔
      Rule store (fun w x => issueAt? store [] w x = none)
        (fun w x => issueAt? store visited w x = none) v value := by
  cases v with
  | string checks =>
      rw [rule_string_iff, issueAt?]
      cases value <;> simp [stringIssue?, StringChecks.issue?_eq_none_iff]
  | number checks =>
      rw [rule_number_iff, issueAt?]
      cases value <;> simp [numberIssue?, NumberChecks.issue?_eq_none_iff]
  | boolean =>
      rw [rule_boolean_iff, issueAt?]
      cases value <;> simp [Json.bool?]
  | null =>
      rw [rule_null_iff, issueAt?]
      cases value <;> simp [Json.isNull]
  | unknown =>
      rw [issueAt?]
      exact iff_of_true rfl (.unknown value)
  | strings listed checks =>
      rw [rule_strings_iff, issueAt?]
      cases value <;> simp [listedStringIssue?]
  | numbers listed checks =>
      rw [rule_numbers_iff, issueAt?]
      cases value <;> simp [listedNumberIssue?]
  | array item bounds =>
      rw [rule_array_iff]
      cases value with
      | array items =>
          simp only [issueAt?, Json.array.injEq, exists_eq_left']
          rw [← ItemBounds.issue?_eq_none_iff, ← itemsIssue?_eq_none_iff 0]
          cases bounds.issue? items.length <;> simp
      | _ => simp [issueAt?]
  | object fields extras =>
      rw [rule_object_iff]
      cases value with
      | object members =>
          simp only [issueAt?, Json.object.injEq, exists_eq_left']
          rw [← fieldsIssue?_eq_none_iff, ← extrasIssue?_eq_none_iff]
          cases fieldsIssue? store fields members <;> simp
      | _ => simp [issueAt?]
  | union keyword members discriminator objectTyped =>
      rw [rule_union_iff, issueAt?]
      cases selecting? discriminator members with
      | none => simp [someAccepts_iff]
      | some used =>
          cases value with
          | object entries =>
              dsimp only
              split
              · next member found => simp [found]
              · next found => simp [found]
          | _ => simp
  | intersection members inlined objectTyped =>
      rw [rule_intersection_iff, issueAt?, allIssue?_eq_none_iff]
  | reference name => exact absurd rfl (notReference name)
  | external name base => rw [rule_external_iff, issueAt?]
  | nullable inner =>
      rw [rule_nullable_iff, issueAt?]
      cases value <;> simp [Json.isNull]

/-! ### The two agree -/

/-- What validation accepts has a derivation. -/
lemma derives_of_issueAt?_eq_none {visited : List String} {v : Validator} {value : Json}
    (h : issueAt? store visited v value = none) : Derives store v value := by
  by_cases isReference : ∃ name, v = .reference name
  · obtain ⟨name, rfl⟩ := isReference
    obtain ⟨target, found, new, h⟩ := issueAt?_reference_eq_none_iff.1 h
    have := unvisited_cons_lt (Store.mem_names_of_get? found) new
    exact .of_rule (.reference found (derives_of_issueAt?_eq_none h))
  · have notReference : ∀ name, v ≠ .reference name := fun name eq => isReference ⟨name, eq⟩
    refine .of_rule (((issueAt?_eq_none_iff notReference).1 h).imp ?_ ?_)
    · exact fun w x smaller h => derives_of_issueAt?_eq_none h
    · rintro w (smaller | ⟨name, rfl, -⟩) h
      · exact derives_of_issueAt?_eq_none h
      · exact absurd rfl (notReference name)
termination_by (sizeOf value, unvisited store.names visited, sizeOf v)
decreasing_by
  · exact .right _ (.left _ _ this)
  · exact .left _ _ smaller
  · exact .right _ (.right _ smaller)

/-- What has a derivation is accepted, as long as no name followed so far has one as low. -/
lemma issueAt?_eq_none_of_derivesIn {n : ℕ} {visited : List String} {v : Validator} {value : Json}
    (h : DerivesIn store n v value)
    (higher : ∀ name ∈ visited, ¬DerivesIn store n (.reference name) value) :
    issueAt? store visited v value = none := by
  induction n using Nat.strong_induction_on generalizing visited v value with
  | _ n ih =>
      by_cases isReference : ∃ name, v = .reference name
      · obtain ⟨name, rfl⟩ := isReference
        -- the reference is derived at a least height, and its target below that
        classical
        have derived : ∃ k, DerivesIn store k (.reference name) value := ⟨n, h⟩
        have least := Nat.find_spec derived
        have bound : Nat.find derived ≤ n := Nat.find_min' derived h
        have below : ∀ k < Nat.find derived, ¬DerivesIn store k (.reference name) value :=
          fun k => Nat.find_min derived
        generalize Nat.find derived = height at least bound below
        cases height with
        | zero => exact least.elim
        | succ k =>
            cases least with
            | reference found holds =>
                refine issueAt?_reference_eq_none_iff.2
                  ⟨_, found, fun seen => higher name seen h, ih k (by omega) holds ?_⟩
                intro other mem low
                rcases List.mem_cons.1 mem with rfl | mem
                · exact below k (by omega) low
                · exact higher other mem (low.mono (by omega))
      · cases n with
        | zero => exact h.elim
        | succ n =>
            have notReference : ∀ name, v ≠ .reference name := fun name eq => isReference ⟨name, eq⟩
            refine (issueAt?_eq_none_iff notReference).2 (Rule.mono h ?_ ?_)
            · exact fun w x hw => ih n (by omega) hw (by simp)
            · exact fun w hw => ih n (by omega) hw fun name seen low => higher name seen low.succ

lemma accepts_iff_derives {v : Validator} {value : Json} :
    v.accepts store value = true ↔ Derives store v value := by
  rw [accepts, Option.isNone_iff_eq_none]
  constructor
  · exact derives_of_issueAt?_eq_none
  · rintro ⟨_, h⟩
    exact issueAt?_eq_none_of_derivesIn h (by simp)

end SchemaCompiler.Validator
