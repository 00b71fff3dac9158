import SchemaCompiler.Proofs.Schema.WellFormed
import SchemaCompiler.Proofs.Validator.Alike
import SchemaCompiler.Proofs.Validator.Selection

/-!
Schemas with one canonical form are interchangeable, but for two things that it does not tell.

A canonical form writes `2` and `2.0` alike, but an integer divides other integers exactly and a double
does so up to a tolerance.  And it leaves out object keywords beside the members of an intersection when
all of them are empty, but then the value has to be an object all the same.

* `Schema.SpelledAlike`: two schemas agree on both at every place;
* `Validator.Interchangeable`: two validators accept the same values in a store, and have the same tags
  as members of a union;
* `Validator.interchangeable_of_kind`: the validators of two kinds are interchangeable if those of the
  schemas at the same places inside are;
* `Validator.accepts_eq_of_canonical_eq`: schemas with one canonical form that are spelled alike accept
  the same values;
* `Validator.canonical_eq_accepts_ne`: neither of the two conditions can be left out.
-/

namespace SchemaCompiler

/-! ### Spelling -/

/-- What a canonical form does not tell of a kind although it matters: whether a divisor is an integer,
and whether object keywords stand beside the members of an intersection. -/
def SchemaKind.spelling : SchemaKind → Option Bool
  | .number ⟨checks, none⟩ => checks.multipleOf.map fun divisor => divisor.signed?.isSome
  | .intersection _ inline _ => some inline.isSome
  | _ => none

/-- Two schemas agree at every place on what their canonical forms do not tell. -/
def Schema.SpelledAlike (s t : Schema) : Prop :=
  ∀ place u v, s.at? place = some u → t.at? place = some v → u.kind.spelling = v.kind.spelling

lemma Schema.SpelledAlike.step {s t u v : Schema} (alike : s.SpelledAlike t) {step : Step}
    (here : s.kind.at? step = some u) (there : t.kind.at? step = some v) : u.SpelledAlike v := by
  intro place u' v' found found'
  refine alike (step :: place) u' v' ?_ ?_
  · rw [at?, here]
    exact found
  · rw [at?, there]
    exact found'

/-! ### Divisors -/

lemma Double.div_congr {x y y' : Double} (same : y.value = y'.value) : x.div y = x.div y' := by
  have steps : y.steps = y'.steps := by
    rw [Double.value, Double.value] at same
    split at same <;> split at same <;> omega
  rw [div, div, steps]
  split
  · rfl
  · next nonzero =>
      have sign : y.negative = y'.negative := by
        rw [Double.value, Double.value] at same
        cases left : y.negative <;> cases right : y'.negative <;> simp_all
      rw [sign]

lemma Json.Number.eq_integer_of_signed? {n : Json.Number} {a : ℤ} (signed : n.signed? = some a) :
    n = .integer a := by
  cases n with
  | integer i =>
      rw [signed?] at signed
      split at signed
      · rw [Option.some.inj signed]
      · cases signed
  | real x => cases signed

/-- Integers in range are told apart by their doubles. -/
lemma Json.Number.integer_eq_of_plain {a b : ℤ} (safe : (Json.number (.integer a)).Safe)
    (safe' : (Json.number (.integer b)).Safe)
    (same : (Json.Number.integer a).plain = (Json.Number.integer b).plain) : a = b := by
  have exact : ∀ i : ℤ, (Json.number (.integer i)).Safe →
      (Double.ofInt i).value = i * Double.one := by
    intro i safe
    have le := Json.safe_number_iff.1 safe i rfl
    refine Double.value_ofInt (lt_of_le_of_lt le ?_)
    decide
  rw [plain_eq_iff, toDouble, toDouble, exact a safe, exact b safe'] at same
  exact Int.eq_of_mul_eq_mul_right (by exact_mod_cast Double.one_pos.ne') same

/-- Divisors of one double that are both integers or both not demand the same. -/
lemma Json.Number.isMultipleOf_congr {d d' : Json.Number} (same : d.plain = d'.plain)
    (written : d.signed?.isSome = d'.signed?.isSome) (safe : (Json.number d).Safe)
    (safe' : (Json.number d').Safe) (n : Json.Number) : n.isMultipleOf d = n.isMultipleOf d' := by
  cases left : d.signed? with
  | some a =>
      have there : d'.signed?.isSome = true := by rw [← written, left, Option.isSome_some]
      obtain ⟨b, right⟩ := Option.isSome_iff_exists.1 there
      obtain rfl := eq_integer_of_signed? left
      obtain rfl := eq_integer_of_signed? right
      rw [integer_eq_of_plain safe safe' same]
  | none =>
      have right : d'.signed? = none := by
        rw [left, Option.isSome_none] at written
        exact Option.not_isSome_iff_eq_none.1 (by rw [← written]; exact Bool.false_ne_true)
      rw [isMultipleOf, isMultipleOf, left, right,
        Double.div_congr (Json.Number.plain_eq_iff.1 same)]

/-- Divisors of numbers with one normal form demand the same if they are spelled alike. -/
lemma NumberRules.divides_iff {rules rules' : NumberRules} (same : rules.normal = rules'.normal)
    (spelling : (SchemaKind.number rules).spelling = (SchemaKind.number rules').spelling)
    (safe : (SchemaKind.number rules).SafeBounds) (safe' : (SchemaKind.number rules').SafeBounds)
    (free : rules.enumeration = none) (n : Json.Number) :
    rules.checks.Divides n ↔ rules'.checks.Divides n := by
  obtain ⟨checks, enumeration⟩ := rules
  obtain ⟨checks', enumeration'⟩ := rules'
  obtain rfl : enumeration = none := free
  obtain ⟨sameChecks, sameEnumeration⟩ := NumberRules.mk.inj same
  obtain rfl : enumeration' = none := Option.map_eq_none_iff.1 sameEnumeration.symm
  have divisors : checks.multipleOf.map Json.Number.plain = checks'.multipleOf.map Json.Number.plain :=
    (NumberChecks.mk.inj sameChecks).2.2.2.2.2.2
  -- a divisor that is written is a bound, so it is in range
  have inRange : ∀ {c : NumberChecks} {d : Json.Number}, (SchemaKind.number ⟨c, none⟩).SafeBounds →
      c.multipleOf = some d → (Json.number d).Safe := by
    intro c d safe found
    refine Json.safe_object_iff.1 safe ("multipleOf", .number d) ?_
    simp [NumberRules.keywords, found, optional]
  rw [SchemaKind.spelling, SchemaKind.spelling] at spelling
  rw [NumberChecks.Divides, NumberChecks.Divides]
  cases left : checks.multipleOf with
  | none =>
      rw [left] at divisors
      rw [Option.map_eq_none_iff.1 divisors.symm]
  | some d =>
      rw [left] at divisors spelling
      obtain ⟨d', right, plain⟩ := Option.map_eq_some_iff.1 divisors.symm
      rw [right] at spelling
      simp only [right, Option.some.injEq, forall_eq']
      rw [Json.Number.isMultipleOf_congr plain.symm (Option.some.inj spelling) (inRange safe left)
        (inRange safe' right)]

/-- Rules that stand beside members have one normal form if they count as one. -/
lemma ObjectRules.normal_eq_of_inline {rules rules' : ObjectRules Schema}
    (same : normalInline (some rules) = normalInline (some rules')) : rules.normal = rules'.normal := by
  rw [normalInline, normalInline] at same
  split at same
  · next bare =>
      split at same
      · next bare' => rw [isBare_iff.1 bare, isBare_iff.1 bare']
      · cases same
  · next speaks =>
      split at same
      · cases same
      · exact Option.some.inj same

namespace Validator

/-! ### Interchangeable validators -/

variable {registry : Registry} {store : Store}

/-- Two validators accept the same values in a store. -/
def Equivalent (store : Store) (v w : Validator) : Prop :=
  ∀ value, Derives store v value ↔ Derives store w value

/-- Two validators accept the same values in a store, and have the same tags as members of a union. -/
structure Interchangeable (store : Store) (v w : Validator) : Prop where
  accepts : Equivalent store v w
  literal : ∀ property tag,
    tag ∈ literalTags store property [] v ↔ tag ∈ literalTags store property [] w
  named : ∀ name, v = .reference name ↔ w = .reference name

lemma Interchangeable.refl (v : Validator) : Interchangeable store v v :=
  ⟨fun _ => Iff.rfl, fun _ _ => Iff.rfl, fun _ => Iff.rfl⟩

/-- Validators that correspond to each other are equivalent if those inside them are. -/
lemma equivalent_of_corresponds {v w : Validator}
    (h : Corresponds store store (Equivalent store) v w) : Equivalent store v w := by
  intro value
  rw [derives_iff_rule, derives_iff_rule]
  refine ⟨fun rule => ?_, fun rule => ?_⟩
  · exact rule.transfer h (fun _ _ x pair => (pair x).1) fun _ _ pair => (pair value).1
  · exact rule.transfer h.symm (fun _ _ x pair => (pair x).2) fun _ _ pair => (pair value).2

/-- Interchangeable members have the same tags. -/
lemma Interchangeable.mem_memberTags_iff {v w : Validator} (h : Interchangeable store v w)
    {d d' : Discriminator} (same : d.normal = d'.normal) {tag : String} :
    tag ∈ memberTags store d v ↔ tag ∈ memberTags store d' w := by
  have property : d.property = d'.property := (Discriminator.mk.inj same).1
  have none : literalTags store d.property [] v = [] ↔ literalTags store d.property [] w = [] := by
    simp only [List.eq_nil_iff_forall_not_mem, h.literal]
  have nominal : ∀ name, tag ∈ nominalTags d name ↔ tag ∈ nominalTags d' name := fun name => by
    rw [← mem_nominalTags_normal_iff, same, mem_nominalTags_normal_iff]
  rw [Validator.mem_memberTags_iff, Validator.mem_memberTags_iff, ← property, h.literal, none]
  simp only [h.named, nominal]

lemma Interchangeable.symm {v w : Validator} (h : Interchangeable store v w) :
    Interchangeable store w v :=
  ⟨fun value => (h.accepts value).symm, fun property tag => (h.literal property tag).symm,
    fun name => (h.named name).symm⟩

section Unions

variable {keyword keyword' : UnionKeyword} {members members' : List Validator}
  {discriminator discriminator' : Option Discriminator} {objectTyped objectTyped' : Bool}

/-- What a union accepts is accepted by one with interchangeable members: the same tags select members
at the same places. -/
lemma derives_union (all : List.Forall₂ (Interchangeable store) members members')
    (same : discriminator.map Discriminator.normal = discriminator'.map Discriminator.normal)
    {value : Json} (derives : Derives store (.union keyword members discriminator objectTyped) value) :
    Derives store (.union keyword' members' discriminator' objectTyped') value := by
  have length := all.length_eq
  rw [derives_iff_rule, rule_union_iff] at derives
  rcases derives with ⟨plain, member, among, holds⟩ |
    ⟨used, object, member, selects, rfl, selected, holds⟩
  · obtain ⟨member', among', pair⟩ := exists_mem_of_forall₂ all among
    refine .of_rule (.union ?_ among' ((pair.accepts value).1 holds))
    rcases selecting?_eq_none_iff.1 plain with rfl | few
    · exact .inl (Option.map_eq_none_iff.1 same.symm)
    · exact .inr (length ▸ few)
  · obtain ⟨several, rfl⟩ := selecting?_eq_some_iff.1 selects
    obtain ⟨used', rfl, normal⟩ := Option.map_eq_some_iff.1 same.symm
    obtain ⟨tag, tagged, first⟩ := selected?_eq_some_iff.1 selected
    have property : used'.property = used.property := (Discriminator.mk.inj normal).1
    have selects : ∀ v w, Interchangeable store v w →
        (memberTags store used v).contains tag = (memberTags store used' w).contains tag := by
      intro v w pair
      rw [Bool.eq_iff_iff, List.contains_iff_mem, List.contains_iff_mem]
      exact pair.mem_memberTags_iff normal.symm
    obtain ⟨member', first', pair⟩ := exists_find?_of_forall₂ all selects first
    refine .of_rule (.tagged (length ▸ several) ?_ first' ((pair.accepts _).1 holds))
    rw [property]
    exact tagged

/-- Unions are equivalent if their members are interchangeable. -/
lemma equivalent_union (all : List.Forall₂ (Interchangeable store) members members')
    (same : discriminator.map Discriminator.normal = discriminator'.map Discriminator.normal) :
    Equivalent store (.union keyword members discriminator objectTyped)
      (.union keyword' members' discriminator' objectTyped') := fun _ =>
  ⟨derives_union all same, derives_union (all.flip.imp fun _ _ pair => pair.symm) same.symm⟩

end Unions

/-- Intersections are interchangeable if their members are. -/
lemma interchangeable_intersection {members members' : List Validator}
    {inlined inlined' objectTyped objectTyped' : Bool}
    (all : List.Forall₂ (Interchangeable store) members members') :
    Interchangeable store (.intersection members inlined objectTyped)
      (.intersection members' inlined' objectTyped') := by
  refine ⟨equivalent_of_corresponds (.intersection (all.imp fun _ _ pair => pair.accepts)),
    fun property tag => ?_, fun name => ⟨nofun, nofun⟩⟩
  rw [mem_literalTags_intersection_iff, mem_literalTags_intersection_iff]
  exact exists_mem_iff_of_forall₂ all fun _ _ pair => pair.literal property tag

/-- Validators that admit `null` are interchangeable if those inside them are. -/
lemma Interchangeable.nullable {v w : Validator} (h : Interchangeable store v w) :
    Interchangeable store (.nullable v) (.nullable w) := by
  refine ⟨equivalent_of_corresponds (.nullable h.accepts), fun property tag => ?_,
    fun name => ⟨nofun, nofun⟩⟩
  rw [literalTags, literalTags, searchTags, searchTags]
  exact h.literal property tag

/-- A validator that has no tags as a member of a union, whatever the discriminator. -/
def Untagged : Validator → Prop
  | .object _ _ | .intersection _ _ _ | .reference _ | .nullable _ => False
  | .external _ base => Untagged base
  | _ => True

lemma Untagged.literalTags_eq_nil {property : String} {v : Validator} (untagged : Untagged v) :
    literalTags store property [] v = [] := by
  cases v with
  | external name base =>
      rw [literalTags, searchTags]
      exact literalTags_eq_nil untagged
  | object => exact untagged.elim
  | intersection => exact untagged.elim
  | reference => exact untagged.elim
  | nullable => exact untagged.elim
  | _ => simp [literalTags, searchTags, TagSearch.here]

lemma Untagged.orExternal {base : Validator} (untagged : Untagged base) (name : Option String) :
    Untagged (base.orExternal name) := by
  cases name <;> exact untagged

lemma untagged_string (rules : StringRules) : Untagged (ofKind registry (.string rules)) := by
  obtain ⟨checks, enumeration⟩ := rules
  cases enumeration with
  | none =>
      have base : Untagged (.string checks) := trivial
      rw [ofKind]
      exact base.orExternal _
  | some listed => trivial

lemma untagged_number (rules : NumberRules) : Untagged (ofKind registry (.number rules)) := by
  obtain ⟨checks, enumeration⟩ := rules
  cases enumeration with
  | none =>
      have base : Untagged (.number checks) := trivial
      rw [ofKind]
      exact base.orExternal _
  | some listed => trivial

/-- Validators without tags are interchangeable if they are equivalent. -/
lemma Equivalent.interchangeable {v w : Validator} (h : Equivalent store v w) (untagged : Untagged v)
    (untagged' : Untagged w) : Interchangeable store v w := by
  refine ⟨h, fun property tag => ?_, fun name => ⟨?_, ?_⟩⟩
  · rw [untagged.literalTags_eq_nil, untagged'.literalTags_eq_nil]
  · rintro rfl
    exact untagged.elim
  · rintro rfl
    exact untagged'.elim

/-! ### Kinds -/

/-- The members of compositions are interchangeable one by one if the schemas at the same places are. -/
lemma interchangeable_members {members members' : List Schema}
    (same : Schema.normalAll members = Schema.normalAll members')
    (inside : ∀ (index : ℕ) u v, members[index]? = some u → members'[index]? = some v →
      u.normal = v.normal → Interchangeable store (ofSchema registry u) (ofSchema registry v)) :
    List.Forall₂ (Interchangeable store) (ofSchemas registry members) (ofSchemas registry members') := by
  rw [Schema.normalAll_eq, Schema.normalAll_eq] at same
  rw [ofSchemas_eq, ofSchemas_eq, List.forall₂_map_left_iff, List.forall₂_map_right_iff]
  refine forall₂_of_getElem? (by simpa using congrArg List.length same) fun i u v here there => ?_
  refine inside i u v here there ?_
  have eq := congrArg (fun list => list[i]?) same
  simpa [here, there] using eq

/-- The rules of objects are interchangeable if the schemas at the same places in them are. -/
lemma interchangeable_rules {rules rules' : ObjectRules Schema} (same : rules.normal = rules'.normal)
    (wellFormed : rules.WellFormed) (wellFormed' : rules'.WellFormed)
    (inside : ∀ step u v, rules.at? step = some u → rules'.at? step = some v → u.normal = v.normal →
      Interchangeable store (ofSchema registry u) (ofSchema registry v)) :
    Interchangeable store (ofRules registry rules) (ofRules registry rules') := by
  have property : ∀ name, (Table.get? rules.properties name).map Schema.normal =
      (Table.get? rules'.properties name).map Schema.normal := fun name => by
    have := ObjectRules.at?_normal rules (.property name)
    rw [same, ObjectRules.at?_normal] at this
    exact this.symm
  refine ⟨equivalent_of_corresponds ?_, fun name tag => ?_, fun name => ?_⟩
  · refine corresponds_rules (g := fun s => s) (by rwa [ObjectRules.map_id]) ?_ ?_
    · intro name p q mem mem' eq
      refine (inside (.property name) p q ?_ ?_ eq).accepts
      · exact (Table.get?_eq_some_iff wellFormed.distinct).2 mem
      · exact (Table.get?_eq_some_iff wellFormed'.distinct).2 mem'
    · intro p q eq eq' normal
      refine (inside .further p q ?_ ?_ normal).accepts
      · rw [ObjectRules.at?, eq, Extras.toList, List.head?_cons]
      · rw [ObjectRules.at?, eq', Extras.toList, List.head?_cons]
  · have tags : ∀ r : ObjectRules Schema, tag ∈ literalTags store name [] (ofRules registry r) ↔
        ∃ s, Table.get? r.properties name = some s ∧ tag ∈ listedStrings s.normal.kind := by
      rintro ⟨properties, required, extras⟩
      rw [ofRules, literalTags, searchTags, TagSearch.here, mem_fieldTags_iff]
      refine exists_congr fun s => and_congr_right fun _ => ?_
      obtain ⟨kind, nullable⟩ := s
      rw [enumValues_ofSchema, Schema.normal, Schema.kind, Schema.kind, mem_listedStrings_normal_iff]
    have found : ∀ r : ObjectRules Schema,
        (∃ s, Table.get? r.properties name = some s ∧ tag ∈ listedStrings s.normal.kind) ↔
          ∃ s, (Table.get? r.properties name).map Schema.normal = some s ∧
            tag ∈ listedStrings s.kind := by
      intro r
      simp only [Option.map_eq_some_iff, exists_exists_and_eq_and]
    rw [tags, tags, found, found, property]
  · obtain ⟨properties, required, extras⟩ := rules
    obtain ⟨properties', required', extras'⟩ := rules'
    exact ⟨fun eq => (by cases eq), fun eq => (by cases eq)⟩

/-- Intersections are interchangeable if their members are, and the objects beside them where there are
any. -/
lemma interchangeable_beside {members members' : List Schema} {inline inline' : Option (ObjectRules Schema)}
    {objectTyped objectTyped' : Bool}
    (all : List.Forall₂ (Interchangeable store) (ofSchemas registry members)
      (ofSchemas registry members'))
    (both : inline.isSome = inline'.isSome)
    (beside : ∀ rules rules', inline = some rules → inline' = some rules' →
      Interchangeable store (ofRules registry rules) (ofRules registry rules')) :
    Interchangeable store (ofKind registry (.intersection members inline objectTyped))
      (ofKind registry (.intersection members' inline' objectTyped')) := by
  cases inline with
  | none =>
      obtain rfl := Option.isNone_iff_eq_none.1 (Option.isSome_eq_false_iff.1 both.symm)
      rw [ofKind, ofKind]
      exact interchangeable_intersection all
  | some rules =>
      obtain ⟨rules', rfl⟩ := Option.isSome_iff_exists.1 both.symm
      rw [ofKind, ofKind]
      exact interchangeable_intersection
        (List.rel_append all (.cons (beside rules rules' rfl rfl) .nil))

/-- The validators of two kinds with one normal form that are spelled alike are interchangeable if
those of the schemas at the same places inside are. -/
theorem interchangeable_of_kind {k l : SchemaKind} (same : k.normal = l.normal)
    (spelling : k.spelling = l.spelling) (safe : k.SafeBounds) (safe' : l.SafeBounds)
    (wellFormed : ∀ rules, k.rules? = some rules → rules.WellFormed)
    (wellFormed' : ∀ rules, l.rules? = some rules → rules.WellFormed)
    (inside : ∀ step u v, k.at? step = some u → l.at? step = some v → u.normal = v.normal →
      Interchangeable store (ofSchema registry u) (ofSchema registry v)) :
    Interchangeable store (ofKind registry k) (ofKind registry l) := by
  cases k with
  | string rules =>
      cases l with
      | string rules' =>
          have h : Equivalent store (ofKind registry (.string rules)) (ofKind registry (.string rules')) :=
            equivalent_of_corresponds (corresponds_string (SchemaKind.string.inj same)
              fun _ _ => Iff.rfl)
          exact h.interchangeable (untagged_string rules) (untagged_string rules')
      | _ => cases same
  | number rules =>
      cases l with
      | number rules' =>
          have sameRules := SchemaKind.number.inj same
          have h : Equivalent store (ofKind registry (.number rules)) (ofKind registry (.number rules')) :=
            equivalent_of_corresponds (corresponds_number sameRules
              (NumberRules.divides_iff sameRules spelling safe safe')
              fun _ _ passed => equivalent_of_corresponds (.number passed))
          exact h.interchangeable (untagged_number rules) (untagged_number rules')
      | _ => cases same
  | boolean =>
      cases l with
      | boolean => exact .refl _
      | _ => cases same
  | null =>
      cases l with
      | null => exact .refl _
      | _ => cases same
  | any =>
      cases l with
      | any => exact .refl _
      | _ => cases same
  | reference name =>
      cases l with
      | reference name' =>
          obtain rfl := SchemaKind.reference.inj same
          exact .refl _
      | _ => cases same
  | array items bounds =>
      cases l with
      | array items' bounds' =>
          obtain ⟨sameItems, rfl⟩ := SchemaKind.array.inj same
          have pair := inside .items items items' rfl rfl sameItems
          rw [ofKind, ofKind]
          exact (equivalent_of_corresponds (.array pair.accepts)).interchangeable trivial trivial
      | _ => cases same
  | object rules =>
      cases l with
      | object rules' =>
          rw [ofKind, ofKind]
          exact interchangeable_rules (SchemaKind.object.inj same) (wellFormed rules rfl)
            (wellFormed' rules' rfl) inside
      | _ => cases same
  | union keyword members discriminator objectTyped =>
      cases l with
      | union keyword' members' discriminator' objectTyped' =>
          obtain ⟨-, sameMembers, selection, -⟩ := SchemaKind.union.inj same
          have all := interchangeable_members sameMembers fun index => inside (.member index)
          rw [ofKind, ofKind]
          exact (equivalent_union all selection).interchangeable trivial trivial
      | _ => cases same
  | intersection members inline objectTyped =>
      cases l with
      | intersection members' inline' objectTyped' =>
          obtain ⟨sameMembers, sameInline, -⟩ := SchemaKind.intersection.inj same
          have all := interchangeable_members sameMembers fun index => inside (.member index)
          have both : inline.isSome = inline'.isSome := by
            cases inline <;> cases inline' <;> first | rfl | cases spelling
          refine interchangeable_beside all both ?_
          rintro rules rules' rfl rfl
          refine interchangeable_rules (ObjectRules.normal_eq_of_inline sameInline)
            (wellFormed rules rfl) (wellFormed' rules' rfl) fun step u v here there => ?_
          cases step with
          | property name => exact inside (.property name) u v here there
          | further => exact inside .further u v here there
          | _ => cases here
      | _ => cases same

/-- The validators of schemas with one normal form that are spelled alike are interchangeable. -/
theorem interchangeable_of_normal_eq {s t : Schema} (same : s.normal = t.normal)
    (safe : s.fragment.Safe) (safe' : t.fragment.Safe) (wellFormed : s.WellFormed)
    (wellFormed' : t.WellFormed) (alike : s.SpelledAlike t) :
    Interchangeable store (ofSchema registry s) (ofSchema registry t) := by
  induction s using Schema.induction generalizing t with
  | step s ih =>
      obtain ⟨own, deeper⟩ := (Schema.safe_fragment_iff s).1 safe
      obtain ⟨own', deeper'⟩ := (Schema.safe_fragment_iff t).1 safe'
      obtain ⟨rules, below⟩ := Schema.wellFormed_iff.1 wellFormed
      obtain ⟨rules', below'⟩ := Schema.wellFormed_iff.1 wellFormed'
      have inside : ∀ step u v, s.kind.at? step = some u → t.kind.at? step = some v →
          u.normal = v.normal → Interchangeable store (ofSchema registry u) (ofSchema registry v) := by
        intro step u v here there eq
        have mem := SchemaKind.mem_children_of_at? here
        have mem' := SchemaKind.mem_children_of_at? there
        exact ih u mem eq (deeper u mem) (deeper' v mem') (below u mem) (below' v mem')
          (alike.step here there)
      have spelling := alike [] s t rfl rfl
      obtain ⟨k, n⟩ := s
      obtain ⟨l, m⟩ := t
      obtain ⟨sameKind, rfl⟩ := Schema.mk.inj same
      have kinds : Interchangeable store (ofKind registry k) (ofKind registry l) :=
        interchangeable_of_kind sameKind spelling own own' rules rules' inside
      rw [ofSchema, ofSchema]
      cases n with
      | false => exact kinds
      | true => exact kinds.nullable

lemma exists_canonical_of_normal_eq {s t : Schema} (safe : s.fragment.Safe) (safe' : t.fragment.Safe)
    (same : s.normal = t.normal) :
    ∃ form, Canonical.ofSchema s = .ok form ∧ Canonical.ofSchema t = .ok form := by
  obtain ⟨form, ok⟩ := Schema.exists_canonical_iff.2 safe
  obtain ⟨form', ok'⟩ := Schema.exists_canonical_iff.2 safe'
  obtain rfl := (Schema.canonical_eq_iff ok ok').2 same
  exact ⟨form, ok, ok'⟩

/-- **Schemas with one canonical form are interchangeable** if they are spelled alike: under every
registry and in every store their validators accept the same values. -/
theorem accepts_eq_of_canonical_eq {a b : Json} (wellFormed : a.WellFormed) (wellFormed' : b.WellFormed)
    {s t : Schema} (read : Schema.ofJson? a = .ok s) (read' : Schema.ofJson? b = .ok t)
    {form : Canonical} (ok : Canonical.ofSchema s = .ok form) (ok' : Canonical.ofSchema t = .ok form)
    (alike : s.SpelledAlike t) (registry : Registry) (store : Store) (value : Json) :
    (ofSchema registry s).accepts store value = (ofSchema registry t).accepts store value := by
  have same : s.normal = t.normal := (Schema.canonical_eq_iff ok ok').1 rfl
  have interchangeable : Interchangeable store (ofSchema registry s) (ofSchema registry t) :=
    interchangeable_of_normal_eq same (Schema.exists_canonical_iff.1 ⟨form, ok⟩)
      (Schema.exists_canonical_iff.1 ⟨form, ok'⟩) (Schema.wellFormed_of_ofJson? wellFormed read)
      (Schema.wellFormed_of_ofJson? wellFormed' read') alike
  rw [Bool.eq_iff_iff, accepts_iff_derives, accepts_iff_derives]
  exact interchangeable.accepts value

/-- The fragment of a string with allowed values. -/
def oneOfTexts (texts : List String) : Json :=
  .object [("type", .string "string"), ("enum", .array (texts.map .string))]

lemma ofJson?_oneOfTexts {texts : List String} (several : texts ≠ []) :
    Schema.ofJson? (oneOfTexts texts) =
      .ok (.mk (.string ⟨⟨none, none, none, none⟩, some ⟨texts, false⟩⟩) false) := by
  refine Schema.ofJson?_eq_ok_iff.2 ⟨_, .typed .string, none, rfl, rfl, rfl,
    ⟨rfl, rfl, rfl, parseString_eq_ok_iff.2 ⟨rfl, _, rfl, nofun, several, ?_, ?_⟩⟩, ?_⟩
  · simp [List.filter_map, Function.comp_def, Json.isNull]
  · simp [Json.isNull]
  · simp [Form.keywords]

/-- Two lists of the same texts. -/
theorem accepts_eq_of_canonical_eq_texts :
    let listed (texts : List String) : Schema :=
      .mk (.string ⟨⟨none, none, none, none⟩, some ⟨texts, false⟩⟩) false
    ∀ value, (ofSchema .empty (listed ["a", "b"])).accepts .empty value =
      (ofSchema .empty (listed ["b", "a"])).accepts .empty value := by
  intro listed value
  have wellFormed : (oneOfTexts ["a", "b"]).WellFormed ∧
      (oneOfTexts ["b", "a"]).WellFormed := by
    simp [oneOfTexts, Json.WellFormed, Json.WellFormedMembers, Json.WellFormedItems]
  have same : (listed ["a", "b"]).normal = (listed ["b", "a"]).normal := by
    have sorted : sortStrings ["a", "b"] = sortStrings ["b", "a"] := by cbv
    simp only [listed, Schema.normal, SchemaKind.normal, StringRules.normal, Option.map_some, sorted]
  obtain ⟨form, ok, ok'⟩ : ∃ form, Canonical.ofSchema (listed ["a", "b"]) = .ok form ∧
      Canonical.ofSchema (listed ["b", "a"]) = .ok form :=
    exists_canonical_of_normal_eq (by rfl) (by rfl) same
  refine accepts_eq_of_canonical_eq wellFormed.1 wellFormed.2
    (ofJson?_oneOfTexts (List.cons_ne_nil _ _)) (ofJson?_oneOfTexts (List.cons_ne_nil _ _)) ok ok' ?_
    .empty .empty value
  rintro (_ | ⟨step, place⟩) u v here there
  · cases here
    cases there
    rfl
  · cases here

/-- The fragment of an integer with a divisor. -/
def multiplesOf (divisor : Json.Number) : Json :=
  .object [("type", .string "integer"), ("multipleOf", .number divisor)]

/-- Its schema. -/
def multiples (divisor : Json.Number) : Schema :=
  .mk (.number ⟨⟨true, none, none, none, false, false, some divisor⟩, none⟩) false

/-- The fragment of an intersection of one schema that says nothing, with further keywords. -/
def anythingWith (keywords : List (String × Json)) : Json :=
  .object (("allOf", .array [.object []]) :: keywords)

/-- Its schema, with what stands beside the members. -/
def anything (inline : Option (ObjectRules Schema)) : Schema :=
  .mk (.intersection [.mk .any false] inline false) false

lemma ofJson?_multiplesOf {divisor : Json.Number} (positive : 0 < divisor.toDouble.value) :
    Schema.ofJson? (multiplesOf divisor) = .ok (multiples divisor) := by
  refine Schema.ofJson?_eq_ok_iff.2 ⟨_, .typed .integer, none, rfl, rfl, rfl,
    ⟨rfl, rfl, rfl, parseNumber_eq_ok_iff.2 ⟨?_, rfl, nofun⟩⟩, ?_⟩
  · refine ⟨rfl, rfl, rfl, rfl, ⟨none, rfl, rfl⟩, ⟨none, rfl, rfl⟩, rfl, nofun, nofun, ?_⟩
    rintro d ⟨⟩
    exact positive
  · simp [Form.keywords]

lemma ofJson?_anything : Schema.ofJson? (anythingWith []) = .ok (anything none) := by
  have members : ReadMembers [("allOf", .array [.object []])] "allOf" [.mk .any false] :=
    ⟨_, rfl, nofun, .cons Schema.ofJson?_any .nil⟩
  refine Schema.ofJson?_eq_ok_iff.2 ⟨_, .composition .intersection, none, rfl, rfl, rfl,
    ⟨rfl, rfl, rfl, members, ?_⟩, ?_⟩
  · simp [objectKeywords, Table.get?]
  · simp [Form.keywords]

lemma ofJson?_anything_bare :
    Schema.ofJson? (anythingWith [("properties", .object [])]) = .ok (anything (some .bare)) := by
  have members : ReadMembers [("allOf", .array [.object []]), ("properties", .object [])] "allOf"
      [.mk .any false] := ⟨_, rfl, nofun, .cons Schema.ofJson?_any .nil⟩
  have rules : ReadObject [("allOf", .array [.object []]), ("properties", .object [])] .bare :=
    ⟨.inr ⟨[], rfl, .nil⟩, .inl ⟨rfl, rfl⟩, rfl⟩
  refine Schema.ofJson?_eq_ok_iff.2 ⟨_, .composition .intersection, none, rfl, rfl, rfl,
    ⟨rfl, rfl, rfl, members, ⟨"properties", by decide, nofun⟩, rules⟩, ?_⟩
  simp [Form.keywords, objectKeywords]

lemma accepts_multiples {divisor n : Json.Number} (whole : n.isWhole = true) :
    (ofSchema registry (multiples divisor)).accepts store (.number n) = n.isMultipleOf divisor := by
  rw [multiples, ofSchema, ofKind]
  cases divides : n.isMultipleOf divisor <;>
    cases registry.external? (.number ⟨⟨true, none, none, none, false, false, some divisor⟩, none⟩) <;>
    simp [orExternal, orNull, accepts, issue?, issueAt?, numberIssue?, NumberChecks.issue?, firstIssue,
      issueIf, whole, divides]

/-- Nine quadrillion odd is a multiple of `2.0` up to the tolerance of doubles, but not of `2`; and a text
need not be an object unless rules stand beside the members, be they bare. -/
theorem canonical_eq_accepts_ne :
    let odd : Json := .number (.integer 9007199254740993)
    let two : Json.Number := .real (Double.ofInt 2)
    Schema.ofJson? (multiplesOf (.integer 2)) = .ok (multiples (.integer 2)) ∧
      Schema.ofJson? (multiplesOf two) = .ok (multiples two) ∧
      (∃ form, Canonical.ofSchema (multiples (.integer 2)) = .ok form ∧
        Canonical.ofSchema (multiples two) = .ok form) ∧
      (ofSchema .empty (multiples (.integer 2))).accepts .empty odd = false ∧
      (ofSchema .empty (multiples two)).accepts .empty odd = true ∧
      Schema.ofJson? (anythingWith []) = .ok (anything none) ∧
      Schema.ofJson? (anythingWith [("properties", .object [])]) = .ok (anything (some .bare)) ∧
      (∃ form, Canonical.ofSchema (anything none) = .ok form ∧
        Canonical.ofSchema (anything (some .bare)) = .ok form) ∧
      (ofSchema .empty (anything none)).accepts .empty (.string "text") = true ∧
      (ofSchema .empty (anything (some .bare))).accepts .empty (.string "text") = false := by
  intro odd two
  refine ⟨ofJson?_multiplesOf (by decide +kernel), ofJson?_multiplesOf (by decide +kernel), ?_, ?_, ?_,
    ofJson?_anything, ofJson?_anything_bare, exists_canonical_of_normal_eq (by rfl) (by rfl) rfl, ?_, ?_⟩
  · refine exists_canonical_of_normal_eq (by rfl) (by rfl) ?_
    have plain : (Json.Number.integer 2).plain = two.plain :=
      Json.Number.plain_eq_iff.2 (by decide +kernel)
    simp only [multiples, Schema.normal, SchemaKind.normal, NumberRules.normal, NumberChecks.normal,
      Option.map_some, plain]
  · rw [accepts_multiples (by decide)]
    decide
  · rw [accepts_multiples (by decide)]
    decide +kernel
  · simp [anything, ofSchema, ofKind, ofSchemas, orNull, accepts, issue?, issueAt?, allIssue?]
  · simp [anything, ofSchema, ofKind, ofSchemas, ofRules, ObjectRules.bare, orNull, accepts, issue?,
      issueAt?, allIssue?]

end Validator

end SchemaCompiler
