import SchemaCompiler.Proofs.List
import SchemaCompiler.Proofs.Validator.Derivation
import SchemaCompiler.Proofs.Validator.Selection
import SchemaCompiler.Validator.Render

/-!
Unions with a discriminator that accept what plain unions accept.

A union with a discriminator checks one member, the first one that the tag of the object selects, and a
plain union tries them all.  The two agree if tags are decisive, which is to say that each member leads to
an object that must have the property, compiled from an enumeration of strings, and that no string is a
tag of two members.  Then what a member accepts has a tag, and the tag selects this member.  The exception
is an enumeration that admits `null`, which is a value of the property but no tag.

* `Validator.LeadsTo`: a validator leads along references to an object with some fields;
* `Validator.Tagged`, `Validator.Decisive`: the object of a member has some tags; so do the objects of all
  members, without a tag in common;
* `Tagged.mem_memberTags_iff`, `Tagged.exists_of_derives`: a member is selected by just these tags, and
  what it accepts has one of them, or `null`;
* `Decisive.find?_eq_some`: a tag selects the member that has it;
* `accepts_union_iff_of_decisive`: the union accepts what the plain union accepts but for `null` as a tag,
  and has its text where a member is put off.
-/

namespace SchemaCompiler.Validator

/-- A validator leads along references to an object with some fields. -/
inductive LeadsTo (store : Store) : Validator → List (Field Validator) → Prop where
  | object (fields : List (Field Validator)) (extras : Extras Validator) :
      LeadsTo store (.object fields extras) fields
  | reference {name : String} {target : Validator} {fields : List (Field Validator)}
      (found : store.get? name = some target) (leads : LeadsTo store target fields) :
      LeadsTo store (.reference name) fields

/-- A member leads to an object that must have the property, compiled from an enumeration of strings.
There is at least one, as in every enumeration that is read.  If `admitsNull` is not set, the enumeration
does not admit `null`. -/
def Tagged (store : Store) (property : String) (admitsNull : Bool) (member : Validator)
    (tags : List String) : Prop :=
  tags ≠ [] ∧ ∃ fields registry checks listsNull nullable, LeadsTo store member fields ∧
    (fields.find? fun field => field.name = property) = some ⟨property,
      .ofSchema registry (.mk (.string ⟨checks, some ⟨tags, listsNull⟩⟩) nullable), false⟩ ∧
    (nullable = true → admitsNull = true)

/-- All members have tags, and no two of them one in common. -/
def Decisive (store : Store) (property : String) (admitsNull : Bool) (members : List Validator) : Prop :=
  ∃ lists, List.Forall₂ (Tagged store property admitsNull) members lists ∧
    lists.Pairwise List.Disjoint

/-- The value is an object in which the property is `null`. -/
def HasNull (property : String) (value : Json) : Prop :=
  ∃ entries, value = .object entries ∧ Table.get? entries property = some .null

variable {store : Store} {property tag : String} {admitsNull : Bool} {member : Validator}
  {tags : List String}

/-! ### Members -/

/-- The search for strings that a property is limited to ends at the object. -/
lemma LeadsTo.limitedIn_iff {v : Validator} {fields : List (Field Validator)}
    (leads : LeadsTo store v fields) :
    (∃ n, LimitedIn store property tag n v) ↔ tag ∈ fieldTags property fields := by
  induction leads with
  | object fields extras =>
      refine ⟨fun ⟨n, limited⟩ => ?_, fun mem => ⟨1, mem⟩⟩
      cases n with
      | zero => exact limited.elim
      | succ n => exact limited
  | reference found leads ih =>
      rw [← ih]
      refine ⟨fun ⟨n, limited⟩ => ?_, fun ⟨n, limited⟩ => ⟨n + 1, _, found, limited⟩⟩
      cases n with
      | zero => exact limited.elim
      | succ n =>
          obtain ⟨target, found', limited⟩ := limited
          cases found.symm.trans found'
          exact ⟨n, limited⟩

/-- What a validator accepts is accepted by the object that it leads to. -/
lemma LeadsTo.exists_derives {v : Validator} {fields : List (Field Validator)}
    (leads : LeadsTo store v fields) {value : Json} (derives : Derives store v value) :
    ∃ extras, Derives store (.object fields extras) value := by
  induction leads with
  | object fields extras => exact ⟨extras, derives⟩
  | reference found leads ih =>
      cases derives_iff_rule.1 derives with
      | reference found' holds =>
          cases found.symm.trans found'
          exact ih holds

/-- An enumeration accepts its strings, and `null` if it admits that. -/
lemma eq_of_derives_ofSchema {registry : Registry} {checks : StringChecks} {listed : Enumeration String}
    {nullable : Bool} {value : Json}
    (derives : Derives store (.ofSchema registry (.mk (.string ⟨checks, some listed⟩) nullable)) value) :
    (∃ tag ∈ listed.values, value = .string tag) ∨ nullable = true ∧ value = .null := by
  have listing (derives : Derives store (.strings listed checks) value) :
      ∃ tag ∈ listed.values, value = .string tag := by
    obtain ⟨tag, eq, mem⟩ := rule_strings_iff.1 (derives_iff_rule.1 derives)
    exact ⟨tag, mem, eq⟩
  cases nullable with
  | false => exact .inl (listing derives)
  | true => exact (rule_nullable_iff.1 (derives_iff_rule.1 derives)).symm.imp listing fun eq => ⟨rfl, eq⟩

namespace Tagged

lemma mem_literalTags_iff (tagged : Tagged store property admitsNull member tags) :
    tag ∈ literalTags store property [] member ↔ tag ∈ tags := by
  obtain ⟨-, fields, registry, checks, listsNull, nullable, leads, field, -⟩ := tagged
  rw [Validator.mem_literalTags_iff, leads.limitedIn_iff, fieldTags, field]
  exact iff_of_eq (congrArg (tag ∈ ·) (enumValues_ofSchema _))

/-- A member is selected by its tags, whatever its name and the mapping are. -/
lemma mem_memberTags_iff {discriminator : Discriminator}
    (tagged : Tagged store discriminator.property admitsNull member tags) :
    tag ∈ memberTags store discriminator member ↔ tag ∈ tags := by
  have literal : literalTags store discriminator.property [] member ≠ [] := by
    obtain ⟨first, mem⟩ := List.exists_mem_of_ne_nil tags tagged.1
    exact List.ne_nil_of_mem (tagged.mem_literalTags_iff.2 mem)
  rw [Validator.mem_memberTags_iff, tagged.mem_literalTags_iff,
    or_iff_left fun nominal => literal nominal.1]

/-- What a member accepts is an object with one of its tags, or with `null` if that is admitted. -/
lemma exists_of_derives (tagged : Tagged store property admitsNull member tags) {value : Json}
    (derives : Derives store member value) :
    (∃ entries, ∃ tag ∈ tags, value = .object entries ∧
        Table.get? entries property = some (.string tag)) ∨
      admitsNull = true ∧ HasNull property value := by
  obtain ⟨-, fields, registry, checks, listsNull, nullable, leads, field, admits⟩ := tagged
  obtain ⟨extras, derives⟩ := leads.exists_derives derives
  have among := List.mem_of_find?_eq_some field
  cases derives_iff_rule.1 derives with
  | @object _ _ entries present declared closed further =>
      obtain ⟨part, found⟩ := Option.isSome_iff_exists.1 (present _ among rfl)
      rcases eq_of_derives_ofSchema (declared _ among part found) with ⟨tag, mem, rfl⟩ | ⟨null, rfl⟩
      · exact .inl ⟨entries, tag, mem, rfl, found⟩
      · exact .inr ⟨admits null, entries, rfl, found⟩

end Tagged

/-! ### Unions -/

/-- A tag selects the member that has it. -/
lemma Decisive.find?_eq_some {discriminator : Discriminator} {members : List Validator}
    (decisive : Decisive store discriminator.property admitsNull members) (among : member ∈ members)
    (mem : tag ∈ memberTags store discriminator member) :
    (members.find? fun member => (memberTags store discriminator member).contains tag) =
      some member := by
  obtain ⟨lists, tagged, apart⟩ := decisive
  induction tagged with
  | nil => cases among
  | @cons first tags rest lists head tail ih =>
      obtain ⟨apart, apart'⟩ := List.pairwise_cons.1 apart
      rcases List.mem_cons.1 among with rfl | among
      · exact List.find?_cons_of_pos (List.contains_iff_mem.2 mem)
      · -- the tag is one of a later member's, so that the first one does not have it
        obtain ⟨others, listed, tagged⟩ := exists_mem_of_forall₂ tail among
        have other : tag ∉ memberTags store discriminator first := fun own =>
          apart others listed (head.mem_memberTags_iff.1 own) (tagged.mem_memberTags_iff.1 mem)
        rw [List.find?_cons_of_neg (by rwa [List.contains_iff_mem])]
        exact ih among apart'

variable {keyword : UnionKeyword} {members : List Validator} {discriminator : Discriminator}
  {objectTyped : Bool}

/-- What a union with a discriminator accepts is accepted by the plain union, and has a tag. -/
lemma derives_plain_of_derives (several : 2 ≤ members.length) {value : Json}
    (derives : Derives store (.union keyword members (some discriminator) objectTyped) value) :
    Derives store (.union keyword members none objectTyped) value ∧
      ¬HasNull discriminator.property value := by
  cases derives_iff_rule.1 derives with
  | union plain among holds =>
      rcases plain with plain | single
      · cases plain
      · exact absurd several (not_le.2 single)
  | tagged several tagged first holds =>
      refine ⟨.of_rule (.union (.inl rfl) (List.mem_of_find?_eq_some first) holds), ?_⟩
      rintro ⟨entries, ⟨⟩, null⟩
      cases tagged.symm.trans null

/-- What the plain union accepts is accepted with a discriminator if tags are decisive, but for `null`. -/
lemma Decisive.derives_of_derives_plain
    (decisive : Decisive store discriminator.property admitsNull members) (several : 2 ≤ members.length)
    {value : Json} (derives : Derives store (.union keyword members none objectTyped) value) :
    Derives store (.union keyword members (some discriminator) objectTyped) value ∨
      admitsNull = true ∧ HasNull discriminator.property value := by
  cases derives_iff_rule.1 derives with
  | union plain among holds =>
      obtain ⟨lists, all, -⟩ := id decisive
      obtain ⟨tags, -, tagged⟩ := exists_mem_of_forall₂ all among
      refine (tagged.exists_of_derives holds).imp_left fun ⟨entries, tag, mem, eq, found⟩ => ?_
      subst eq
      have first := decisive.find?_eq_some among (tagged.mem_memberTags_iff.2 mem)
      exact .of_rule (.tagged several found first holds)

/-- A union with a member that is put off has the text of the plain union. -/
lemma renderAt_union_of_needsLazy {scope : Scope} (lazy : anyNeedsLazy scope members = true)
    (level : ℕ) :
    renderAt scope level (.union keyword members (some discriminator) objectTyped) =
      renderAt scope level (.union keyword members none objectTyped) := by
  simp only [renderAt, lazy, if_true]

/-- **Where tags are decisive, a union accepts what the plain union accepts**, but for objects in which
the property is `null`, and for all values if no enumeration admits `null`.  So it does not change what
else is accepted that a union has the text of the plain union where a member is put off. -/
theorem accepts_union_iff_of_decisive
    (decisive : Decisive store discriminator.property admitsNull members) (several : 2 ≤ members.length)
    (keyword : UnionKeyword) (objectTyped : Bool) :
    (∀ value, (union keyword members (some discriminator) objectTyped).accepts store value = true ↔
        (union keyword members none objectTyped).accepts store value = true ∧
          ¬HasNull discriminator.property value) ∧
      (admitsNull = false → ∀ value,
        (union keyword members (some discriminator) objectTyped).accepts store value =
          (union keyword members none objectTyped).accepts store value) ∧
      ∀ scope level, anyNeedsLazy scope members = true →
        renderAt scope level (.union keyword members (some discriminator) objectTyped) =
          renderAt scope level (.union keyword members none objectTyped) := by
  refine ⟨fun value => ?_, fun never value => ?_, fun scope level lazy =>
    renderAt_union_of_needsLazy lazy level⟩
  · rw [accepts_iff_derives, accepts_iff_derives]
    refine ⟨derives_plain_of_derives several, fun ⟨derives, tagged⟩ => ?_⟩
    exact (decisive.derives_of_derives_plain several derives).resolve_right fun null => tagged null.2
  · rw [Bool.eq_iff_iff, accepts_iff_derives, accepts_iff_derives]
    refine ⟨fun derives => (derives_plain_of_derives several derives).1, fun derives => ?_⟩
    refine (decisive.derives_of_derives_plain several derives).resolve_right fun null => ?_
    cases never.symm.trans null.1

/-- Objects of some kinds, which may have a friend of any kind. -/
def kindred (kinds : List String) (nullable : Bool) : Validator :=
  let kind : Schema := .mk (.string ⟨⟨none, none, none, none⟩, some ⟨kinds, false⟩⟩) nullable
  .object [⟨"kind", .ofSchema .empty kind, false⟩, ⟨"friend", .reference "Pet", true⟩] .unspecified

/-- The members of a union: references, the second to another one. -/
def kennelMembers : List Validator := [.reference "Cat", .reference "Hound"]

/-- Cats, which may hide their kind, dogs under two names, and the union of both. -/
def kennel (hidden : Bool) : Store :=
  ⟨[("Cat", kindred ["cat"] hidden), ("Dog", kindred ["dog", "hound"] false),
    ("Hound", .reference "Dog"), ("Pet", .union .oneOf kennelMembers (some ⟨"kind", []⟩) false)], []⟩

lemma decisive_kennel (hidden : Bool) : Decisive (kennel hidden) "kind" hidden kennelMembers := by
  refine ⟨[["cat"], ["dog", "hound"]], .cons ?cat (.cons ?hound .nil), List.pairwise_pair.2 ?apart⟩
  case apart => simp
  case cat =>
    exact ⟨List.cons_ne_nil _ _, _, _, _, _, hidden, .reference rfl (.object _ _), rfl, id⟩
  case hound =>
    exact ⟨List.cons_ne_nil _ _, _, _, _, _, false, .reference rfl (.reference rfl (.object _ _)), rfl,
      nofun⟩

/-- Members that refer to the union itself, one of them by way of another reference. -/
theorem accepts_union_iff_of_decisive_kennel :
    Decisive (kennel false) "kind" false kennelMembers ∧ 2 ≤ kennelMembers.length ∧
      ∀ value, (union .oneOf kennelMembers (some ⟨"kind", []⟩) false).accepts (kennel false) value =
          (union .oneOf kennelMembers none false).accepts (kennel false) value :=
  ⟨decisive_kennel false, le_rfl,
    (accepts_union_iff_of_decisive (decisive_kennel false) le_rfl .oneOf false).2.1 rfl⟩

/-- A cat that hides its kind is accepted by the plain union alone. -/
theorem accepts_union_ne_of_null :
    Decisive (kennel true) "kind" true kennelMembers ∧ 2 ≤ kennelMembers.length ∧
      (union .oneOf kennelMembers (some ⟨"kind", []⟩) false).accepts (kennel true)
          (.object [("kind", .null)]) = false ∧
        (union .oneOf kennelMembers none false).accepts (kennel true) (.object [("kind", .null)]) =
          true := by
  refine ⟨decisive_kennel true, le_rfl, ?_, ?_⟩
  · rw [Bool.eq_false_iff, ne_eq, accepts_iff_derives]
    exact fun derives => (derives_plain_of_derives le_rfl derives).2 ⟨_, rfl, rfl⟩
  · rw [accepts_iff_derives]
    have cat : Derives (kennel true) (kindred ["cat"] true) (.object [("kind", .null)]) := by
      refine .of_rule (.object ?present ?declared (by simp) (by simp))
      case present => simp [Table.contains, Table.get?]
      case declared =>
        simp only [Table.get?, List.forall_mem_cons, if_true]
        refine ⟨?_, by simp⟩
        rintro value ⟨⟩
        exact .of_rule (.admittedNull _)
    exact .of_rule (.union (.inl rfl) List.mem_cons_self (.of_rule (.reference rfl cat)))

end SchemaCompiler.Validator
