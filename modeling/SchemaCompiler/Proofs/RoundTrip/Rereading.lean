import SchemaCompiler.Proofs.RoundTrip.Restoration

/-!
Reading what was written.

Every schema can be written, but not every fragment that is written can be read again: a union needs a
member, a required name needs a property, and a list of allowed values needs a value.  What is read from
a fragment has all this, and then its own fragment is read as the schema itself, but for rules beside the
members of an intersection that say nothing, since these are not written.

* `Schema.pruned`: the schema without such rules;
* `Schema.Readable`: the schema has all that its fragment needs to be read;
* `Schema.readable_of_ofJson?`: what is read is readable;
* `Schema.ofJson?_fragment`: the fragment of a readable schema is read as the pruned schema;
* `Schema.parse_fragment`: what is read, written and read again.
-/

namespace SchemaCompiler

/-! ### Pruning -/

mutual

/-- The schema without rules that say nothing beside the members of intersections. -/
def Schema.pruned : Schema → Schema
  | .mk kind nullable => .mk (SchemaKind.pruned kind) nullable

/-- The kind without such rules. -/
def SchemaKind.pruned : SchemaKind → SchemaKind
  | .array items bounds => .array (Schema.pruned items) bounds
  | .object rules => .object (ObjectRules.pruned rules)
  | .union keyword members discriminator objectTyped =>
    .union keyword (Schema.prunedAll members) discriminator objectTyped
  | .intersection members inline objectTyped =>
    .intersection (Schema.prunedAll members) (ObjectRules.prunedInline inline) objectTyped
  | .string rules => .string rules
  | .number rules => .number rules
  | .boolean => .boolean
  | .null => .null
  | .any => .any
  | .reference name => .reference name

/-- The rules that there may be beside the members; those that say nothing are left out. -/
def ObjectRules.prunedInline : Option (ObjectRules Schema) → Option (ObjectRules Schema)
  | none => none
  | some rules => if rules.isBare then none else some (ObjectRules.pruned rules)

/-- The rules with the schemas inside pruned. -/
def ObjectRules.pruned : ObjectRules Schema → ObjectRules Schema
  | ⟨properties, required, extras⟩ =>
    ⟨ObjectRules.prunedProperties properties, required, Extras.pruned extras⟩

/-- The named properties pruned. -/
def ObjectRules.prunedProperties : List (String × Schema) → List (String × Schema)
  | [] => []
  | (name, property) :: rest => (name, Schema.pruned property) :: ObjectRules.prunedProperties rest

/-- The rule for further members pruned. -/
def Extras.pruned : Extras Schema → Extras Schema
  | .schema rule => .schema (Schema.pruned rule)
  | .unspecified => .unspecified
  | .allow => .allow
  | .forbid => .forbid

/-- Several schemas pruned. -/
def Schema.prunedAll : List Schema → List Schema
  | [] => []
  | s :: rest => Schema.pruned s :: Schema.prunedAll rest

end

lemma Schema.prunedAll_eq (members : List Schema) : prunedAll members = members.map pruned := by
  induction members with
  | nil => rfl
  | cons s rest ih => rw [prunedAll, ih, List.map_cons]

lemma ObjectRules.pruned_eq (rules : ObjectRules Schema) : pruned rules = rules.map Schema.pruned := by
  obtain ⟨properties, required, extras⟩ := rules
  have all : prunedProperties properties = Table.mapValues Schema.pruned properties := by
    induction properties with
    | nil => rfl
    | cons entry rest ih =>
        rw [prunedProperties, ih]
        rfl
  rw [pruned, map, all]
  cases extras <;> rfl

/-- Rules are written alike with schemas inside that are. -/
lemma ObjectRules.keywords_map {f : Schema → Schema} {rules : ObjectRules Schema}
    (inside : ∀ child ∈ rules.children, (f child).fragment = child.fragment) :
    keywords (rules.map f) = keywords rules := by
  have properties : Table.mapValues (fun s => (f s).fragment) rules.properties =
      Table.mapValues Schema.fragment rules.properties :=
    Table.mapValues_congr fun entry mem =>
      inside entry.2 (List.mem_append_left _ (List.mem_map_of_mem mem))
  have extras : Extras.keywords (rules.extras.map f) = Extras.keywords rules.extras := by
    cases eq : rules.extras with
    | schema rule =>
        have among : rule ∈ rules.children :=
          List.mem_append_right _ (by rw [eq]; exact List.mem_singleton_self rule)
        rw [Extras.map, Extras.keywords, Extras.keywords, inside rule among]
    | _ => rfl
  rw [keywords_eq, keywords_eq, map, extras, Table.isEmpty_mapValues, Table.mapValues_mapValues,
    properties]

/-- Rules beside an intersection are written alike when they are pruned: bare ones, which are left out, are
not written. -/
lemma ObjectRules.inlineKeywords_pruned {inline : Option (ObjectRules Schema)}
    (inside : ∀ rules, inline = some rules → ∀ child ∈ rules.children,
      child.pruned.fragment = child.fragment) :
    inlineKeywords (prunedInline inline) = inlineKeywords inline := by
  cases inline with
  | none => rfl
  | some rules =>
      rw [prunedInline]
      split
      · next bare =>
          rw [isBare_iff.1 bare]
          rfl
      · rw [pruned_eq]
        exact keywords_map (inside rules rfl)

/-- A kind is written alike when it is pruned, if the schemas inside are. -/
lemma SchemaKind.keywords_pruned {kind : SchemaKind}
    (ih : ∀ s ∈ kind.children, s.pruned.fragment = s.fragment) : kind.pruned.keywords = kind.keywords := by
  have members : ∀ some : List Schema, some ⊆ kind.children →
      Schema.fragments (Schema.prunedAll some) = Schema.fragments some := by
    intro some subset
    rw [Schema.prunedAll_eq, Schema.fragments_eq, Schema.fragments_eq, List.map_map]
    exact List.map_congr_left fun s mem => ih s (subset mem)
  cases kind with
  | array items bounds => rw [pruned, keywords, keywords, ih items (List.mem_singleton_self items)]
  | object rules => rw [pruned, keywords, keywords, ObjectRules.pruned_eq, ObjectRules.keywords_map ih]
  | union keyword all discriminator objectTyped =>
      rw [pruned, keywords, keywords, members all (List.Subset.refl _)]
  | intersection all inline objectTyped =>
      have inRules : ∀ rules, inline = some rules → ∀ child ∈ rules.children,
          child.pruned.fragment = child.fragment := by
        rintro rules rfl child mem
        exact ih child (List.mem_append_right _ mem)
      rw [pruned, keywords, keywords, ObjectRules.inlineKeywords_pruned inRules,
        members all fun s mem => List.mem_append_left _ mem]
  | _ => rfl

/-- **Pruning does not change what is written.** -/
theorem Schema.fragment_pruned (s : Schema) : s.pruned.fragment = s.fragment := by
  induction s using Schema.induction with
  | step s ih =>
      obtain ⟨kind, nullable⟩ := s
      have keywords : kind.pruned.keywords = kind.keywords := SchemaKind.keywords_pruned ih
      rw [pruned, fragment, fragment, keywords]

/-! ### Readable schemas -/

/-- A value is listed, and `null` is listed only if it is admitted. -/
structure Enumeration.Readable {α : Type} (nullable : Bool) (listed : Enumeration α) : Prop where
  inhabited : listed.values ≠ []
  admitted : listed.listsNull = true → nullable = true

/-- Exclusive bounds are there, a divisor is positive, and the numbers that are listed for an integer are
whole. -/
structure NumberRules.Readable (nullable : Bool) (rules : NumberRules) : Prop where
  bounded : rules.checks.exclusiveMinimum = true → rules.checks.minimum ≠ none
  bounded' : rules.checks.exclusiveMaximum = true → rules.checks.maximum ≠ none
  positive : ∀ divisor, rules.checks.multipleOf = some divisor → 0 < divisor.toDouble.value
  listed : ∀ listed, rules.enumeration = some listed → listed.Readable nullable
  whole : ∀ listed, rules.enumeration = some listed → ∀ n ∈ listed.values,
    rules.checks.integer = true → n.isWhole = true

/-- No name is required twice, and required names are those of properties. -/
structure ObjectRules.Readable (rules : ObjectRules Schema) : Prop where
  once : rules.required.Nodup
  known : ∀ name ∈ rules.required, name ∈ Table.keys rules.properties

/-- A kind has what its fragment needs to be read, but for the schemas inside. -/
def SchemaKind.Readable (nullable : Bool) : SchemaKind → Prop
  | .string rules => ∀ listed, rules.enumeration = some listed → listed.Readable nullable
  | .number rules => rules.Readable nullable
  | .object rules => rules.Readable
  | .union _ members _ _ => members ≠ []
  | .intersection members inline _ => members ≠ [] ∧ ∀ rules, inline = some rules → rules.Readable
  | .reference name => name ≠ ""
  | _ => True

/-- A schema has all that its fragment needs to be read. -/
def Schema.Readable (s : Schema) : Prop := ∀ t, s.Within t → t.kind.Readable t.nullable

lemma Schema.readable_iff {s : Schema} :
    s.Readable ↔ s.kind.Readable s.nullable ∧ ∀ child ∈ s.children, child.Readable := by
  constructor
  · intro readable
    exact ⟨readable s (.self s), fun child among t within => readable t (.child among within)⟩
  · rintro ⟨own, inside⟩ t within
    cases within with
    | self => exact own
    | child among within => exact inside _ among t within

section Read

variable {keywords : Keywords} {nullable : Bool}

lemma Listed.readable {α : Type} {write : α → Json} {enumeration : Option (Enumeration α)}
    (listed : Listed keywords nullable write enumeration) :
    ∀ found, enumeration = some found → found.Readable nullable := by
  rintro found rfl
  obtain ⟨-, -, admitted, inhabited, -, -⟩ := listed
  exact ⟨inhabited, admitted⟩

lemma readable_of_parseNumber {integer : Bool} {rules : NumberRules}
    (read : parseNumber keywords integer nullable = .ok rules) : rules.Readable nullable := by
  obtain ⟨checks, listed, whole⟩ := parseNumber_eq_ok_iff.1 read
  exact ⟨checks.bounded, checks.bounded', checks.positive, listed.readable,
    fun found eq n mem integer => whole found eq n mem (checks.integer ▸ integer)⟩

lemma ReadRequired.readable {rules : ObjectRules Schema}
    (read : ReadRequired keywords (Table.keys rules.properties) rules.required) : rules.Readable :=
  ⟨read.nodup, fun _ mem => read.subset mem⟩

lemma ReadMembers.ne_nil {keyword : String} {members : List Schema}
    (read : ReadMembers keywords keyword members) : members ≠ [] := by
  obtain ⟨items, -, some, all⟩ := read
  rintro rfl
  exact some (List.forall₂_nil_right_iff.1 all)

/-- A kind that is read is readable. -/
lemma ReadForm.readable {form : Form} {kind : SchemaKind} (read : ReadForm keywords nullable form kind) :
    kind.Readable nullable := by
  cases read.readKind with
  | @reference name value found denotes =>
      cases value with
      | string reference => exact Reference.ne_empty_of_name? denotes
      | _ => cases denotes
  | string ok => exact (parseString_eq_ok_iff.1 ok).2.readable
  | integer ok => exact readable_of_parseNumber ok
  | number ok => exact readable_of_parseNumber ok
  | object own => exact ReadRequired.readable own.required
  | union all => exact ReadMembers.ne_nil all
  | intersection all beside =>
      exact ⟨all.ne_nil, fun rules given => (beside rules given).required.readable⟩
  | _ => trivial

end Read

/-- **What is read is readable.** -/
theorem Schema.readable_of_ofJson? {value : Json} {s : Schema} (ok : Schema.ofJson? value = .ok s) :
    s.Readable := by
  induction s using Schema.induction generalizing value with
  | step s ih =>
      obtain ⟨keywords, form, nullable, rfl, -, -, read, -⟩ := Schema.ofJson?_eq_ok_iff.1 ok
      refine readable_iff.2 ⟨read.readable, fun child mem => ?_⟩
      obtain ⟨part, -, ok⟩ := read.exists_part mem
      exact ih child mem ok

/-! ### Reading what is written -/

/-- The form that a kind is written in. -/
def SchemaKind.written : SchemaKind → Form
  | .string _ => .typed .string
  | .number rules => .typed (if rules.checks.integer then .integer else .number)
  | .boolean => .typed .boolean
  | .null => .typed .null
  | .any => .untyped
  | .array _ _ => .typed .array
  | .object _ => .typed .object
  | .union keyword _ _ _ => .composition (.union keyword)
  | .intersection _ _ _ => .composition .intersection
  | .reference _ => .reference

/-- All that is written is read in this form. -/
lemma SchemaKind.names_subset_written (kind : SchemaKind) :
    kind.names ++ ["nullable"] ⊆ kind.written.keywords := by
  cases kind with
  | number rules =>
      cases integer : rules.checks.integer <;> simp [names, written, integer, Form.keywords]
  | union keyword => cases keyword <;> simp [names, written, Form.keywords]
  | _ => simp [names, written, Form.keywords, objectKeywords]

/-- What a kind is not written with is not there. -/
lemma Schema.get?_keywords_of_notMem {s : Schema} {name : String}
    (other : name ∉ s.kind.names ++ ["nullable"]) : Table.get? s.keywords name = none :=
  Table.get?_eq_none_iff.2 fun mem => other (s.keys_keywords_sublist.subset mem)

/-- What a form does not read is not written in it. -/
lemma Schema.get?_keywords_of_written (s : Schema) {form : Form} (written : s.kind.written = form)
    {name : String} (other : name ∉ form.keywords) : Table.get? s.keywords name = none :=
  get?_keywords_of_notMem fun mem => other (written ▸ s.kind.names_subset_written mem)

section Write

variable {keywords : Keywords} {nullable : Bool}

/-- A schema is read from its fragment as the pruned schema. -/
def Schema.Returns (s : Schema) : Prop := Schema.ofJson? s.fragment = .ok s.pruned

lemma Listed.of_fragment {α : Type} {write : α → Json} (notNull : ∀ a, (write a).isNull = false)
    {enumeration : Option (Enumeration α)}
    (written : Table.get? keywords "enum" = enumeration.map (Enumeration.fragment write))
    (readable : ∀ listed, enumeration = some listed → listed.Readable nullable) :
    Listed keywords nullable write enumeration := by
  cases enumeration with
  | none => exact written
  | some listed =>
      obtain ⟨inhabited, admitted⟩ := readable listed rfl
      refine ⟨_, written, admitted, inhabited, ?_, ?_⟩
      · rw [List.filter_append, List.filter_eq_self.2 (by simp [notNull])]
        cases listed.listsNull <;> simp [Json.isNull]
      · have none : (listed.values.map write).any Json.isNull = false := by
          rw [List.any_map]
          exact List.any_eq_false.2 fun a _ null => by simp [notNull] at null
        rw [List.any_append, none]
        cases listed.listsNull <;> rfl

/-- A flag is read as it is written. -/
lemma exists_flag {keyword : String} {value : Bool}
    (written : Table.get? keywords keyword = if value then some (.bool true) else none) :
    ∃ b : Option Bool, Table.get? keywords keyword = b.map Json.bool ∧ value = b.getD false := by
  cases value with
  | false => exact ⟨none, written, rfl⟩
  | true => exact ⟨some true, written, rfl⟩

lemma parseString_of_keywords {rules : StringRules}
    (readable : ∀ listed, rules.enumeration = some listed → listed.Readable nullable) :
    parseString (rules.keywords ++ flag "nullable" nullable) nullable = .ok rules := by
  obtain ⟨format, least, most, pattern, enum⟩ := rules.get?_keywords nullable
  exact parseString_eq_ok_iff.2 ⟨parseStringChecks_eq_ok_iff.2 ⟨format, least, most, pattern⟩,
    .of_fragment (fun _ => rfl) enum readable⟩

lemma parseNumber_of_keywords {rules : NumberRules} (readable : rules.Readable nullable) :
    parseNumber (rules.keywords ++ flag "nullable" nullable) rules.checks.integer nullable =
      .ok rules := by
  obtain ⟨-, format, least, most, above, below, divisor, enum⟩ := rules.get?_keywords nullable
  exact parseNumber_eq_ok_iff.2 ⟨⟨rfl, format, least, most, exists_flag above, exists_flag below,
    divisor, readable.bounded, readable.bounded', readable.positive⟩,
    .of_fragment (fun _ => rfl) enum readable.listed, readable.whole⟩

lemma parseDiscriminator_fragment (d : Discriminator) : parseDiscriminator d.fragment = .ok d := by
  refine parseDiscriminator_eq_ok_iff.2 ⟨_, rfl, rfl, ?_, ?_⟩
  · cases empty : d.mapping.isEmpty with
    | true => exact .inl ⟨rfl, List.isEmpty_iff.1 empty⟩
    | false => exact .inr rfl
  · cases d.mapping.isEmpty <;> simp

lemma readMembers_of_fragments {keyword : String} {members : List Schema} (some : members ≠ [])
    (returns : ∀ s ∈ members, s.Returns)
    (written : Table.get? keywords keyword = .some (.array (Schema.fragments members))) :
    ReadMembers keywords keyword (members.map Schema.pruned) := by
  rw [Schema.fragments_eq] at written
  refine ⟨_, written, by simpa using some, ?_⟩
  rw [List.forall₂_map_left_iff, List.forall₂_map_right_iff, List.forall₂_same]
  exact returns

/-- The rules of an object are read from what they are written as. -/
lemma readObject_of_keywords {rules : ObjectRules Schema} (readable : rules.Readable)
    (returns : ∀ s ∈ rules.children, s.Returns)
    (written : ∀ name ∈ objectKeywords,
      Table.get? keywords name = Table.get? (ObjectRules.keywords rules) name) :
    ReadObject keywords (rules.map Schema.pruned) := by
  obtain ⟨properties, required, extras⟩ := rules.get?_keywords
  have keys : Table.keys (rules.map Schema.pruned).properties = Table.keys rules.properties :=
    Table.keys_mapValues Schema.pruned rules.properties
  rw [← written _ (by decide)] at properties required extras
  -- what is empty is not written, and what is not there is read as empty
  refine ⟨?_, ?_, ?_⟩
  · cases empty : rules.properties.isEmpty with
    | true =>
        rw [empty, if_pos rfl] at properties
        exact .inl ⟨properties, by rw [ObjectRules.map, List.isEmpty_iff.1 empty]; rfl⟩
    | false =>
        rw [empty, if_neg Bool.false_ne_true] at properties
        refine .inr ⟨_, properties, ?_⟩
        rw [ObjectRules.map, Table.mapValues, Table.mapValues, List.forall₂_map_left_iff,
          List.forall₂_map_right_iff, List.forall₂_same]
        exact fun entry mem => ⟨rfl, returns _ (List.mem_append_left _ (List.mem_map_of_mem mem))⟩
  · rw [keys]
    cases empty : rules.required.isEmpty with
    | true =>
        rw [empty, if_pos rfl] at required
        exact .inl ⟨required, List.isEmpty_iff.1 empty⟩
    | false =>
        rw [empty, if_neg Bool.false_ne_true] at required
        exact .inr ⟨rules.required, required, readable.known,
          (eraseDups_eq_self readable.once).symm⟩
  · rw [get?_extras, if_pos rfl] at extras
    rw [ObjectRules.map]
    cases given : rules.extras with
    | schema rule =>
        rw [given] at extras
        exact ⟨_, extras, returns rule (List.mem_append_right _ (by simp [given, Extras.toList]))⟩
    | _ =>
        rw [given] at extras
        exact extras

/-- Rules that say something are written with a keyword. -/
lemma exists_keyword_of_isBare {rules : ObjectRules Schema} (speaks : rules.isBare = false) :
    ∃ name ∈ objectKeywords, Table.get? (ObjectRules.keywords rules) name ≠ none := by
  obtain ⟨properties, required, extras⟩ := rules.get?_keywords
  cases noProperties : rules.properties.isEmpty with
  | false => exact ⟨"properties", by decide, by rw [properties, noProperties]; exact nofun⟩
  | true =>
      cases noneRequired : rules.required.isEmpty with
      | false => exact ⟨"required", by decide, by rw [required, noneRequired]; exact nofun⟩
      | true =>
          refine ⟨"additionalProperties", by decide, ?_⟩
          rw [extras, get?_extras, if_pos rfl]
          obtain ⟨ps, names, further⟩ := rules
          obtain rfl := List.isEmpty_iff.1 noProperties
          obtain rfl := List.isEmpty_iff.1 noneRequired
          cases further with
          | unspecified => cases speaks
          | _ => exact nofun

lemma readTyped_of_array {items : Schema} (bounds : ItemBounds) (returns : items.Returns) :
    ReadTyped (SchemaKind.keywords (.array items bounds) ++ flag "nullable" nullable) nullable .array
      (.array items.pruned bounds) := by
  refine ⟨⟨items.fragment, rfl, returns⟩, ?_, ?_, .inl ?_⟩ <;>
    simp [SchemaKind.keywords, ItemBounds.keywords, Table.get?_append, Table.get?_cons,
      get?_optional, get?_flag]

lemma readTyped_of_object {rules : ObjectRules Schema} (readable : rules.Readable)
    (returns : ∀ s ∈ rules.children, s.Returns) :
    ReadTyped (SchemaKind.keywords (.object rules) ++ flag "nullable" nullable) nullable .object
      (.object (rules.map Schema.pruned)) := by
  refine readObject_of_keywords readable returns fun name among => ?_
  have ne : "type" ≠ name ∧ "nullable" ≠ name := by
    simp only [objectKeywords, List.mem_cons, List.not_mem_nil, or_false] at among
    rcases among with rfl | rfl | rfl <;> decide
  rw [SchemaKind.keywords, Table.get?_append, Table.get?_cons, if_neg ne.1, get?_flag, if_neg ne.2,
    Option.or_none]

lemma readComposition_of_union {keyword : UnionKeyword} {members : List Schema} (some : members ≠ [])
    (discriminator : Option Discriminator) (objectTyped : Bool) (returns : ∀ s ∈ members, s.Returns) :
    ReadComposition (SchemaKind.keywords (.union keyword members discriminator objectTyped) ++
      flag "nullable" nullable) (.union keyword)
      (.union keyword (members.map Schema.pruned) discriminator objectTyped) := by
  obtain ⟨typed, oneOf, anyOf, selects⟩ :=
    SchemaKind.get?_union keyword members discriminator objectTyped nullable
  refine ⟨rfl, parseObjectTyped_eq_ok_iff.2 typed, readMembers_of_fragments some returns ?_, ?_, ?_⟩
  · cases keyword with
    | oneOf => exact oneOf.trans (if_pos rfl)
    | anyOf => exact anyOf.trans (if_pos rfl)
  · have others : ∀ name ∈ objectKeywords, name ∉ (Form.composition (.union keyword)).keywords := by
      cases keyword <;> decide
    let s : Schema := .mk (.union keyword members discriminator objectTyped) nullable
    exact fun name among => s.get?_keywords_of_written rfl (others name among)
  · cases discriminator with
    | none => exact selects
    | some d => exact ⟨_, selects, parseDiscriminator_fragment d⟩

lemma readComposition_of_intersection {members : List Schema} (some : members ≠ [])
    {inline : Option (ObjectRules Schema)} (readable : ∀ rules, inline = .some rules → rules.Readable)
    (objectTyped : Bool)
    (returns : ∀ s ∈ SchemaKind.children (.intersection members inline objectTyped), s.Returns) :
    ReadComposition (SchemaKind.keywords (.intersection members inline objectTyped) ++
      flag "nullable" nullable) .intersection
      (.intersection (members.map Schema.pruned) (ObjectRules.prunedInline inline) objectTyped) := by
  obtain ⟨typed, allOf, beside⟩ := SchemaKind.get?_intersection members inline objectTyped nullable
  refine ⟨parseObjectTyped_eq_ok_iff.2 typed, readMembers_of_fragments some
    (fun s mem => returns s (List.mem_append_left _ mem)) allOf, ?_⟩
  cases inline with
  | none => exact beside
  | some rules =>
      rw [ObjectRules.prunedInline]
      cases speaks : rules.isBare with
      | true =>
          rw [if_pos rfl]
          rw [ObjectRules.isBare_iff.1 speaks] at beside ⊢
          exact beside
      | false =>
          rw [if_neg Bool.false_ne_true, ObjectRules.pruned_eq]
          obtain ⟨name, among, found⟩ := exists_keyword_of_isBare speaks
          refine ⟨⟨name, among, ?_⟩, readObject_of_keywords (readable rules rfl)
            (fun s mem => returns s (List.mem_append_right _ mem)) beside⟩
          rwa [beside name among]

end Write

/-! ### Forms -/

lemma SchemaKind.typeText_of_written {kind : SchemaKind} {type : TypeName}
    (written : kind.written = .typed type) : kind.typeText = some type.text := by
  cases kind with
  | number rules =>
      cases written
      rw [typeText]
      cases rules.checks.integer <;> rfl
  | _ => cases written <;> rfl

/-- The keyword of a composition that is read is there. -/
lemma ReadComposition.composed {keywords : Keywords} {c : Composition} {kind : SchemaKind}
    (read : ReadComposition keywords c kind) : Table.get? keywords c.text ≠ none := by
  have there : ∀ {members}, ReadMembers keywords c.text members → Table.get? keywords c.text ≠ none := by
    rintro members ⟨items, found, -⟩
    exact found ▸ nofun
  cases c with
  | union keyword =>
      cases kind with
      | union => exact there read.2.2.1
      | _ => exact read.elim
  | intersection =>
      cases kind with
      | intersection => exact there read.2.1
      | _ => exact read.elim

namespace Schema

variable {s : Schema}

/-- What is written with a type is read by it. -/
lemma readForm_typed {type : TypeName} (written : s.kind.written = .typed type) {kind : SchemaKind}
    (read : ReadTyped s.keywords s.nullable type kind) :
    ReadForm s.keywords s.nullable (.typed type) kind := by
  have others : ∀ name ∈ ["$ref", "oneOf", "anyOf", "allOf"], name ∉ (Form.typed type).keywords := by
    cases type <;> decide
  refine ⟨s.get?_keywords_of_written written (others _ (by decide)), ?_, ?_, read⟩
  · exact findComposition_eq_none_iff.2 fun c =>
      s.get?_keywords_of_written written (others _ (List.mem_cons_of_mem _ Json.mem_compositions))
  · exact findType_eq_some_iff.2 (.inl (by rw [get?_type, SchemaKind.typeText_of_written written]; rfl))

/-- What is written with a composition is read by it. -/
lemma readForm_composition {c : Composition} (written : s.kind.written = .composition c)
    {kind : SchemaKind} (read : ReadComposition s.keywords c kind) :
    ReadForm s.keywords s.nullable (.composition c) kind := by
  have bare : "$ref" ∉ (Form.composition c).keywords := by
    rcases c with (_ | _) | _ <;> decide
  have single : ∀ d : Composition, d ≠ c → d.text ∉ (Form.composition c).keywords := by
    rintro ((_ | _) | _) ne <;> rcases c with (_ | _) | _ <;> first | exact absurd rfl ne | decide
  refine ⟨s.get?_keywords_of_written written bare, findComposition_eq_some_iff.2 fun d => ?_, read⟩
  refine ⟨fun found => ?_, fun eq => eq ▸ read.composed⟩
  by_contra ne
  exact found (s.get?_keywords_of_written written (single d ne))

/-- A kind is read in the form in which it is written. -/
lemma readForm_written (readable : s.kind.Readable s.nullable)
    (returns : ∀ child ∈ s.children, child.Returns) :
    ReadForm s.keywords s.nullable s.kind.written s.pruned.kind := by
  obtain ⟨kind, nullable⟩ := s
  cases kind with
  | string rules => exact readForm_typed rfl (parseString_of_keywords readable)
  | number rules =>
      refine readForm_typed rfl ?_
      have read := parseNumber_of_keywords readable
      cases integer : rules.checks.integer <;> rw [integer] at read <;> exact read
  | boolean => exact readForm_typed rfl trivial
  | null => exact readForm_typed rfl trivial
  | any =>
      have none : ∀ name ∉ ["nullable"], Table.get? (mk .any nullable).keywords name = none :=
        fun name other => get?_keywords_of_notMem other
      refine ⟨none _ (by decide), ?_, findType_eq_none_iff.2 ⟨none _ (by decide), ?_, none _ (by decide)⟩⟩
      · refine findComposition_eq_none_iff.2 fun c => none _ ?_
        rcases c with (_ | _) | _ <;> decide
      · cases nullable <;> rfl
  | array items bounds =>
      exact readForm_typed rfl (readTyped_of_array bounds (returns items (List.mem_singleton_self items)))
  | object rules =>
      rw [pruned, SchemaKind.pruned, ObjectRules.pruned_eq]
      exact readForm_typed rfl (readTyped_of_object readable returns)
  | union keyword members discriminator objectTyped =>
      rw [pruned, SchemaKind.pruned, prunedAll_eq]
      exact readForm_composition rfl
        (readComposition_of_union readable discriminator objectTyped returns)
  | intersection members inline objectTyped =>
      rw [pruned, SchemaKind.pruned, prunedAll_eq]
      exact readForm_composition rfl
        (readComposition_of_intersection readable.1 readable.2 objectTyped returns)
  | reference name => exact ⟨_, rfl, Reference.name?_ofName readable⟩

/-- **The fragment of a readable schema is read as the pruned schema.** -/
theorem ofJson?_fragment (readable : s.Readable) : Schema.ofJson? s.fragment = .ok s.pruned := by
  induction s using Schema.induction with
  | step s ih =>
      obtain ⟨own, inside⟩ := readable_iff.1 readable
      have kept : s.pruned.nullable = s.nullable := by
        cases s
        rfl
      obtain ⟨admits, found, eq⟩ := exists_flag s.get?_nullable
      refine Schema.ofJson?_eq_ok_iff.2 ⟨s.keywords, s.kind.written, admits, s.fragment_eq, found,
        kept.trans eq, ?_, fun entry mem => .inl ?_⟩
      · rw [kept]
        exact readForm_written own fun child among => ih child among (inside child among)
      · exact s.kind.names_subset_written (s.keys_keywords_sublist.subset (List.mem_map_of_mem mem))

/-- **What is read, written and read again.**  The fragment that is written for a schema that was read is
read as the same schema without the rules that say nothing, and is written for that one too. -/
theorem parse_fragment {value : Json} {pointer : String} (ok : Schema.parse value pointer = .ok s)
    (again : String) : Schema.parse s.fragment again = .ok s.pruned ∧ s.pruned.fragment = s.fragment := by
  have read : Schema.ofJson? value = .ok s := by
    rw [parse] at ok
    split at ok
    · next read => rw [read, Except.ok.inj ok]
    · cases ok
  rw [parse, ofJson?_fragment (readable_of_ofJson? read)]
  exact ⟨rfl, s.fragment_pruned⟩

/-- An intersection with properties beside its members, of which there are none. -/
theorem parse_fragment_anything :
    let value : Json := .object
      [("title", .string "Anything"), ("allOf", .array [.object []]), ("properties", .object [])]
    let members : List Schema := [.mk .any false]
    ∃ s : Schema, Schema.parse value "#" = .ok s ∧
      s = .mk (.intersection members (some ⟨[], [], .unspecified⟩) false) false ∧
      s.pruned = .mk (.intersection members none false) false ∧
      (Schema.parse s.fragment "#" = .ok s.pruned ∧ s.pruned.fragment = s.fragment) := by
  intro value members
  have any : Schema.ofJson? (.object []) = .ok (.mk .any false) :=
    Schema.ofJson?_eq_ok_iff.2 ⟨[], .untyped, none, rfl, rfl, rfl, ⟨rfl, rfl, rfl⟩, nofun⟩
  have read : Schema.ofJson? value =
      .ok (.mk (.intersection members (some ⟨[], [], .unspecified⟩) false) false) :=
    Schema.ofJson?_eq_ok_iff.2 ⟨_, .composition .intersection, none, rfl, rfl, rfl,
      ⟨rfl, rfl, rfl, ⟨_, rfl, nofun, .cons any .nil⟩, ⟨"properties", by decide, nofun⟩,
        .inr ⟨[], rfl, .nil⟩, .inl ⟨rfl, rfl⟩, rfl⟩, by decide⟩
  have parsed : Schema.parse value "#" =
      .ok (.mk (.intersection members (some ⟨[], [], .unspecified⟩) false) false) := by
    rw [parse, read]
  exact ⟨_, parsed, rfl, rfl, parse_fragment parsed "#"⟩

end Schema

end SchemaCompiler
