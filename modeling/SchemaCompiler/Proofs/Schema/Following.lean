import SchemaCompiler.Proofs.Schema.Part

/-!
Reading one fragment in place of another.

Two fragments that have the same plain keywords, and at whose other keywords reading gives the same or
fails in some way, are read as the same schema, or reading the second fails in that way.

* `Parsed.Follows`: reading gives the same, or a fault with a property;
* `parseEntries_follows`, `parseItems_follows`: one of several schemas is read in place of another;
* `plainKeywords`, `partKeywords`: the keywords that are read, without and with schemas inside;
* `Keywords.Follows`: what is read at the keywords of one fragment in place of another;
* `Keywords.Follows.parseForm`, `Keywords.Follows.ofJson?`: what is read from the whole.
-/

namespace SchemaCompiler

/-! ### Computations -/

/-- Reading gives the same as before, or a fault with a property. -/
def Parsed.Follows {α : Type} (P : SchemaFault → Prop) (before after : Parsed α) : Prop :=
  after = before ∨ ∃ fault, P fault ∧ after = .error fault

namespace Parsed.Follows

variable {α β : Type} {P : SchemaFault → Prop}

lemma refl (x : Parsed α) : Follows P x x := .inl rfl

lemma of_eq {x y : Parsed α} (eq : y = x) : Follows P x y := .inl eq

lemma bind {x y : Parsed α} {f g : α → Parsed β} (first : Follows P x y)
    (next : ∀ a, Follows P (f a) (g a)) : Follows P (x >>= f) (y >>= g) := by
  rcases first with rfl | ⟨fault, holds, rfl⟩
  · cases y with
    | error fault => exact refl _
    | ok a => exact next a
  · exact .inr ⟨fault, holds, rfl⟩

/-- Reading a part fails in the way in which the part fails. -/
lemma of_part {part part' : Json} {fault : SchemaFault}
    (failed : Schema.ofJson? part' = .error fault) (segments : List String) :
    Follows (· = fault.under segments) ((Schema.ofJson? part).under segments)
      ((Schema.ofJson? part').under segments) := by
  rw [failed]
  exact .inr ⟨_, rfl, rfl⟩

/-- If no fault has the property, reading gives the same. -/
lemma eq {x y : Parsed α} (follows : Follows (fun _ => False) x y) : y = x :=
  follows.resolve_right fun ⟨_, impossible, _⟩ => impossible

end Parsed.Follows

/-! ### Keywords -/

/-- The keywords that are read and have no schema inside. -/
def plainKeywords : List String :=
  ["nullable", "$ref", "type", "discriminator", "required", "format", "enum", "minLength", "maxLength",
    "pattern", "minimum", "maximum", "exclusiveMinimum", "exclusiveMaximum", "multipleOf", "minItems",
    "maxItems", "uniqueItems"]

/-- The keywords that are read and have schemas inside. -/
def partKeywords : List String :=
  ["items", "additionalProperties", "properties", "oneOf", "anyOf", "allOf"]

lemma Composition.text_mem_partKeywords (c : Composition) : c.text ∈ partKeywords := by
  cases c with
  | union keyword => cases keyword <;> decide
  | intersection => decide

/-- The other keywords with schemas inside are not those of compositions. -/
lemma Composition.text_ne (c : Composition) {name : String}
    (other : name ∈ ["items", "additionalProperties", "properties"]) : c.text ≠ name := by
  rintro rfl
  cases c with
  | union keyword => cases keyword <;> exact absurd other (by decide)
  | intersection => exact absurd other (by decide)

/-- These are all keywords that are read in some form. -/
lemma exists_form_iff {keyword : String} :
    (∃ form : Form, keyword ∈ form.keywords) ↔ keyword ∈ plainKeywords ++ partKeywords := by
  constructor
  · rintro ⟨form, mem⟩
    have all : form.keywords ⊆ plainKeywords ++ partKeywords := by
      cases form with
      | composition c =>
          cases c with
          | union keyword => cases keyword <;> decide
          | intersection => decide
      | typed type => cases type <;> decide
      | _ => decide
    exact all mem
  · intro mem
    -- one form for each group of keywords
    have all : ∀ keyword ∈ plainKeywords ++ partKeywords,
        ∃ form ∈ [Form.reference, .composition (.union .oneOf), .composition (.union .anyOf),
          .composition .intersection, .typed .string, .typed .number, .typed .array],
          keyword ∈ form.keywords := by
      decide
    obtain ⟨form, -, among⟩ := all keyword mem
    exact ⟨form, among⟩

/-! ### Parts, keyword by keyword -/

lemma parseItemRule_eq (keywords : Keywords) :
    parseItemRule keywords =
      match Table.get? keywords "items" with
      | none => unsupported .noItems
      | some items => (Schema.ofJson? items).under ["items"] := by
  rw [parseItemRule]
  split <;> simp_all

lemma parseProperties_eq (keywords : Keywords) :
    parseProperties keywords =
      match Table.get? keywords "properties" with
      | none => .ok []
      | some (.object entries) => parseEntries entries
      | some _ => unsupported .propertiesNotObject := by
  rw [parseProperties]
  split <;> simp_all

lemma parseExtras_eq (keywords : Keywords) :
    parseExtras keywords =
      match Table.get? keywords "additionalProperties" with
      | none => .ok .unspecified
      | some (.bool true) => .ok .allow
      | some (.bool false) => .ok .forbid
      | some rule => do
        return .schema (← (Schema.ofJson? rule).under ["additionalProperties"]) := by
  rw [parseExtras]
  split <;> simp_all

lemma parseMembers_eq (keywords : Keywords) (keyword : String) :
    parseMembers keywords keyword =
      match Table.get? keywords keyword with
      | some (.array items) =>
        if items.isEmpty then unsupported (.noMembers keyword) else parseItems keyword 0 items
      | _ => unsupported (.notArray keyword) := by
  rw [parseMembers]
  split <;> simp_all

/-! ### Entries and members -/

lemma parseEntries_map {f : Json → Json} {entries : List (String × Json)}
    (same : ∀ entry ∈ entries, Schema.ofJson? (f entry.2) = Schema.ofJson? entry.2) :
    parseEntries (Table.mapValues f entries) = parseEntries entries := by
  induction entries with
  | nil => rfl
  | cons entry rest ih =>
      obtain ⟨first, others⟩ := List.forall_mem_cons.1 same
      rw [Table.mapValues, List.map_cons, parseEntries, parseEntries, first]
      congr 1
      funext property
      rw [← ih others, Table.mapValues]

lemma parseItems_map {f : Json → Json} {items : List Json}
    (same : ∀ item ∈ items, Schema.ofJson? (f item) = Schema.ofJson? item) (keyword : String) (index : ℕ) :
    parseItems keyword index (items.map f) = parseItems keyword index items := by
  induction items generalizing index with
  | nil => rfl
  | cons item rest ih =>
      obtain ⟨first, others⟩ := List.forall_mem_cons.1 same
      rw [List.map_cons, parseItems, parseItems, first, ih others]

lemma parseEntries_follows {P : SchemaFault → Prop} {part part' : Json} {name : String}
    (first : Parsed.Follows P ((Schema.ofJson? part).under ["properties", name])
      ((Schema.ofJson? part').under ["properties", name])) (before after : List (String × Json)) :
    Parsed.Follows P (parseEntries (before ++ (name, part) :: after))
      (parseEntries (before ++ (name, part') :: after)) := by
  induction before with
  | nil =>
      rw [List.nil_append, List.nil_append, parseEntries, parseEntries]
      exact first.bind fun _ => .refl _
  | cons entry rest ih =>
      rw [List.cons_append, List.cons_append, parseEntries, parseEntries]
      exact (Parsed.Follows.refl _).bind fun _ => ih.bind fun _ => .refl _

lemma parseItems_follows {P : SchemaFault → Prop} {part part' : Json} {keyword : String}
    {before : List Json} {index : ℕ}
    (first : Parsed.Follows P ((Schema.ofJson? part).under [keyword, toString (index + before.length)])
      ((Schema.ofJson? part').under [keyword, toString (index + before.length)])) (after : List Json) :
    Parsed.Follows P (parseItems keyword index (before ++ part :: after))
      (parseItems keyword index (before ++ part' :: after)) := by
  induction before generalizing index with
  | nil =>
      rw [List.nil_append, List.nil_append, parseItems, parseItems]
      exact first.bind fun _ => .refl _
  | cons item rest ih =>
      rw [List.cons_append, List.cons_append, parseItems, parseItems]
      rw [List.length_cons, ← Nat.add_assoc, Nat.add_right_comm] at first
      exact (Parsed.Follows.refl _).bind fun _ => (ih first).bind fun _ => .refl _

/-! ### Fragments -/

/-- What is read at the keywords of one fragment in place of another. -/
structure Keywords.Follows (P : SchemaFault → Prop) (before after : Keywords) : Prop where
  plain : ∀ keyword ∈ plainKeywords, Table.get? after keyword = Table.get? before keyword
  present : ∀ keyword ∈ partKeywords, Table.contains after keyword = Table.contains before keyword
  items : Parsed.Follows P (parseItemRule before) (parseItemRule after)
  properties : Parsed.Follows P (parseProperties before) (parseProperties after)
  extras : Parsed.Follows P (parseExtras before) (parseExtras after)
  members : ∀ c : Composition,
    Parsed.Follows P (parseMembers before c.text) (parseMembers after c.text)

namespace Keywords.Follows

variable {P : SchemaFault → Prop} {before after : Keywords}

/-- It is enough that the keywords that are read have the same values. -/
lemma of_get? (same : ∀ keyword ∈ plainKeywords ++ partKeywords,
    Table.get? after keyword = Table.get? before keyword) : Keywords.Follows P before after where
  plain keyword mem := same keyword (List.mem_append_left _ mem)
  present keyword mem := by
    rw [Table.contains, same keyword (List.mem_append_right _ mem), Table.contains]
  items := .of_eq (by rw [parseItemRule_eq, same _ (by decide), parseItemRule_eq])
  properties := .of_eq (by rw [parseProperties_eq, same _ (by decide), parseProperties_eq])
  extras := .of_eq (by rw [parseExtras_eq, same _ (by decide), parseExtras_eq])
  members c := .of_eq (by
    rw [parseMembers_eq, same _ (List.mem_append_right _ c.text_mem_partKeywords), parseMembers_eq])

/-- It is enough to look at the one keyword that has another value. -/
lemma of_insert {keywords : Keywords} {keyword : String} (part : keyword ∈ partKeywords)
    {value value' : Json} (found : Table.get? keywords keyword = some value)
    (items : keyword = "items" →
      Parsed.Follows P (parseItemRule keywords) (parseItemRule (Table.insert keywords keyword value')))
    (properties : keyword = "properties" →
      Parsed.Follows P (parseProperties keywords) (parseProperties (Table.insert keywords keyword value')))
    (extras : keyword = "additionalProperties" →
      Parsed.Follows P (parseExtras keywords) (parseExtras (Table.insert keywords keyword value')))
    (members : ∀ c : Composition, keyword = c.text →
      Parsed.Follows P (parseMembers keywords c.text)
        (parseMembers (Table.insert keywords keyword value') c.text)) :
    Keywords.Follows P keywords (Table.insert keywords keyword value') := by
  have others : ∀ {name : String}, keyword ≠ name →
      Table.get? (Table.insert keywords keyword value') name = Table.get? keywords name :=
    fun other => by rw [Table.get?_insert, if_neg other]
  refine ⟨fun name mem => others ?_, fun name mem => ?_, ?_, ?_, ?_, fun c => ?_⟩
  · rintro rfl
    exact absurd part ((by decide : ∀ name ∈ plainKeywords, name ∉ partKeywords) _ mem)
  · by_cases same : keyword = name
    · rw [Table.contains, Table.get?_insert, if_pos same, Table.contains, ← same, found]
      rfl
    · rw [Table.contains, others same, Table.contains]
  · by_cases same : keyword = "items"
    · exact items same
    · exact .of_eq (by rw [parseItemRule_eq, others same, parseItemRule_eq])
  · by_cases same : keyword = "properties"
    · exact properties same
    · exact .of_eq (by rw [parseProperties_eq, others same, parseProperties_eq])
  · by_cases same : keyword = "additionalProperties"
    · exact extras same
    · exact .of_eq (by rw [parseExtras_eq, others same, parseExtras_eq])
  · by_cases same : keyword = c.text
    · exact members c same
    · exact .of_eq (by rw [parseMembers_eq, others same, parseMembers_eq])

section Reading

variable (follows : Keywords.Follows P before after)
include follows

lemma contains_eq {keyword : String} (mem : keyword ∈ plainKeywords ++ partKeywords) :
    Table.contains after keyword = Table.contains before keyword := by
  rcases List.mem_append.1 mem with mem | mem
  · rw [Table.contains, follows.plain keyword mem, Table.contains]
  · exact follows.present keyword mem

lemma hasAny_eq {names : List String} (all : names ⊆ plainKeywords ++ partKeywords) :
    after.hasAny names = before.hasAny names := by
  rw [hasAny, hasAny, Bool.eq_iff_iff, List.any_eq_true, List.any_eq_true]
  exact exists_congr fun name => and_congr_right fun mem => by rw [follows.contains_eq (all mem)]

lemma inferType_eq : inferType after = inferType before := by
  rw [inferType, inferType, follows.hasAny_eq (by decide), follows.hasAny_eq (by decide),
    follows.hasAny_eq (by decide), follows.hasAny_eq (by decide), follows.plain "enum" (by decide)]

lemma findType_eq : findType after = findType before := by
  rw [findType, findType, follows.plain "type" (by decide), follows.inferType_eq,
    follows.contains_eq (by decide)]

lemma findComposition_eq : findComposition after = findComposition before := by
  have same : Composition.all.filter (fun c => Table.contains after c.text) =
      Composition.all.filter fun c => Table.contains before c.text :=
    List.filter_congr fun c _ => follows.present _ c.text_mem_partKeywords
  rw [findComposition, same, findComposition]

lemma parseObjectTyped_eq (c : Composition) : parseObjectTyped after c = parseObjectTyped before c := by
  rw [parseObjectTyped, follows.plain "type" (by decide), parseObjectTyped]

lemma parseString_eq (nullable : Bool) : parseString after nullable = parseString before nullable := by
  simp only [parseString, parseStringChecks, Keywords.string?, Keywords.natural?, Keywords.enum?,
    follows.plain "format" (by decide), follows.plain "minLength" (by decide),
    follows.plain "maxLength" (by decide), follows.plain "pattern" (by decide),
    follows.plain "enum" (by decide)]

lemma parseNumber_eq (integer nullable : Bool) :
    parseNumber after integer nullable = parseNumber before integer nullable := by
  simp only [parseNumber, parseNumberChecks, Keywords.string?, Keywords.number?, Keywords.bool?,
    Keywords.enum?, follows.plain "format" (by decide), follows.plain "minimum" (by decide),
    follows.plain "maximum" (by decide), follows.plain "exclusiveMinimum" (by decide),
    follows.plain "exclusiveMaximum" (by decide), follows.plain "multipleOf" (by decide),
    follows.plain "enum" (by decide)]

lemma parseRequired_eq (properties : List (String × Schema)) :
    parseRequired after properties = parseRequired before properties := by
  rw [parseRequired, follows.plain "required" (by decide), parseRequired]

lemma parseObject : Parsed.Follows P (parseObject before) (parseObject after) := by
  rw [SchemaCompiler.parseObject, SchemaCompiler.parseObject]
  exact follows.properties.bind fun properties =>
    (Parsed.Follows.of_eq (follows.parseRequired_eq properties)).bind fun _ =>
      follows.extras.bind fun _ => .refl _

lemma parseTyped (type : TypeName) (nullable : Bool) :
    Parsed.Follows P (parseTyped before type nullable) (parseTyped after type nullable) := by
  cases type with
  | array =>
      have least : after.natural? "minItems" = before.natural? "minItems" := by
        rw [natural?, follows.plain _ (by decide), natural?]
      have most : after.natural? "maxItems" = before.natural? "maxItems" := by
        rw [natural?, follows.plain _ (by decide), natural?]
      have unique : after.bool? "uniqueItems" = before.bool? "uniqueItems" := by
        rw [bool?, follows.plain _ (by decide), bool?]
      rw [SchemaCompiler.parseTyped, SchemaCompiler.parseTyped, least, most, unique]
      exact follows.items.bind fun _ => .refl _
  | object =>
      rw [SchemaCompiler.parseTyped, SchemaCompiler.parseTyped]
      exact follows.parseObject.bind fun _ => .refl _
  | _ =>
      simp only [SchemaCompiler.parseTyped, follows.parseString_eq, follows.parseNumber_eq]
      exact .refl _

lemma parseComposition (c : Composition) :
    Parsed.Follows P (parseComposition before c) (parseComposition after c) := by
  have siblings : objectKeywords.find? (Table.contains after ·) =
      objectKeywords.find? (Table.contains before ·) :=
    List.find?_congr fun name mem =>
      follows.contains_eq ((by decide : objectKeywords ⊆ plainKeywords ++ partKeywords) mem)
  rw [SchemaCompiler.parseComposition, SchemaCompiler.parseComposition, follows.parseObjectTyped_eq,
    siblings, follows.plain "discriminator" (by decide)]
  refine (Parsed.Follows.refl _).bind fun objectTyped => (follows.members c).bind fun members => ?_
  dsimp only
  split
  · exact .refl _
  · exact .refl _
  · exact follows.parseObject.bind fun _ => .refl _
  · exact .refl _

/-- The form and the kind of a fragment in place of another. -/
theorem parseForm (nullable : Bool) :
    Parsed.Follows P (parseForm before nullable) (parseForm after nullable) := by
  rw [SchemaCompiler.parseForm, SchemaCompiler.parseForm, follows.plain "$ref" (by decide),
    follows.findComposition_eq, follows.findType_eq]
  split
  · exact .refl _
  · refine (Parsed.Follows.refl _).bind fun composition => ?_
    cases composition with
    | some c => exact (follows.parseComposition c).bind fun _ => .refl _
    | none =>
        refine (Parsed.Follows.refl _).bind fun type => ?_
        cases type with
        | some type => exact (follows.parseTyped type nullable).bind fun _ => .refl _
        | none => exact .refl _

/-- The schema of a fragment in place of another in which the same keywords are unknown. -/
theorem ofJson? (unknown : ∀ form, after.unknown? form = before.unknown? form) :
    Parsed.Follows P (Schema.ofJson? (.object before)) (Schema.ofJson? (.object after)) := by
  have nullable : after.bool? "nullable" = before.bool? "nullable" := by
    rw [bool?, follows.plain _ (by decide), bool?]
  simp only [Schema.ofJson?, nullable, unknown]
  exact (Parsed.Follows.refl _).bind fun _ => (follows.parseForm _).bind fun _ => .refl _

end Reading

end Keywords.Follows

end SchemaCompiler
