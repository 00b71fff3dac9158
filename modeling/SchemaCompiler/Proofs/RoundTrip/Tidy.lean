import SchemaCompiler.Proofs.Schema.Part
import SchemaCompiler.RoundTrip

/-!
Fragments that say nothing twice and nothing that is empty.

* `Keywords.Tidy`: what this means for the keywords of a fragment;
* `Json.Tidy`: a fragment is tidy wherever a schema is read inside it;
* `Json.tidy_object_iff_forall`: a fragment is tidy if it is keyword by keyword.
-/

namespace SchemaCompiler

/-- There is a property if any are written, a required name if any are written, none is written twice,
`null` is written once among allowed values, and a discriminator has its two keywords alone and no empty
mapping. -/
structure Keywords.Tidy (keywords : Keywords) : Prop where
  properties : Table.get? keywords "properties" ≠ some (.object [])
  required : ∀ names, Table.get? keywords "required" = some (.array names) → names ≠ [] ∧ names.Nodup
  enumeration : ∀ values, Table.get? keywords "enum" = some (.array values) →
    (values.filter Json.isNull).length ≤ 1
  discriminator : ∀ members, Table.get? keywords "discriminator" = some (.object members) →
    (∀ entry ∈ members, entry.1 = "propertyName" ∨ entry.1 = "mapping") ∧
      Table.get? members "mapping" ≠ some (.object [])

namespace Json

/-- Whether a value is neither a list nor an object. -/
def isScalar : Json → Bool
  | .array _ => false
  | .object _ => false
  | _ => true

/-- A fragment is tidy wherever a schema is read. -/
def Tidy (fragment : Json) : Prop :=
  ∀ keywords, fragment.Inside (.object keywords) → Keywords.Tidy keywords

lemma tidy_object_iff {keywords : Keywords} :
    (object keywords).Tidy ↔ keywords.Tidy ∧ ∀ part, keywords.Part part → part.Tidy := by
  constructor
  · intro tidy
    exact ⟨tidy _ (.self _), fun part here inner inside => tidy inner (.part here inside)⟩
  · rintro ⟨own, parts⟩ inner inside
    cases inside with
    | self => exact own
    | part here inside => exact parts _ here inner inside

/-- What is no object is tidy. -/
lemma tidy_of_isScalar {v : Json} (scalar : v.isScalar = true) : v.Tidy := by
  intro keywords inside
  cases inside with
  | self => cases scalar
  | part => cases scalar

end Json

/-! ### One keyword -/

section Single

variable {keywords : Keywords} {keyword : String} {value part : Json}

lemma get?_singleton (keyword : String) (value : Json) (name : String) :
    Table.get? [(keyword, value)] name = if keyword = name then some value else none := rfl

lemma eq_of_get?_singleton {name : String} (found : Table.get? [(keyword, value)] name = some part) :
    keyword = name ∧ value = part := by
  rw [get?_singleton] at found
  split at found
  · next eq => exact ⟨eq, Option.some.inj found⟩
  · cases found

/-- A part of a fragment is one of a keyword. -/
lemma Keywords.part_iff :
    keywords.Part part ↔ ∃ keyword value, Table.get? keywords keyword = some value ∧
      Keywords.Part [(keyword, value)] part := by
  constructor
  · intro here
    cases here with
    | items found => exact ⟨_, _, found, .items rfl⟩
    | further found => exact ⟨_, _, found, .further rfl⟩
    | property found mem => exact ⟨_, _, found, .property rfl mem⟩
    | member c found mem => exact ⟨_, _, found, .member c (if_pos rfl) mem⟩
  · rintro ⟨keyword, value, found, here⟩
    cases here with
    | items found' =>
        obtain ⟨rfl, rfl⟩ := eq_of_get?_singleton found'
        exact .items found
    | further found' =>
        obtain ⟨rfl, rfl⟩ := eq_of_get?_singleton found'
        exact .further found
    | property found' mem =>
        obtain ⟨rfl, rfl⟩ := eq_of_get?_singleton found'
        exact .property found mem
    | member c found' mem =>
        obtain ⟨rfl, rfl⟩ := eq_of_get?_singleton found'
        exact .member c found mem

lemma Keywords.tidy_iff_forall :
    keywords.Tidy ↔ ∀ keyword value, Table.get? keywords keyword = some value →
      Keywords.Tidy [(keyword, value)] := by
  constructor
  · intro tidy keyword value found
    refine ⟨fun here => ?_, fun names here => ?_, fun values here => ?_, fun members here => ?_⟩
    · obtain ⟨rfl, rfl⟩ := eq_of_get?_singleton here
      exact tidy.properties found
    · obtain ⟨rfl, rfl⟩ := eq_of_get?_singleton here
      exact tidy.required names found
    · obtain ⟨rfl, rfl⟩ := eq_of_get?_singleton here
      exact tidy.enumeration values found
    · obtain ⟨rfl, rfl⟩ := eq_of_get?_singleton here
      exact tidy.discriminator members found
  · intro each
    refine ⟨fun here => ?_, fun names here => ?_, fun values here => ?_, fun members here => ?_⟩
    · exact (each _ _ here).properties rfl
    · exact (each _ _ here).required names rfl
    · exact (each _ _ here).enumeration values rfl
    · exact (each _ _ here).discriminator members rfl

/-- **A fragment is tidy if it is keyword by keyword.** -/
theorem Json.tidy_object_iff_forall :
    (object keywords).Tidy ↔ ∀ keyword value, Table.get? keywords keyword = some value →
      (object [(keyword, value)]).Tidy := by
  simp only [tidy_object_iff]
  rw [Keywords.tidy_iff_forall]
  constructor
  · rintro ⟨own, parts⟩ keyword value found
    exact ⟨own keyword value found, fun part here => parts part
      (Keywords.part_iff.2 ⟨keyword, value, found, here⟩)⟩
  · intro each
    refine ⟨fun keyword value found => (each keyword value found).1, fun part here => ?_⟩
    obtain ⟨keyword, value, found, here⟩ := Keywords.part_iff.1 here
    exact (each keyword value found).2 part here

/-- What is tidy about one keyword. -/
lemma Keywords.tidy_singleton_iff :
    Keywords.Tidy [(keyword, value)] ↔
      (keyword = "properties" → value ≠ .object []) ∧
      (keyword = "required" → ∀ names, value = .array names → names ≠ [] ∧ names.Nodup) ∧
      (keyword = "enum" → ∀ values, value = .array values → (values.filter Json.isNull).length ≤ 1) ∧
      (keyword = "discriminator" → ∀ members, value = .object members →
        (∀ entry ∈ members, entry.1 = "propertyName" ∨ entry.1 = "mapping") ∧
          Table.get? members "mapping" ≠ some (.object [])) := by
  constructor
  · rintro ⟨properties, required, enumeration, discriminator⟩
    refine ⟨?_, ?_, ?_, ?_⟩
    · rintro rfl rfl
      exact properties rfl
    · rintro rfl names rfl
      exact required names rfl
    · rintro rfl values rfl
      exact enumeration values rfl
    · rintro rfl members rfl
      exact discriminator members rfl
  · rintro ⟨properties, required, enumeration, discriminator⟩
    refine ⟨fun here => ?_, fun names here => ?_, fun values here => ?_, fun members here => ?_⟩ <;>
      obtain ⟨rfl, rfl⟩ := eq_of_get?_singleton here
    · exact properties rfl rfl
    · exact required rfl names rfl
    · exact enumeration rfl values rfl
    · exact discriminator rfl members rfl

/-- The parts of one keyword. -/
lemma Keywords.part_singleton_iff :
    Keywords.Part [(keyword, value)] part ↔
      (keyword ∈ ["items", "additionalProperties"] ∧ value = part) ∨
      (keyword = "properties" ∧ ∃ entries name, value = .object entries ∧ (name, part) ∈ entries) ∨
      ∃ c : Composition, keyword = c.text ∧ ∃ items, value = .array items ∧ part ∈ items := by
  constructor
  · intro here
    cases here with
    | items found =>
        obtain ⟨rfl, rfl⟩ := eq_of_get?_singleton found
        exact .inl ⟨by decide, rfl⟩
    | further found =>
        obtain ⟨rfl, rfl⟩ := eq_of_get?_singleton found
        exact .inl ⟨by decide, rfl⟩
    | property found mem =>
        obtain ⟨rfl, rfl⟩ := eq_of_get?_singleton found
        exact .inr (.inl ⟨rfl, _, _, rfl, mem⟩)
    | member c found mem =>
        obtain ⟨rfl, rfl⟩ := eq_of_get?_singleton found
        exact .inr (.inr ⟨c, rfl, _, rfl, mem⟩)
  · rintro (⟨among, rfl⟩ | ⟨rfl, entries, name, rfl, mem⟩ | ⟨c, rfl, items, rfl, mem⟩)
    · simp only [List.mem_cons, List.not_mem_nil, or_false] at among
      rcases among with rfl | rfl
      · exact .items rfl
      · exact .further rfl
    · exact .property rfl mem
    · exact .member c (if_pos rfl) mem

namespace Json

/-- The keywords of compositions. -/
lemma mem_compositions {c : Composition} : c.text ∈ ["oneOf", "anyOf", "allOf"] := by
  cases c with
  | union keyword => cases keyword <;> decide
  | intersection => decide

/-- Keywords without parts and without lists that can be untidy are tidy whatever is written. -/
lemma tidy_of_notMem (other : keyword ∉ ["items", "additionalProperties", "properties", "oneOf", "anyOf",
    "allOf", "required", "enum", "discriminator"]) : (object [(keyword, value)]).Tidy := by
  simp only [List.mem_cons, List.not_mem_nil, or_false, not_or] at other
  obtain ⟨items, further, properties, oneOf, anyOf, allOf, required, enumeration, discriminator⟩ := other
  rw [tidy_object_iff, Keywords.tidy_singleton_iff]
  refine ⟨⟨fun eq => absurd eq properties, fun eq => absurd eq required,
    fun eq => absurd eq enumeration, fun eq => absurd eq discriminator⟩, fun part here => ?_⟩
  rcases Keywords.part_singleton_iff.1 here with ⟨among, -⟩ | ⟨eq, -⟩ | ⟨c, eq, -⟩
  · simp [items, further] at among
  · exact absurd eq properties
  · have among := mem_compositions (c := c)
    rw [← eq] at among
    simp [oneOf, anyOf, allOf] at among

/-- Scalars are tidy wherever they are written. -/
lemma tidy_of_scalar (scalar : value.isScalar = true) : (object [(keyword, value)]).Tidy := by
  have ne : (∀ items, value ≠ .array items) ∧ ∀ members, value ≠ .object members := by
    cases value <;> simp_all [isScalar]
  rw [tidy_object_iff, Keywords.tidy_singleton_iff]
  refine ⟨⟨fun _ => ne.2 _, fun _ _ eq => absurd eq (ne.1 _), fun _ _ eq => absurd eq (ne.1 _),
    fun _ _ eq => absurd eq (ne.2 _)⟩, fun part here => ?_⟩
  rcases Keywords.part_singleton_iff.1 here with ⟨-, rfl⟩ | ⟨-, _, _, eq, -⟩ | ⟨_, -, _, eq, -⟩
  · exact tidy_of_isScalar scalar
  · exact absurd eq (ne.2 _)
  · exact absurd eq (ne.1 _)

/-- Where a schema is written, all that has to be tidy is its fragment. -/
lemma tidy_schema_iff (among : keyword ∈ ["items", "additionalProperties"]) :
    (object [(keyword, value)]).Tidy ↔ value.Tidy := by
  have own : Keywords.Tidy [(keyword, value)] := by
    simp only [List.mem_cons, List.not_mem_nil, or_false] at among
    rw [Keywords.tidy_singleton_iff]
    rcases among with rfl | rfl <;> simp
  rw [tidy_object_iff, and_iff_right own]
  constructor
  · exact fun parts => parts value (Keywords.part_singleton_iff.2 (.inl ⟨among, rfl⟩))
  · intro tidy part here
    rcases Keywords.part_singleton_iff.1 here with ⟨-, rfl⟩ | ⟨rfl, -⟩ | ⟨c, rfl, -⟩
    · exact tidy
    · simp at among
    · cases c with
      | union keyword => cases keyword <;> simp [Composition.text, UnionKeyword.text] at among
      | intersection => simp [Composition.text] at among

/-- Where schemas are written, all of their fragments have to be tidy. -/
lemma tidy_members_iff (c : Composition) {items : List Json} :
    (object [(c.text, .array items)]).Tidy ↔ ∀ item ∈ items, item.Tidy := by
  have own : Keywords.Tidy [(c.text, .array items)] := by
    rw [Keywords.tidy_singleton_iff]
    cases c with
    | union keyword => cases keyword <;> simp [Composition.text, UnionKeyword.text]
    | intersection => simp [Composition.text]
  rw [tidy_object_iff, and_iff_right own]
  constructor
  · exact fun parts item mem => parts item (Keywords.part_singleton_iff.2 (.inr (.inr ⟨c, rfl, _, rfl, mem⟩)))
  · intro each part here
    rcases Keywords.part_singleton_iff.1 here with ⟨among, -⟩ | ⟨-, _, _, eq, -⟩ | ⟨_, -, _, eq, mem⟩
    · cases c with
      | union keyword => cases keyword <;> simp [Composition.text, UnionKeyword.text] at among
      | intersection => simp [Composition.text] at among
    · cases eq
    · cases eq
      exact each part mem

/-- Where properties are written, there is one, and their fragments are tidy. -/
lemma tidy_properties_iff {entries : List (String × Json)} :
    (object [("properties", .object entries)]).Tidy ↔
      entries ≠ [] ∧ ∀ entry ∈ entries, entry.2.Tidy := by
  rw [tidy_object_iff, Keywords.tidy_singleton_iff]
  simp only [forall_const, String.reduceEq, IsEmpty.forall_iff, and_true, ne_eq, object.injEq]
  refine and_congr_right fun _ => ⟨fun parts entry mem => ?_, fun each part here => ?_⟩
  · exact parts entry.2 (Keywords.part_singleton_iff.2 (.inr (.inl ⟨rfl, _, _, rfl, mem⟩)))
  · rcases Keywords.part_singleton_iff.1 here with ⟨among, -⟩ | ⟨-, _, name, eq, mem⟩ | ⟨_, -, _, eq, -⟩
    · simp at among
    · cases eq
      exact each _ mem
    · cases eq

/-- Lists of names and of allowed values and discriminators have no parts. -/
lemma tidy_iff_of_mem (among : keyword ∈ ["required", "enum", "discriminator"]) :
    (object [(keyword, value)]).Tidy ↔ Keywords.Tidy [(keyword, value)] := by
  rw [tidy_object_iff, and_iff_left]
  intro part here
  simp only [List.mem_cons, List.not_mem_nil, or_false] at among
  rcases Keywords.part_singleton_iff.1 here with ⟨among', -⟩ | ⟨eq, -⟩ | ⟨c, eq, -⟩
  · rcases among with rfl | rfl | rfl <;> simp at among'
  · rcases among with rfl | rfl | rfl <;> simp at eq
  · have composed := mem_compositions (c := c)
    rw [← eq] at composed
    rcases among with rfl | rfl | rfl <;> simp at composed

lemma tidy_required_iff {names : List Json} :
    (object [("required", .array names)]).Tidy ↔ names ≠ [] ∧ names.Nodup := by
  rw [tidy_iff_of_mem (by decide), Keywords.tidy_singleton_iff]
  simp

lemma tidy_enum_iff {values : List Json} :
    (object [("enum", .array values)]).Tidy ↔ (values.filter isNull).length ≤ 1 := by
  rw [tidy_iff_of_mem (by decide), Keywords.tidy_singleton_iff]
  simp

lemma tidy_discriminator_iff {members : List (String × Json)} :
    (object [("discriminator", .object members)]).Tidy ↔
      (∀ entry ∈ members, entry.1 = "propertyName" ∨ entry.1 = "mapping") ∧
        Table.get? members "mapping" ≠ some (.object []) := by
  rw [tidy_iff_of_mem (by decide), Keywords.tidy_singleton_iff]
  simp

end Json

end Single

end SchemaCompiler
