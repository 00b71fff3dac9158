import SchemaCompiler.Proofs.RoundTrip.Normalization

/-!
A fragment in its normal form beside the schema that is read from it.

* `ReadForm.typeOf_eq`: the type of a fragment, declared or implied, is that of its kind;
* `restored`: a fragment in its normal form has the canonical form of its schema if it is tidy, and only
  then;
* `keepsRange`: the integers of a tidy fragment are in range if those of its schema are.
-/

namespace SchemaCompiler

variable {keywords : Keywords}

/-! ### The type -/

/-- The type that is written for a kind. -/
def SchemaKind.typeText : SchemaKind → Option String
  | .string _ => some "string"
  | .number rules => some (if rules.checks.integer then "integer" else "number")
  | .boolean => some "boolean"
  | .null => some "null"
  | .array _ _ => some "array"
  | .object _ => some "object"
  | .union _ _ _ objectTyped => if objectTyped then some "object" else none
  | .intersection _ _ objectTyped => if objectTyped then some "object" else none
  | .any => none
  | .reference _ => none

lemma Schema.get?_type (s : Schema) :
    Table.get? s.keywords "type" = s.kind.typeText.map Json.string := by
  obtain ⟨kind, nullable⟩ := s
  simp only [keywords, Schema.kind, Schema.nullable]
  cases kind with
  | number rules => exact (rules.get?_keywords nullable).1
  | union keyword members discriminator objectTyped =>
      rw [(SchemaKind.get?_union keyword members discriminator objectTyped nullable).1]
      cases objectTyped <;> rfl
  | intersection members inline objectTyped =>
      rw [(SchemaKind.get?_intersection members inline objectTyped nullable).1]
      cases objectTyped <;> rfl
  | any => simp [SchemaKind.keywords, SchemaKind.typeText, get?_flag]
  | reference name => simp [SchemaKind.keywords, SchemaKind.typeText, get?_flag, Table.get?_cons]
  | _ => rfl

lemma SchemaKind.typeText_map (f : Schema → Schema) (name : String → String)
    (selection : Discriminator → Discriminator) (kind : SchemaKind) :
    (kind.map f name selection).typeText = kind.typeText := by
  cases kind <;> rfl

/-- The type of a fragment, declared or implied. -/
def typeOf (keywords : Keywords) : Option Json :=
  (Table.get? keywords "type").or (Table.get? (impliedType keywords) "type")

lemma Keywords.hasAny_iff {names : List String} :
    hasAny keywords names = true ↔ ∃ name ∈ names, Table.get? keywords name ≠ none := by
  simp only [hasAny, List.any_eq_true, Table.contains, Option.isSome_iff_ne_none]

lemma impliedType_of_there {name : String} (among : name ∈ ["$ref", "oneOf", "anyOf", "allOf", "type"])
    (there : Table.get? keywords name ≠ none) : impliedType keywords = [] :=
  if_pos (Keywords.hasAny_iff.2 ⟨name, among, there⟩)

lemma keys_impliedType_sublist (keywords : Keywords) :
    (Table.keys (impliedType keywords)).Sublist ["type"] := by
  rw [impliedType]
  split
  · exact List.nil_sublist _
  · cases inferType keywords with
    | none => exact List.nil_sublist _
    | some type => exact List.Sublist.refl _

lemma get?_impliedType (untyped : Table.get? keywords "type" = none)
    (bare : Table.get? keywords "$ref" = none) (single : findComposition keywords = .ok none) :
    Table.get? (impliedType keywords) "type" = (inferType keywords).map fun type => .string type.text := by
  have composed := findComposition_eq_none_iff.1 single
  rw [impliedType, if_neg]
  · cases inferType keywords <;> rfl
  · rw [Keywords.hasAny_iff]
    simp only [List.mem_cons, List.not_mem_nil, or_false, exists_eq_or_imp, exists_eq_left,
      untyped, bare]
    simpa using ⟨composed (.union .oneOf), composed (.union .anyOf), composed .intersection⟩

/-- A kind of a type is written with it. -/
lemma ReadTyped.typeText_eq {nullable : Bool} {type : TypeName} {kind : SchemaKind}
    (read : ReadTyped keywords nullable type kind) : kind.typeText = some type.text := by
  cases type with
  | integer =>
      cases kind with
      | number rules => rw [SchemaKind.typeText, (parseNumber_eq_ok_iff.1 read).1.integer]; rfl
      | _ => exact read.elim
  | number =>
      cases kind with
      | number rules => rw [SchemaKind.typeText, (parseNumber_eq_ok_iff.1 read).1.integer]; rfl
      | _ => exact read.elim
  | _ => cases kind <;> first | exact read.elim | rfl

/-- A composition declares the type of objects, or none. -/
lemma ReadComposition.get?_type {c : Composition} {kind : SchemaKind}
    (read : ReadComposition keywords c kind) :
    Table.get? keywords "type" = kind.typeText.map Json.string := by
  have declared : ∀ objectTyped : Bool,
      (if objectTyped then some (Json.string "object") else none) =
        (if objectTyped then some "object" else none : Option String).map Json.string := by
    intro objectTyped
    cases objectTyped <;> rfl
  cases c with
  | union keyword =>
      cases kind with
      | union keyword' members discriminator objectTyped =>
          rw [parseObjectTyped_eq_ok_iff.1 read.2.1, declared]
          rfl
      | _ => exact read.elim
  | intersection =>
      cases kind with
      | intersection members inline objectTyped =>
          rw [parseObjectTyped_eq_ok_iff.1 read.1, declared]
          rfl
      | _ => exact read.elim

/-- The type of a fragment, declared or implied, is that of its kind. -/
lemma ReadForm.typeOf_eq {nullable : Bool} {form : Form} {kind : SchemaKind}
    (read : ReadForm keywords nullable form kind)
    (all : ∀ entry ∈ keywords, entry.1 ∈ form.keywords ∨ isExtension entry.1 = true ∨
      entry.1 ∈ annotations) :
    typeOf keywords = kind.typeText.map Json.string := by
  cases form with
  | reference =>
      cases kind with
      | reference name =>
          obtain ⟨value, found, -⟩ := read
          have untyped : Table.get? keywords "type" = none := by
            refine Table.get?_eq_none_iff.2 fun mem => ?_
            obtain ⟨entry, mem, eq⟩ := List.mem_map.1 mem
            have known := all entry mem
            rw [eq] at known
            exact absurd known (by decide)
          have there : Table.get? keywords "$ref" ≠ none := by
            rw [found]
            exact nofun
          rw [typeOf, untyped, impliedType_of_there (by decide) there]
          rfl
      | _ => exact read.elim
  | untyped =>
      cases kind with
      | any =>
          obtain ⟨bare, single, type⟩ := read
          obtain ⟨untyped, infers, -⟩ := findType_eq_none_iff.1 type
          rw [typeOf, untyped, get?_impliedType untyped bare single, infers]
          rfl
      | _ => exact read.elim
  | typed type =>
      obtain ⟨bare, single, type', read⟩ := read
      rw [read.typeText_eq, Option.map_some, typeOf]
      rcases findType_eq_some_iff.1 type' with given | ⟨untyped, infers⟩
      · rw [given, Option.some_or]
      · rw [untyped, get?_impliedType untyped bare single, infers]
        rfl
  | composition c =>
      obtain ⟨bare, single, read⟩ := read
      have composed := (findComposition_eq_some_iff.1 single c).2 rfl
      have among : c.text ∈ ["$ref", "oneOf", "anyOf", "allOf", "type"] := by
        cases c with
        | union keyword => cases keyword <;> decide
        | intersection => decide
      rw [typeOf, impliedType_of_there among composed, get?_nil, Option.or_none, read.get?_type]

/-! ### Fragments -/

/-- The keywords of the normal form of a fragment, each once. -/
lemma nodup_normalizeMembers (distinct : (Table.keys keywords).Nodup) (f : Renaming) :
    (Table.keys (normalizeMembers f keywords ++ impliedType keywords)).Nodup := by
  rw [Table.keys, List.map_append]
  refine ((keys_normalizeMembers_sublist f keywords).nodup distinct).append
    ((keys_impliedType_sublist keywords).nodup (by decide)) fun name mem mem' => ?_
  obtain rfl := List.mem_singleton.1 ((keys_impliedType_sublist keywords).subset mem')
  have there := (keys_normalizeMembers_sublist f keywords).subset mem
  have typed : Table.get? keywords "type" ≠ none := Table.get?_eq_none_iff.not.2 (not_not.2 there)
  rw [impliedType_of_there (by decide) typed] at mem'
  cases mem'

/-- What the normal form of a fragment has under a keyword. -/
lemma get?_normalize (distinct : (Table.keys keywords).Nodup) (f : Renaming) {keyword : String}
    (ne : keyword ≠ "type") :
    Table.get? (normalizeMembers f keywords ++ impliedType keywords) keyword =
      (Table.get? keywords keyword).bind (normalizedAt f keyword) := by
  have absent : Table.get? (impliedType keywords) keyword = none := by
    refine Table.get?_eq_none_iff.2 fun mem => ne ?_
    exact List.mem_singleton.1 ((keys_impliedType_sublist keywords).subset mem)
  rw [Table.get?_append, absent, Option.or_none, get?_normalizeMembers distinct]

/-- The normal form of a fragment has the type that is written for its schema. -/
lemma get?_type_normalize {s : Schema} (distinct : (Table.keys keywords).Nodup)
    (ok : Schema.ofJson? (.object keywords) = .ok s) (f : Renaming) :
    Table.get? (normalizeMembers f keywords ++ impliedType keywords) "type" =
      Table.get? (s.rename f).keywords "type" := by
  obtain ⟨_, form, nullable, ⟨⟩, -, -, read, all⟩ := Schema.ofJson?_eq_ok_iff.1 ok
  have type := read.typeOf_eq all
  have kept : (Table.get? keywords "type").bind (normalizedAt f "type") = Table.get? keywords "type" := by
    rw [typeOf] at type
    cases given : Table.get? keywords "type" with
    | none => rfl
    | some value =>
        rw [given, Option.some_or] at type
        obtain ⟨text, -, eq⟩ := Option.map_eq_some_iff.1 type.symm
        have member : isNormalMember ("type", Json.string text) = true :=
          isNormalMember_eq (by decide) (by decide) nofun
        rw [← eq, Option.bind_some, normalizedAt, if_pos member,
          normalizeValue_of_isScalar rfl (by decide)]
  rw [Table.get?_append, get?_normalizeMembers distinct, kept, Schema.get?_type, Schema.kind_rename,
    SchemaKind.typeText_map, ← type, typeOf]

/-- **A fragment in its normal form has the canonical form of its schema if it is tidy.** -/
theorem restored (f : Renaming) (s : Schema) : Restored f s := by
  induction s using Schema.induction with
  | step s ih =>
      intro v wellFormed ok
      obtain ⟨⟨keywords, rfl⟩, -⟩ := exists_normalize_eq (f := f) ok
      obtain ⟨distinct, inside⟩ := Json.wellFormed_object_iff.1 wellFormed
      rw [normalize, Schema.fragment_eq, Json.normal_object_eq_iff (nodup_normalizeMembers distinct f)
        (s.rename f).nodup_keywords, Json.tidy_object_iff_forall]
      refine forall_congr' fun keyword => ?_
      by_cases isType : keyword = "type"
      · subst isType
        rw [get?_type_normalize distinct ok]
        simp only [true_iff]
        exact fun value _ => Json.tidy_of_notMem (by decide)
      · rw [get?_normalize distinct f isType]
        exact (Schema.respelled ok f isType).alike_iff (fun v found => wellFormed.get? found) ih

/-- **The integers of a tidy fragment in its normal form are in range if those of its schema are.** -/
theorem keepsRange (f : Renaming) (s : Schema) : KeepsRange f s := by
  induction s using Schema.induction with
  | step s ih =>
      intro v wellFormed ok tidy safe
      obtain ⟨⟨keywords, rfl⟩, -⟩ := exists_normalize_eq (f := f) ok
      obtain ⟨distinct, inside⟩ := Json.wellFormed_object_iff.1 wellFormed
      rw [Schema.fragment_eq] at safe
      rw [normalize, Json.safe_object_iff]
      rintro ⟨keyword, value⟩ mem
      have found := (Table.get?_eq_some_iff (nodup_normalizeMembers distinct f)).2 mem
      by_cases isType : keyword = "type"
      · rw [isType, get?_type_normalize distinct ok] at found
        exact safe.get? found
      · rw [get?_normalize distinct f isType] at found
        exact (Schema.respelled ok f isType).safe (fun v there => wellFormed.get? there)
          (fun v there => Json.tidy_object_iff_forall.1 tidy keyword v there) ih
          (fun v there => safe.get? there) found

end SchemaCompiler
