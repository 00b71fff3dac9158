import SchemaCompiler.Proofs.RoundTrip.Tidy
import SchemaCompiler.Proofs.Schema.Canonical

/-!
How a fragment comes back when the schema that is read from it is written again.

Most keywords come back as they were.  Lists of names and of allowed values come back without
repetitions, what is empty does not come back, and the schemas inside are written again themselves.

* `Respelled`: how the value of a keyword comes back when references are renamed as well;
* `SchemaKind.names`, `Schema.keys_keywords_sublist`: the keywords that a kind is written with;
* `Schema.respelled`: how each keyword comes back, but for the type.
-/

namespace SchemaCompiler

/-- How the value of a keyword comes back when the schema that was read is written with its references
renamed.  The schemas inside are among some. -/
inductive Respelled (f : Renaming) (inside : List Schema) : String → Option Json → Option Json → Prop where
  | absent (keyword : String) : Respelled f inside keyword none none
  | dropped {keyword : String} {value : Json} (idle : isNormalMember (keyword, value) = false) :
      Respelled f inside keyword (some value) none
  | same {keyword : String} {value : Json} (scalar : value.isScalar = true)
      (normal : isNormalMember (keyword, value) = true) (ne : keyword ≠ "$ref") :
      Respelled f inside keyword (some value) (some value)
  | reference {value : Json} {name : String} (denotes : Reference.ofJson? value = .ok name) :
      Respelled f inside "$ref" (some value) (some (.string (Reference.ofName (f.apply name))))
  | schema {keyword : String} {value : Json} {s : Schema}
      (among : keyword ∈ ["items", "additionalProperties"]) (mem : s ∈ inside)
      (read : Schema.ofJson? value = .ok s) :
      Respelled f inside keyword (some value) (some (s.rename f).fragment)
  | members (c : Composition) {items : List Json} {members : List Schema} (subset : members ⊆ inside)
      (read : List.Forall₂ (fun item member => Schema.ofJson? item = .ok member) items members) :
      Respelled f inside c.text (some (.array items))
        (some (.array (members.map fun s => (s.rename f).fragment)))
  | properties {entries : List (String × Json)} {properties : List (String × Schema)}
      (subset : properties.map Prod.snd ⊆ inside)
      (read : List.Forall₂ (fun entry property => property.1 = entry.1 ∧
        Schema.ofJson? entry.2 = .ok property.2) entries properties) :
      Respelled f inside "properties" (some (.object entries))
        (if properties.isEmpty then none
          else some (.object (Table.mapValues (fun s => (s.rename f).fragment) properties)))
  | required (names : List String) :
      Respelled f inside "required" (some (.array (names.map Json.string)))
        (if names.eraseDups.isEmpty then none else some (.array (names.eraseDups.map Json.string)))
  | enumeration {values : List Json}
      (alike : (values.filter (!·.isNull)).all Json.isString = true ∨
        (values.filter (!·.isNull)).all Json.isNumber = true) :
      Respelled f inside "enum" (some (.array values)) (some (.array
        (values.filter (!·.isNull) ++ if values.any Json.isNull then [.null] else [])))
  | discriminator {value : Json} {d : Discriminator} (read : parseDiscriminator value = .ok d) :
      Respelled f inside "discriminator" (some value) (some (d.rename f).fragment)

/-! ### Keywords that are read and written -/

/-- The keywords that a kind is written with, in order. -/
def SchemaKind.names : SchemaKind → List String
  | .string _ => ["type", "format", "minLength", "maxLength", "pattern", "enum"]
  | .number _ =>
    ["type", "enum", "format", "minimum", "exclusiveMinimum", "maximum", "exclusiveMaximum",
      "multipleOf"]
  | .boolean | .null => ["type"]
  | .any => []
  | .array _ _ => ["type", "items", "minItems", "maxItems"]
  | .object _ => ["type", "properties", "required", "additionalProperties"]
  | .union keyword _ _ _ => ["type", keyword.text, "discriminator"]
  | .intersection _ _ _ => ["type", "allOf", "properties", "required", "additionalProperties"]
  | .reference _ => ["$ref"]

section Names

lemma keys_optional_sublist {α : Type} (keyword : String) (value : Option α) (write : α → Json) :
    (Table.keys (optional keyword value write)).Sublist [keyword] := by
  cases value with
  | none => exact List.nil_sublist _
  | some a => exact List.Sublist.refl _

lemma keys_flag_sublist (keyword : String) (value : Bool) :
    (Table.keys (flag keyword value)).Sublist [keyword] := by
  cases value with
  | false => exact List.nil_sublist _
  | true => exact List.Sublist.refl _

lemma keys_objectType_sublist (objectTyped : Bool) :
    (Table.keys (objectType objectTyped)).Sublist ["type"] := by
  cases objectTyped with
  | false => exact List.nil_sublist _
  | true => exact List.Sublist.refl _

lemma keys_append_sublist {ms ns : List (String × Json)} {names others : List String}
    (first : (Table.keys ms).Sublist names) (second : (Table.keys ns).Sublist others) :
    (Table.keys (ms ++ ns)).Sublist (names ++ others) := by
  rw [Table.keys, List.map_append]
  exact first.append second

lemma ObjectRules.keys_keywords_sublist (rules : ObjectRules Schema) :
    (Table.keys (keywords rules)).Sublist ["properties", "required", "additionalProperties"] := by
  have properties : (Table.keys (if rules.properties.isEmpty then [] else
      [("properties", Json.object (Table.mapValues Schema.fragment rules.properties))])).Sublist
        ["properties"] := by
    split
    · exact List.nil_sublist _
    · exact List.Sublist.refl _
  have required : (Table.keys (requiredKeyword rules.required)).Sublist ["required"] := by
    rw [requiredKeyword]
    split
    · exact List.nil_sublist _
    · exact List.Sublist.refl _
  have extras : (Table.keys (Extras.keywords rules.extras)).Sublist ["additionalProperties"] := by
    cases rules.extras with
    | unspecified => exact List.nil_sublist _
    | _ => exact List.Sublist.refl _
  rw [keywords_eq]
  exact keys_append_sublist (keys_append_sublist properties required) extras

/-- A kind is written with its keywords, each once. -/
lemma SchemaKind.keys_keywords_sublist (kind : SchemaKind) :
    (Table.keys kind.keywords).Sublist kind.names := by
  have single : ∀ (keyword : String) (value : Json),
      (Table.keys [(keyword, value)]).Sublist [keyword] := fun _ _ => List.Sublist.refl _
  cases kind with
  | string rules =>
      exact keys_append_sublist (keys_append_sublist (keys_append_sublist (keys_append_sublist
        (keys_append_sublist (single _ _) (keys_optional_sublist _ _ _)) (keys_optional_sublist _ _ _))
        (keys_optional_sublist _ _ _)) (keys_optional_sublist _ _ _)) (keys_optional_sublist _ _ _)
  | number rules =>
      exact keys_append_sublist (keys_append_sublist (keys_append_sublist (keys_append_sublist
        (keys_append_sublist (keys_append_sublist (keys_append_sublist (single _ _)
        (keys_optional_sublist _ _ _)) (keys_optional_sublist _ _ _)) (keys_optional_sublist _ _ _))
        (keys_flag_sublist _ _)) (keys_optional_sublist _ _ _)) (keys_flag_sublist _ _))
        (keys_optional_sublist _ _ _)
  | boolean => exact single _ _
  | null => exact single _ _
  | any => exact List.nil_sublist _
  | array items bounds =>
      have first : (Table.keys [("type", Json.string "array"), ("items", items.fragment)]).Sublist
          ["type", "items"] := List.Sublist.refl _
      exact keys_append_sublist first
        (keys_append_sublist (keys_optional_sublist _ _ _) (keys_optional_sublist _ _ _))
  | object rules => exact keys_append_sublist (single "type" _) rules.keys_keywords_sublist
  | union keyword members discriminator objectTyped =>
      exact keys_append_sublist (keys_append_sublist (keys_objectType_sublist _) (single _ _))
        (keys_optional_sublist _ _ _)
  | intersection members inline objectTyped =>
      rw [keywords, ObjectRules.inlineKeywords_eq]
      exact keys_append_sublist (keys_append_sublist (keys_objectType_sublist _) (single _ _))
        (ObjectRules.keys_keywords_sublist _)
  | reference name => exact single _ _

lemma Schema.keys_keywords_sublist (s : Schema) :
    (Table.keys s.keywords).Sublist (s.kind.names ++ ["nullable"]) :=
  keys_append_sublist s.kind.keys_keywords_sublist (keys_flag_sublist _ _)

/-- No keyword is written twice. -/
lemma Schema.nodup_keywords (s : Schema) : (Table.keys s.keywords).Nodup := by
  refine s.keys_keywords_sublist.nodup ?_
  cases s.kind with
  | union keyword => cases keyword <;> simp [SchemaKind.names, UnionKeyword.text]
  | _ => simp [SchemaKind.names]

lemma SchemaKind.names_map (f : Schema → Schema) (name : String → String)
    (selection : Discriminator → Discriminator) (kind : SchemaKind) :
    (kind.map f name selection).names = kind.names := by
  cases kind <;> rfl

variable {keywords : Keywords} {nullable : Bool} {form : Form} {kind : SchemaKind}

/-- A schema is written with keywords that are read. -/
lemma ReadForm.names_subset (read : ReadForm keywords nullable form kind) :
    kind.names ++ ["nullable"] ⊆ form.keywords := by
  cases read.readKind <;> simp [SchemaKind.names, Form.keywords, objectKeywords]

end Names

/-! ### Keyword by keyword -/

section Keywords

variable {f : Renaming} {inside : List Schema} {keywords : Keywords} {nullable : Bool} {kind : SchemaKind}

lemma isNormalMember_eq {keyword : String} {value : Json} (known : isExtension keyword = false)
    (other : keyword ∉ annotations) (set : value = .bool false → keyword ∉ falseKeywords) :
    isNormalMember (keyword, value) = true := by
  have plain : annotations.contains keyword = false := by
    rwa [← Bool.not_eq_true, List.contains_iff_mem]
  rw [isNormalMember.eq_def]
  split
  · next keyword' eq =>
      obtain ⟨rfl, rfl⟩ := Prod.mk.inj eq
      have unset : falseKeywords.contains keyword = false := by
        rw [← Bool.not_eq_true, List.contains_iff_mem]
        exact set rfl
      rw [known, plain, unset]
      rfl
  · next keyword' value' _ eq =>
      obtain ⟨rfl, rfl⟩ := Prod.mk.inj eq
      rw [known, plain]
      rfl

lemma isNormalMember_eq_false {keyword : String} {value : Json}
    (idle : isExtension keyword = true ∨ keyword ∈ annotations) :
    isNormalMember (keyword, value) = false := by
  rw [← List.contains_iff_mem] at idle
  rw [isNormalMember.eq_def]
  rcases idle with idle | idle <;> split <;> simp_all

/-- A text or number that may be missing comes back as it was. -/
lemma respelled_scalar {α : Type} {write : α → Json}
    (scalar : ∀ a, (write a).isString = true ∨ (write a).isNumber = true) {keyword : String}
    (known : isExtension keyword = false) (other : keyword ∉ annotations) (ne : keyword ≠ "$ref")
    {given : Option α} {own again : Option Json} (read : own = given.map write)
    (written : again = given.map write) : Respelled f inside keyword own again := by
  rw [read, written]
  cases given with
  | none => exact .absent keyword
  | some a =>
      have plain : (write a).isScalar = true ∧ write a ≠ .bool false := by
        rcases scalar a with is | is <;> cases eq : write a <;>
          simp_all [Json.isString, Json.isNumber, Json.isScalar]
      exact .same plain.1 (isNormalMember_eq known other fun eq => absurd eq plain.2) ne

/-- A flag comes back if it is set. -/
lemma respelled_flag {keyword : String} (among : keyword ∈ falseKeywords) {given : Option Bool}
    {own again : Option Json} (read : own = given.map Json.bool)
    (written : again = if given.getD false then some (.bool true) else none) :
    Respelled f inside keyword own again := by
  have plain : isExtension keyword = false ∧ keyword ∉ annotations ∧ keyword ≠ "$ref" := by
    have all : ∀ keyword ∈ falseKeywords,
        isExtension keyword = false ∧ keyword ∉ annotations ∧ keyword ≠ "$ref" := by decide
    exact all keyword among
  obtain ⟨known, other, ne⟩ := plain
  rw [read, written]
  rcases given with _ | _ | _
  · exact .absent keyword
  · refine .dropped ?_
    have unset : falseKeywords.contains keyword = true := List.contains_iff_mem.2 among
    rw [isNormalMember, unset, Bool.not_true, Bool.and_false]
  · exact .same rfl (isNormalMember_eq known other nofun) ne

/-- A list of allowed values comes back with `null` at its end, once. -/
lemma respelled_enumeration {α : Type} {write : α → Json} {enumeration : Option (Enumeration α)}
    (listed : Listed keywords nullable write enumeration)
    (alike : (∀ a, (write a).isString = true) ∨ ∀ a, (write a).isNumber = true) :
    Respelled f inside "enum" (Table.get? keywords "enum")
      (enumeration.map (Enumeration.fragment write)) := by
  cases enumeration with
  | none =>
      rw [show Table.get? keywords "enum" = none from listed]
      exact .absent _
  | some listed' =>
      obtain ⟨values, found, -, -, read, null⟩ := listed
      rw [found, Option.map_some, Enumeration.fragment, ← read, ← null]
      refine .enumeration ?_
      rw [read, List.all_map, List.all_map]
      exact alike.imp (fun each => List.all_eq_true.2 fun a _ => each a)
        fun each => List.all_eq_true.2 fun a _ => each a

/-- The keywords of an object come back as the rules that were read. -/
lemma ReadObject.respelled {rules : ObjectRules Schema} (read : ReadObject keywords rules)
    (subset : rules.children ⊆ inside) {keyword : String} (among : keyword ∈ objectKeywords) :
    Respelled f inside keyword (Table.get? keywords keyword)
      (Table.get? (ObjectRules.keywords (rules.map (Schema.rename f))) keyword) := by
  obtain ⟨properties, required, extras⟩ := ObjectRules.get?_keywords (rules.map (Schema.rename f))
  simp only [objectKeywords, List.mem_cons, List.not_mem_nil, or_false] at among
  rcases among with rfl | rfl | rfl
  · rw [properties, ObjectRules.map, Table.isEmpty_mapValues, Table.mapValues_mapValues]
    rcases read.properties with ⟨absent, empty⟩ | ⟨entries, found, all⟩
    · rw [absent, empty]
      exact .absent _
    · rw [found]
      exact .properties (fun s mem => subset (List.mem_append_left _ mem)) all
  · rw [required, ObjectRules.map]
    rcases read.required with ⟨absent, empty⟩ | ⟨names, found, -, eq⟩
    · rw [absent, empty]
      exact .absent _
    · rw [found, eq]
      exact .required names
  · rw [extras, get?_extras, if_pos rfl, ObjectRules.map]
    have further := read.extras
    cases given : rules.extras with
    | unspecified =>
        rw [given] at further
        rw [show Table.get? keywords "additionalProperties" = none from further]
        exact .absent _
    | allow =>
        rw [given] at further
        rw [show Table.get? keywords "additionalProperties" = some (.bool true) from further]
        exact .same rfl (by decide) (by decide)
    | forbid =>
        rw [given] at further
        rw [show Table.get? keywords "additionalProperties" = some (.bool false) from further]
        exact .same rfl (by decide) (by decide)
    | schema rule =>
        rw [given] at further
        obtain ⟨value, found, ok⟩ := further
        rw [found]
        refine .schema (by decide) (subset (List.mem_append_right _ ?_)) ok
        rw [given]
        exact List.mem_singleton_self rule

/-- The members of a composition come back one by one. -/
lemma ReadMembers.respelled {c : Composition} {members : List Schema}
    (read : ReadMembers keywords c.text members) (subset : members ⊆ inside) :
    Respelled f inside c.text (Table.get? keywords c.text)
      (some (.array (Schema.fragments (members.map (Schema.rename f))))) := by
  obtain ⟨items, found, -, all⟩ := read
  rw [found, Schema.fragments_eq, List.map_map]
  exact .members c subset all

/-- The keywords of a string come back as its rules. -/
lemma respelled_string {rules : StringRules} (read : parseString keywords nullable = .ok rules)
    {keyword : String} (among : keyword ∈ ["format", "minLength", "maxLength", "pattern", "enum"]) :
    Respelled f inside keyword (Table.get? keywords keyword)
      (Table.get? (rules.keywords ++ flag "nullable" nullable) keyword) := by
  have text : ∀ s, (Json.string s).isString = true ∨ (Json.string s).isNumber = true :=
    fun _ => .inl rfl
  have natural : ∀ n, (Json.ofNat n).isString = true ∨ (Json.ofNat n).isNumber = true :=
    fun _ => .inr rfl
  obtain ⟨checks, listed⟩ := parseString_eq_ok_iff.1 read
  obtain ⟨format', least', most', pattern'⟩ := parseStringChecks_eq_ok_iff.1 checks
  obtain ⟨format, least, most, pattern, enum⟩ := rules.get?_keywords nullable
  simp only [List.mem_cons, List.not_mem_nil, or_false] at among
  rcases among with rfl | rfl | rfl | rfl | rfl
  · exact respelled_scalar text (by decide) (by decide) (by decide) format' format
  · exact respelled_scalar natural (by decide) (by decide) (by decide) least' least
  · exact respelled_scalar natural (by decide) (by decide) (by decide) most' most
  · exact respelled_scalar text (by decide) (by decide) (by decide) pattern' pattern
  · rw [enum]
    exact respelled_enumeration listed (.inl fun _ => rfl)

/-- The keywords of a number come back as its rules. -/
lemma respelled_number {rules : NumberRules} {integer : Bool}
    (read : parseNumber keywords integer nullable = .ok rules) {keyword : String}
    (among : keyword ∈ ["format", "minimum", "maximum", "exclusiveMinimum", "exclusiveMaximum",
      "multipleOf", "enum"]) :
    Respelled f inside keyword (Table.get? keywords keyword)
      (Table.get? (rules.keywords ++ flag "nullable" nullable) keyword) := by
  have text : ∀ s, (Json.string s).isString = true ∨ (Json.string s).isNumber = true :=
    fun _ => .inl rfl
  have number : ∀ n, (Json.number n).isString = true ∨ (Json.number n).isNumber = true :=
    fun _ => .inr rfl
  obtain ⟨checks, listed, -⟩ := parseNumber_eq_ok_iff.1 read
  obtain ⟨-, format, least, most, above, below, divisor, enum⟩ := rules.get?_keywords nullable
  simp only [List.mem_cons, List.not_mem_nil, or_false] at among
  rcases among with rfl | rfl | rfl | rfl | rfl | rfl | rfl
  · exact respelled_scalar text (by decide) (by decide) (by decide) checks.format format
  · exact respelled_scalar number (by decide) (by decide) (by decide) checks.minimum least
  · exact respelled_scalar number (by decide) (by decide) (by decide) checks.maximum most
  · obtain ⟨given, found, eq⟩ := checks.exclusiveMinimum
    exact respelled_flag (by decide) found (by rw [above, eq])
  · obtain ⟨given, found, eq⟩ := checks.exclusiveMaximum
    exact respelled_flag (by decide) found (by rw [below, eq])
  · exact respelled_scalar number (by decide) (by decide) (by decide) checks.multipleOf divisor
  · rw [enum]
    exact respelled_enumeration listed (.inr fun _ => rfl)

/-- The keywords of an array come back as its items and bounds. -/
lemma respelled_array {items : Schema} {bounds : ItemBounds} (mem : items ∈ inside)
    (read : ReadTyped keywords nullable .array (.array items bounds)) {keyword : String}
    (among : keyword ∈ ["items", "minItems", "maxItems", "uniqueItems"]) :
    Respelled f inside keyword (Table.get? keywords keyword) (Table.get?
      (SchemaKind.keywords (.array (items.rename f) bounds) ++ flag "nullable" nullable) keyword) := by
  have natural : ∀ n, (Json.ofNat n).isString = true ∨ (Json.ofNat n).isNumber = true :=
    fun _ => .inr rfl
  obtain ⟨⟨value, found, ok⟩, least, most, single⟩ := read
  simp only [SchemaKind.keywords, ItemBounds.keywords, Table.get?_append, Table.get?_cons, get?_nil,
    get?_optional, get?_flag]
  simp only [List.mem_cons, List.not_mem_nil, or_false] at among
  rcases among with rfl | rfl | rfl | rfl
  · simp only [String.reduceEq, if_true, if_false, Option.some_or, found]
    exact .schema (by decide) mem ok
  · simp only [String.reduceEq, if_true, if_false, Option.none_or, Option.or_none]
    exact respelled_scalar natural (by decide) (by decide) (by decide) least rfl
  · simp only [String.reduceEq, if_true, if_false, Option.none_or, Option.or_none]
    exact respelled_scalar natural (by decide) (by decide) (by decide) most rfl
  · simp only [String.reduceEq, if_false, Option.none_or]
    rcases single with absent | unset
    · rw [absent]
      exact .absent _
    · rw [unset]
      exact .dropped (by decide)

/-- The keywords of a typed fragment come back as its kind. -/
lemma ReadTyped.respelled {type : TypeName} (read : ReadTyped keywords nullable type kind)
    {keyword : String} (among : keyword ∈ (Form.typed type).keywords) (ne : keyword ≠ "type")
    (ne' : keyword ≠ "nullable") :
    Respelled f kind.children keyword (Table.get? keywords keyword)
      (Table.get? ((kind.map (Schema.rename f) f.apply (Discriminator.rename f)).keywords ++
        flag "nullable" nullable) keyword) := by
  have known : ∀ names : List String, (Form.typed type).keywords = "nullable" :: "type" :: names →
      keyword ∈ names := by
    intro names eq
    rw [eq] at among
    exact List.mem_of_ne_of_mem ne (List.mem_of_ne_of_mem ne' among)
  cases type with
  | string =>
      cases kind with
      | string rules => exact respelled_string read (known _ rfl)
      | _ => exact read.elim
  | integer =>
      cases kind with
      | number rules => exact respelled_number read (known _ rfl)
      | _ => exact read.elim
  | number =>
      cases kind with
      | number rules => exact respelled_number read (known _ rfl)
      | _ => exact read.elim
  | boolean => cases known [] rfl
  | null => cases known [] rfl
  | array =>
      cases kind with
      | array items bounds =>
          exact respelled_array (List.mem_singleton_self items) read (known _ rfl)
      | _ => exact read.elim
  | object =>
      cases kind with
      | object rules =>
          have mem : keyword ∈ objectKeywords := known _ rfl
          have written : Table.get? (SchemaKind.keywords (.object (rules.map (Schema.rename f))) ++
              flag "nullable" nullable) keyword =
                Table.get? (ObjectRules.keywords (rules.map (Schema.rename f))) keyword := by
            rw [SchemaKind.keywords, Table.get?_append, Table.get?_cons, if_neg (Ne.symm ne), get?_flag,
              if_neg (Ne.symm ne'), Option.or_none]
          rw [SchemaKind.map, written]
          exact ReadObject.respelled read (List.Subset.refl _) mem
      | _ => exact read.elim

/-- The keywords of a union come back as its kind. -/
lemma respelled_union {keyword : UnionKeyword} {members : List Schema}
    {discriminator : Option Discriminator} {objectTyped : Bool} (subset : members ⊆ inside)
    (read : ReadComposition keywords (.union keyword)
      (.union keyword members discriminator objectTyped)) {name : String}
    (among : name ∈ [keyword.text, "discriminator"]) :
    Respelled f inside name (Table.get? keywords name) (Table.get? (SchemaKind.keywords
      (.union keyword (members.map (Schema.rename f)) (discriminator.map (Discriminator.rename f))
        objectTyped) ++ flag "nullable" nullable) name) := by
  obtain ⟨-, oneOf, anyOf, selects⟩ := SchemaKind.get?_union keyword (members.map (Schema.rename f))
    (discriminator.map (Discriminator.rename f)) objectTyped nullable
  obtain ⟨-, -, all, -, selection⟩ := read
  simp only [List.mem_cons, List.not_mem_nil, or_false] at among
  rcases among with rfl | rfl
  · have back := ReadMembers.respelled (c := .union keyword) (f := f) all subset
    cases keyword with
    | oneOf => exact (oneOf.trans (if_pos rfl)) ▸ back
    | anyOf => exact (anyOf.trans (if_pos rfl)) ▸ back
  · rw [selects]
    cases discriminator with
    | none =>
        rw [show Table.get? keywords "discriminator" = none from selection]
        exact .absent _
    | some d =>
        obtain ⟨value, found, ok⟩ := selection
        rw [found]
        exact .discriminator ok

/-- The keywords of an intersection come back as its kind. -/
lemma respelled_intersection {members : List Schema} {inline : Option (ObjectRules Schema)}
    {objectTyped : Bool}
    (subset : SchemaKind.children (.intersection members inline objectTyped) ⊆ inside)
    (read : ReadComposition keywords .intersection (.intersection members inline objectTyped))
    {name : String} (among : name ∈ "allOf" :: objectKeywords) :
    Respelled f inside name (Table.get? keywords name) (Table.get? (SchemaKind.keywords
      (.intersection (members.map (Schema.rename f)) (inline.map (ObjectRules.map (Schema.rename f)))
        objectTyped) ++ flag "nullable" nullable) name) := by
  obtain ⟨-, allOf, beside⟩ := SchemaKind.get?_intersection (members.map (Schema.rename f))
    (inline.map (ObjectRules.map (Schema.rename f))) objectTyped nullable
  obtain ⟨-, all, rules⟩ := read
  rcases List.mem_cons.1 among with rfl | among
  · rw [allOf]
    exact ReadMembers.respelled (c := .intersection) all fun s mem =>
      subset (List.mem_append_left _ mem)
  · rw [beside name among]
    cases inline with
    | none =>
        rw [show Table.get? keywords name = none from rules name among]
        exact .absent _
    | some own => exact rules.2.respelled (fun s mem => subset (List.mem_append_right _ mem)) among

/-- The keywords of a fragment come back as its kind. -/
lemma ReadForm.respelled {form : Form} (read : ReadForm keywords nullable form kind) {keyword : String}
    (among : keyword ∈ form.keywords) (ne : keyword ≠ "type") (ne' : keyword ≠ "nullable") :
    Respelled f kind.children keyword (Table.get? keywords keyword)
      (Table.get? ((kind.map (Schema.rename f) f.apply (Discriminator.rename f)).keywords ++
        flag "nullable" nullable) keyword) := by
  cases form with
  | reference =>
      cases kind with
      | reference name =>
          obtain rfl : keyword = "$ref" := List.mem_singleton.1 (List.mem_of_ne_of_mem ne' among)
          obtain ⟨value, found, denotes⟩ := read
          rw [found]
          exact .reference denotes
      | _ => exact read.elim
  | untyped => cases List.mem_of_ne_of_mem ne (List.mem_of_ne_of_mem ne' among)
  | typed type => exact ReadTyped.respelled read.2.2.2 among ne ne'
  | composition c =>
      obtain ⟨-, -, read⟩ := read
      cases c with
      | union keyword' =>
          cases kind with
          | union keyword'' members discriminator objectTyped =>
              obtain rfl := read.1
              exact respelled_union (List.Subset.refl _) read
                (List.mem_of_ne_of_mem ne (List.mem_of_ne_of_mem ne' among))
          | _ => exact read.elim
      | intersection =>
          cases kind with
          | intersection members inline objectTyped =>
              exact respelled_intersection (List.Subset.refl _) read
                (List.mem_of_ne_of_mem ne (List.mem_of_ne_of_mem ne' among))
          | _ => exact read.elim

end Keywords

/-- **How each keyword of a fragment comes back.** -/
theorem Schema.respelled {keywords : Keywords} {s : Schema}
    (ok : Schema.ofJson? (.object keywords) = .ok s) (f : Renaming) {keyword : String}
    (ne : keyword ≠ "type") :
    Respelled f s.children keyword (Table.get? keywords keyword)
      (Table.get? (s.rename f).keywords keyword) := by
  obtain ⟨_, form, nullable, ⟨⟩, given, eq, read, all⟩ := Schema.ofJson?_eq_ok_iff.1 ok
  have kept : (s.rename f).nullable = s.nullable := by
    obtain ⟨kind, nullable⟩ := s
    rw [rename_mk]
    rfl
  by_cases known : keyword ∈ form.keywords
  · by_cases ne' : keyword = "nullable"
    · subst ne'
      refine respelled_flag (by decide) given ?_
      rw [get?_nullable, kept, eq]
    · rw [Schema.keywords, kind_rename, kept]
      exact read.respelled known ne ne'
  · have unwritten : Table.get? (s.rename f).keywords keyword = none := by
      refine Table.get?_eq_none_iff.2 fun mem => known (read.names_subset ?_)
      have written := (s.rename f).keys_keywords_sublist.subset mem
      rwa [kind_rename, SchemaKind.names_map] at written
    rw [unwritten]
    cases found : Table.get? keywords keyword with
    | none => exact .absent _
    | some value =>
        exact .dropped (isNormalMember_eq_false ((all _ (Table.mem_of_get? found)).resolve_left known))

end SchemaCompiler
