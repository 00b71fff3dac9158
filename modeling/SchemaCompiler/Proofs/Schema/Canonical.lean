import SchemaCompiler.Proofs.Schema.NormalForm

/-!
A canonical form tells the normal form of its schema.

Every part of a normal form is found under a keyword of the fragment, and keywords are found in the
canonical form as well.

* `Alike`: two lists of members with the same normal forms under all keywords;
* `SchemaKind.form`: the kind of a schema, which is told by the keywords that are there;
* `Schema.normal_eq_of_fragment`: schemas whose fragments have one normal form have one normal form;
* `Schema.canonical_eq_iff`: two canonical forms are equal if and only if the normal forms are.
-/

namespace SchemaCompiler

/-! ### Keywords -/

/-- What is found under a keyword has the same normal form in both. -/
def Alike (ms ns : List (String × Json)) : Prop :=
  ∀ keyword, (Table.get? ms keyword).map (Json.normalAt keyword) =
    (Table.get? ns keyword).map (Json.normalAt keyword)

/-- The keywords of a schema. -/
def Schema.keywords (s : Schema) : List (String × Json) :=
  s.kind.keywords ++ flag "nullable" s.nullable

lemma Schema.fragment_eq (s : Schema) : s.fragment = .object s.keywords := by
  cases s
  rw [fragment]
  rfl

lemma get?_nil {α : Type} (name : String) : Table.get? ([] : Table α) name = none := rfl

lemma get?_optional {α : Type} (keyword : String) (value : Option α) (write : α → Json)
    (name : String) :
    Table.get? (optional keyword value write) name =
      if keyword = name then value.map write else none := by
  cases value <;> simp [optional, Table.get?]

lemma get?_flag (keyword : String) (value : Bool) (name : String) :
    Table.get? (flag keyword value) name =
      if keyword = name then (if value then some (.bool true) else none) else none := by
  cases value <;> simp [flag, Table.get?]

lemma get?_objectType (objectTyped : Bool) (name : String) :
    Table.get? (objectType objectTyped) name =
      if "type" = name then (if objectTyped then some (.string "object") else none) else none := by
  cases objectTyped <;> simp [objectType, Table.get?]

lemma get?_requiredKeyword (names : List String) (name : String) :
    Table.get? (requiredKeyword names) name =
      if "required" = name then (if names.isEmpty then none else some (.array (names.map .string)))
      else none := by
  cases names <;> simp [requiredKeyword, Table.get?]

lemma get?_extras (extras : Extras Schema) (name : String) :
    Table.get? (Extras.keywords extras) name =
      if "additionalProperties" = name then
        match extras with
        | .unspecified => none
        | .allow => some (.bool true)
        | .forbid => some (.bool false)
        | .schema rule => some rule.fragment
      else none := by
  cases extras <;> simp [Extras.keywords, Table.get?]

lemma get?_properties (properties : Table Schema) (name : String) :
    Table.get? (if properties.isEmpty then []
        else [("properties", Json.object (Table.mapValues Schema.fragment properties))]) name =
      if "properties" = name then
        if properties.isEmpty then none
        else some (.object (Table.mapValues Schema.fragment properties))
      else none := by
  split
  · simp [Table.get?]
  · simp [Table.get?]

/-! ### Values of keywords -/

lemma eq_of_strings {keyword : String} {a b : Option String}
    (h : (a.map Json.string).map (Json.normalAt keyword) =
      (b.map Json.string).map (Json.normalAt keyword)) : a = b := by
  cases a <;> cases b <;> simp_all

lemma plain_eq_of_numbers {keyword : String} {a b : Option Json.Number}
    (h : (a.map Json.number).map (Json.normalAt keyword) =
      (b.map Json.number).map (Json.normalAt keyword)) :
    a.map Json.Number.plain = b.map Json.Number.plain := by
  cases a <;> cases b <;> simp_all

lemma eq_of_flags {keyword : String} {a b : Bool}
    (h : (if a then some (Json.bool true) else none).map (Json.normalAt keyword) =
      (if b then some (Json.bool true) else none).map (Json.normalAt keyword)) : a = b := by
  cases a <;> cases b <;> simp_all

/-- Naturals in range are told apart by their doubles. -/
lemma eq_of_naturals {keyword : String} {a b : Option ℕ}
    (ha : ∀ n, a = some n → (Json.ofNat n).Safe) (hb : ∀ n, b = some n → (Json.ofNat n).Safe)
    (h : (a.map Json.ofNat).map (Json.normalAt keyword) =
      (b.map Json.ofNat).map (Json.normalAt keyword)) : a = b := by
  have exact : ∀ n, (Json.ofNat n).Safe → (Double.ofInt n).value = n * Double.one := by
    intro n safe
    have le := Json.safe_number_iff.1 safe n rfl
    refine Double.value_ofInt (lt_of_le_of_lt le ?_)
    decide
  cases a with
  | none =>
      cases b with
      | none => rfl
      | some n => simp at h
  | some m =>
      cases b with
      | none => simp at h
      | some n =>
          simp only [Option.map_some, Json.ofNat, Json.normalAt_number, Option.some.injEq,
            Json.number.injEq, Json.Number.plain_eq_iff, Json.Number.toDouble,
            exact m (ha m rfl), exact n (hb n rfl)] at h
          have := Int.eq_of_mul_eq_mul_right (by exact_mod_cast Double.one_pos.ne') h
          rw [Int.ofNat_inj.1 this]

lemma Alike.of_normal {ms ns : List (String × Json)}
    (eq : Json.normal (.object ms) = Json.normal (.object ns)) : Alike ms ns :=
  Json.get?_normal eq

lemma Json.Safe.get? {ms : List (String × Json)} (safe : Json.Safe (.object ms)) {keyword : String}
    {v : Json} (found : Table.get? ms keyword = some v) : v.Safe :=
  Json.safe_object_iff.1 safe _ (Table.mem_of_get? found)

/-- The number that a value is. -/
def readNumber : Json → Option Json.Number
  | .number n => some n
  | _ => none

/-- A list that may be followed by `null` tells its items and whether it is. -/
lemma append_null_inj {α : Type} {write : α → Json} (read : Json → Option α)
    (inverse : ∀ a, read (write a) = some a) (null : read .null = none) {as bs : List α} {m n : Bool}
    (eq : (as.map write ++ if m then [.null] else []) = bs.map write ++ if n then [.null] else []) :
    as = bs ∧ m = n := by
  have nulls : ∀ b : Bool, (if b then [Json.null] else []).filterMap read = [] := by
    intro b
    cases b <;> simp [null]
  have found : ∀ cs : List α, (cs.map write).filterMap read = cs := by
    intro cs
    rw [List.filterMap_map, ← List.filterMap_some (l := cs)]
    simp [inverse]
  have items := congrArg (List.filterMap read) eq
  rw [List.filterMap_append, List.filterMap_append, found, found, nulls, nulls, List.append_nil,
    List.append_nil] at items
  subst items
  have ends := List.append_cancel_left eq
  cases m <;> cases n <;> simp_all

/-- Lists of allowed values with one normal form are equal once they are sorted. -/
lemma sorted_eq_of_enums {α : Type} {write : α → Json} (read : Json → Option α)
    {sorted : List α → List α} (inverse : ∀ a, read (write a) = some a) (null : read .null = none)
    (normal : ∀ (values : List α) (listsNull : Bool),
      Json.normalAt "enum" (.array (values.map write ++ if listsNull then [.null] else [])) =
        .array ((sorted values).map write ++ if listsNull then [.null] else []))
    {a b : Option (Enumeration α)}
    (h : (a.map (Enumeration.fragment write)).map (Json.normalAt "enum") =
      (b.map (Enumeration.fragment write)).map (Json.normalAt "enum")) :
    (a.map fun listed => { listed with values := sorted listed.values }) =
      b.map fun listed => { listed with values := sorted listed.values } := by
  cases a with
  | none =>
      cases b with
      | none => rfl
      | some listed => simp at h
  | some first =>
      cases b with
      | none => simp at h
      | some second =>
          simp only [Option.map_some, Enumeration.fragment, normal, Option.some.injEq,
            Json.array.injEq] at h
          obtain ⟨values, nulls⟩ := append_null_inj read inverse null h
          simp only [Option.map_some, values, nulls]

/-! ### Scalars -/

lemma StringRules.get?_keywords (rules : StringRules) (nullable : Bool) :
    let find := Table.get? (rules.keywords ++ flag "nullable" nullable)
    find "format" = rules.checks.format.map .string ∧
      find "minLength" = rules.checks.minLength.map .ofNat ∧
      find "maxLength" = rules.checks.maxLength.map .ofNat ∧
      find "pattern" = rules.checks.pattern.map .string ∧
      find "enum" = rules.enumeration.map (Enumeration.fragment .string) := by
  simp only [keywords, Table.get?_append, get?_optional, get?_flag, Table.get?_cons, get?_nil,
    String.reduceEq, if_true, if_false, Option.none_or, Option.or_none, and_self]

lemma StringRules.normal_eq_of_alike {a b : StringRules} {m n : Bool}
    (safeA : Json.Safe (.object (a.keywords ++ flag "nullable" m)))
    (safeB : Json.Safe (.object (b.keywords ++ flag "nullable" n)))
    (alike : Alike (a.keywords ++ flag "nullable" m) (b.keywords ++ flag "nullable" n)) :
    a.normal = b.normal := by
  obtain ⟨formatA, leastA, mostA, patternA, enumA⟩ := a.get?_keywords m
  obtain ⟨formatB, leastB, mostB, patternB, enumB⟩ := b.get?_keywords n
  have format := alike "format"
  have least := alike "minLength"
  have most := alike "maxLength"
  have pattern := alike "pattern"
  have enum := alike "enum"
  rw [formatA, formatB] at format
  rw [leastA, leastB] at least
  rw [mostA, mostB] at most
  rw [patternA, patternB] at pattern
  rw [enumA, enumB] at enum
  obtain ⟨⟨_, _, _, _⟩, _⟩ := a
  obtain ⟨⟨_, _, _, _⟩, _⟩ := b
  simp only [normal, StringRules.mk.injEq, StringChecks.mk.injEq]
  refine ⟨⟨eq_of_strings format, eq_of_naturals ?_ ?_ least, eq_of_naturals ?_ ?_ most,
    eq_of_strings pattern⟩, ?_⟩
  · exact fun k eq => safeA.get? (leastA.trans (by rw [eq]; rfl))
  · exact fun k eq => safeB.get? (leastB.trans (by rw [eq]; rfl))
  · exact fun k eq => safeA.get? (mostA.trans (by rw [eq]; rfl))
  · exact fun k eq => safeB.get? (mostB.trans (by rw [eq]; rfl))
  · exact sorted_eq_of_enums Json.string? (fun _ => rfl) rfl (normalAt_strings "enum" rfl) enum

lemma NumberRules.get?_keywords (rules : NumberRules) (nullable : Bool) :
    let find := Table.get? (rules.keywords ++ flag "nullable" nullable)
    find "type" = some (.string (if rules.checks.integer then "integer" else "number")) ∧
      find "format" = rules.checks.format.map .string ∧
      find "minimum" = rules.checks.minimum.map .number ∧
      find "maximum" = rules.checks.maximum.map .number ∧
      find "exclusiveMinimum" = (if rules.checks.exclusiveMinimum then some (.bool true) else none) ∧
      find "exclusiveMaximum" = (if rules.checks.exclusiveMaximum then some (.bool true) else none) ∧
      find "multipleOf" = rules.checks.multipleOf.map .number ∧
      find "enum" = rules.enumeration.map (Enumeration.fragment .number) := by
  simp only [keywords, Table.get?_append, get?_optional, get?_flag, Table.get?_cons, get?_nil,
    String.reduceEq, if_true, if_false, Option.none_or, Option.or_none, and_self]

lemma NumberRules.normal_eq_of_alike {a b : NumberRules} {m n : Bool}
    (alike : Alike (a.keywords ++ flag "nullable" m) (b.keywords ++ flag "nullable" n)) :
    a.normal = b.normal := by
  obtain ⟨typeA, formatA, leastA, mostA, aboveA, belowA, divisorA, enumA⟩ := a.get?_keywords m
  obtain ⟨typeB, formatB, leastB, mostB, aboveB, belowB, divisorB, enumB⟩ := b.get?_keywords n
  have type := alike "type"
  have format := alike "format"
  have least := alike "minimum"
  have most := alike "maximum"
  have above := alike "exclusiveMinimum"
  have below := alike "exclusiveMaximum"
  have divisor := alike "multipleOf"
  have enum := alike "enum"
  rw [typeA, typeB] at type
  rw [formatA, formatB] at format
  rw [leastA, leastB] at least
  rw [mostA, mostB] at most
  rw [aboveA, aboveB] at above
  rw [belowA, belowB] at below
  rw [divisorA, divisorB] at divisor
  rw [enumA, enumB] at enum
  have integer : a.checks.integer = b.checks.integer := by
    simp only [Option.map_some, Json.normalAt_string, Option.some.injEq, Json.string.injEq] at type
    cases ha : a.checks.integer <;> cases hb : b.checks.integer <;> simp [ha, hb] at type ⊢
  have listed := sorted_eq_of_enums readNumber (fun _ => rfl) rfl normalAt_numbers enum
  simp only [normal, NumberChecks.normal, integer, eq_of_strings format, plain_eq_of_numbers least,
    plain_eq_of_numbers most, eq_of_flags above, eq_of_flags below, plain_eq_of_numbers divisor, listed]

lemma ItemBounds.eq_of_alike {items items' : Json} {a b : ItemBounds} {m n : Bool}
    {ms ns : List (String × Json)}
    (hm : ms = [("type", .string "array"), ("items", items)] ++ a.keywords ++ flag "nullable" m)
    (hn : ns = [("type", .string "array"), ("items", items')] ++ b.keywords ++ flag "nullable" n)
    (safeA : Json.Safe (.object ms)) (safeB : Json.Safe (.object ns)) (alike : Alike ms ns) :
    a = b := by
  have found : ∀ (inside : Json) (bounds : ItemBounds) (nullable : Bool),
      let find := Table.get?
        ([("type", .string "array"), ("items", inside)] ++ bounds.keywords ++ flag "nullable" nullable)
      find "minItems" = bounds.minItems.map .ofNat ∧ find "maxItems" = bounds.maxItems.map .ofNat := by
    intro inside bounds nullable
    simp only [keywords, Table.get?_append, get?_optional, get?_flag, Table.get?_cons, get?_nil,
      String.reduceEq, if_true, if_false, Option.none_or, Option.or_none, and_self]
  obtain ⟨leastA, mostA⟩ := found items a m
  obtain ⟨leastB, mostB⟩ := found items' b n
  rw [← hm] at leastA mostA
  rw [← hn] at leastB mostB
  have least := alike "minItems"
  have most := alike "maxItems"
  rw [leastA, leastB] at least
  rw [mostA, mostB] at most
  obtain ⟨_, _⟩ := a
  obtain ⟨_, _⟩ := b
  rw [ItemBounds.mk.injEq]
  refine ⟨eq_of_naturals ?_ ?_ least, eq_of_naturals ?_ ?_ most⟩
  · exact fun k eq => safeA.get? (leastA.trans (by rw [eq]; rfl))
  · exact fun k eq => safeB.get? (leastB.trans (by rw [eq]; rfl))
  · exact fun k eq => safeA.get? (mostA.trans (by rw [eq]; rfl))
  · exact fun k eq => safeB.get? (mostB.trans (by rw [eq]; rfl))

/-! ### Integers in range -/

/-- The integers that the rules of a kind have of their own are in range. -/
def SchemaKind.SafeBounds : SchemaKind → Prop
  | .string rules => Json.Safe (.object rules.keywords)
  | .number rules => Json.Safe (.object rules.keywords)
  | .array _ bounds => Json.Safe (.object bounds.keywords)
  | _ => True

lemma safe_append_iff {ms ns : List (String × Json)} :
    Json.Safe (.object (ms ++ ns)) ↔ Json.Safe (.object ms) ∧ Json.Safe (.object ns) := by
  simp only [Json.safe_object_iff, List.forall_mem_append]

lemma safe_cons_iff {keyword : String} {v : Json} {rest : List (String × Json)} :
    Json.Safe (.object ((keyword, v) :: rest)) ↔ v.Safe ∧ Json.Safe (.object rest) := by
  simp only [Json.safe_object_iff, List.forall_mem_cons]

@[simp]
lemma safe_nil : Json.Safe (.object []) := rfl

@[simp]
lemma safe_flag (keyword : String) (value : Bool) : Json.Safe (.object (flag keyword value)) := by
  cases value <;> rfl

@[simp]
lemma safe_objectType (objectTyped : Bool) : Json.Safe (.object (objectType objectTyped)) := by
  cases objectTyped <;> rfl

lemma safe_strings (strings : List String) : Json.Safe (.array (strings.map .string)) := by
  simp

lemma safe_fragments_iff {members : List Schema} :
    Json.Safe (.array (Schema.fragments members)) ↔ ∀ s ∈ members, s.fragment.Safe := by
  rw [Json.safe_array_iff, Schema.fragments_eq, List.forall_mem_map]

lemma safe_discriminator (discriminator : Option Discriminator) :
    Json.Safe (.object (optional "discriminator" discriminator Discriminator.fragment)) := by
  cases discriminator with
  | none => rfl
  | some d =>
      have mapping : Json.Safe (.object (Table.mapValues .string d.mapping)) := by
        rw [Json.safe_object_iff, Table.mapValues, List.forall_mem_map]
        exact fun entry _ => Json.safe_string entry.2
      simp only [optional, safe_cons_iff, safe_nil, and_true, Discriminator.fragment, safe_append_iff,
        Json.safe_string, true_and]
      split
      · exact safe_nil
      · exact safe_cons_iff.2 ⟨mapping, safe_nil⟩

lemma ObjectRules.safe_keywords_iff {rules : ObjectRules Schema} :
    Json.Safe (.object (keywords rules)) ↔ ∀ child ∈ rules.children, child.fragment.Safe := by
  have required : Json.Safe (.object (requiredKeyword rules.required)) := by
    rw [requiredKeyword]
    split
    · exact safe_nil
    · exact safe_cons_iff.2 ⟨safe_strings _, safe_nil⟩
  have extras : Json.Safe (.object (Extras.keywords rules.extras)) ↔
      ∀ child ∈ rules.extras.toList, child.fragment.Safe := by
    cases rules.extras <;> simp [Extras.keywords, Extras.toList, safe_cons_iff]
  have properties : Json.Safe (.object (if rules.properties.isEmpty then []
      else [("properties", Json.object (Table.mapValues Schema.fragment rules.properties))])) ↔
        ∀ child ∈ rules.properties.map Prod.snd, child.fragment.Safe := by
    split
    · next empty => simp [List.isEmpty_iff.1 empty]
    · rw [safe_cons_iff, Json.safe_object_iff, Table.mapValues, List.forall_mem_map, List.forall_mem_map]
      exact and_iff_left safe_nil
  rw [keywords_eq, safe_append_iff, safe_append_iff, properties, extras, children,
    List.forall_mem_append]
  exact ⟨fun h => ⟨h.1.1, h.2⟩, fun h => ⟨⟨h.1, required⟩, h.2⟩⟩

/-- A schema is in range if its own bounds and the schemas inside it are. -/
lemma Schema.safe_fragment_iff (s : Schema) :
    s.fragment.Safe ↔ s.kind.SafeBounds ∧ ∀ child ∈ s.children, child.fragment.Safe := by
  obtain ⟨kind, nullable⟩ := s
  rw [fragment, safe_append_iff]
  simp only [safe_flag, and_true, children, Schema.kind]
  cases kind with
  | string rules => simp [SchemaKind.SafeBounds, SchemaKind.keywords, SchemaKind.children]
  | number rules => simp [SchemaKind.SafeBounds, SchemaKind.keywords, SchemaKind.children]
  | array items bounds =>
      rw [SchemaKind.keywords, safe_append_iff, safe_cons_iff, safe_cons_iff]
      simp [SchemaKind.SafeBounds, SchemaKind.children, and_comm]
  | object rules =>
      rw [SchemaKind.keywords, safe_cons_iff, ObjectRules.safe_keywords_iff]
      simp [SchemaKind.SafeBounds, SchemaKind.children]
  | union keyword members discriminator objectTyped =>
      rw [SchemaKind.keywords, safe_append_iff, safe_append_iff, safe_cons_iff, safe_fragments_iff]
      simp [SchemaKind.SafeBounds, SchemaKind.children, safe_discriminator]
  | intersection members inline objectTyped =>
      have rules : Json.Safe (.object (ObjectRules.inlineKeywords inline)) ↔
          ∀ child ∈ (inline.map ObjectRules.children).getD [], child.fragment.Safe := by
        cases inline with
        | none => simp [ObjectRules.inlineKeywords]
        | some rules => exact ObjectRules.safe_keywords_iff
      rw [SchemaKind.keywords, safe_append_iff, safe_append_iff, safe_cons_iff, safe_fragments_iff,
        rules]
      simp only [safe_objectType, safe_nil, and_true, true_and, SchemaKind.SafeBounds,
        SchemaKind.children, List.forall_mem_append]
  | _ => simp [SchemaKind.SafeBounds, SchemaKind.keywords, SchemaKind.children, safe_cons_iff]

/-! ### Trees -/

lemma Discriminator.get?_fragment (d : Discriminator) :
    let find := Table.get? ([("propertyName", Json.string d.property)] ++
      if d.mapping.isEmpty then []
      else [("mapping", Json.object (Table.mapValues .string d.mapping))])
    find "propertyName" = some (.string d.property) ∧
      find "mapping" = if d.mapping.isEmpty then none
        else some (.object (Table.mapValues .string d.mapping)) := by
  simp only [Table.get?_append, Table.get?_cons, get?_nil, String.reduceEq, if_true, if_false,
    Option.none_or, Option.some_or, true_and]
  split <;> simp [Table.get?]

lemma Discriminator.normal_eq_of_fragment {a b : Discriminator}
    (eq : a.fragment.normal = b.fragment.normal) : a.normal = b.normal := by
  have alike := Alike.of_normal eq
  have property := alike "propertyName"
  have mapping := alike "mapping"
  rw [a.get?_fragment.1, b.get?_fragment.1, Option.map_some, Option.map_some, Option.some.injEq,
    Json.normalAt_string, Json.normalAt_string, Json.string.injEq] at property
  rw [a.get?_fragment.2, b.get?_fragment.2] at mapping
  have sorted : Table.sort a.mapping = Table.sort b.mapping := by
    by_cases emptyA : a.mapping.isEmpty <;> by_cases emptyB : b.mapping.isEmpty
    · rw [List.isEmpty_iff.1 emptyA, List.isEmpty_iff.1 emptyB]
    · simp [emptyA, emptyB] at mapping
    · simp [emptyA, emptyB] at mapping
    · rw [if_neg emptyA, if_neg emptyB, Option.map_some, Option.map_some, Option.some.injEq,
        Json.normalAt_object, Json.normalAt_object, normal_strings, normal_strings,
        Json.object.injEq] at mapping
      rw [← Table.mapValues_id (Table.sort a.mapping), ← Table.mapValues_id (Table.sort b.mapping)]
      exact Table.mapValues_eq_of mapping fun _ _ _ _ same => Json.string.inj same
  rw [normal, normal, property, sorted]

/-- Fragments of schemas tell their normal forms. -/
def Told (s t : Schema) : Prop := s.fragment.normal = t.fragment.normal → s.normal = t.normal

lemma ObjectRules.get?_keywords (rules : ObjectRules Schema) :
    let find := Table.get? (keywords rules)
    find "properties" = (if rules.properties.isEmpty then none
        else some (.object (Table.mapValues Schema.fragment rules.properties))) ∧
      find "required" = (if rules.required.isEmpty then none
        else some (.array (rules.required.map .string))) ∧
      find "additionalProperties" = Table.get? (Extras.keywords rules.extras) "additionalProperties" := by
  simp only [keywords_eq, Table.get?_append, get?_properties, get?_requiredKeyword, get?_extras,
    String.reduceEq, if_true, if_false, Option.none_or, Option.or_none, and_self]

lemma sortedProperties_eq {s t : Table Schema}
    (eq : (if s.isEmpty then none else some (.object (Table.mapValues Schema.fragment s))).map
        (Json.normalAt "properties") =
      (if t.isEmpty then none else some (.object (Table.mapValues Schema.fragment t))).map
        (Json.normalAt "properties"))
    (told : ∀ a ∈ s, ∀ b ∈ t, Told a.2 b.2) :
    Table.sort (Table.mapValues Schema.normal s) = Table.sort (Table.mapValues Schema.normal t) := by
  by_cases emptyS : s.isEmpty <;> by_cases emptyT : t.isEmpty
  · rw [List.isEmpty_iff.1 emptyS, List.isEmpty_iff.1 emptyT]
  · simp [emptyS, emptyT] at eq
  · simp [emptyS, emptyT] at eq
  · rw [if_neg emptyS, if_neg emptyT, Option.map_some, Option.map_some, Option.some.injEq,
      Json.normalAt_object, Json.normalAt_object, normal_fragments, normal_fragments,
      Json.object.injEq] at eq
    rw [← Table.mapValues_sort, ← Table.mapValues_sort]
    exact Table.mapValues_eq_of eq fun a ha b hb =>
      told a (Table.mem_sort.1 ha) b (Table.mem_sort.1 hb)

lemma sortedRequired_eq {a b : List String}
    (eq : (if a.isEmpty then none else some (.array (a.map .string))).map (Json.normalAt "required") =
      (if b.isEmpty then none else some (.array (b.map .string))).map (Json.normalAt "required")) :
    sortStrings a = sortStrings b := by
  have normal : ∀ names : List String, Json.normalAt "required" (.array (names.map .string)) =
      .array ((sortStrings names).map .string) := by
    intro names
    simpa using normalAt_strings "required" rfl names false
  by_cases emptyA : a.isEmpty <;> by_cases emptyB : b.isEmpty
  · rw [List.isEmpty_iff.1 emptyA, List.isEmpty_iff.1 emptyB]
  · simp [emptyA, emptyB] at eq
  · simp [emptyA, emptyB] at eq
  · rw [if_neg emptyA, if_neg emptyB, Option.map_some, Option.map_some, Option.some.injEq, normal,
      normal, Json.array.injEq] at eq
    exact List.map_injective_iff.2 (fun _ _ => Json.string.inj) eq

lemma Schema.normal_fragment_ne_bool (s : Schema) (b : Bool) : s.fragment.normal ≠ .bool b := by
  rw [fragment_eq, Json.normal_object]
  exact nofun

lemma Extras.normal_eq_of_alike {a b : Extras Schema}
    (eq : (Table.get? (keywords a) "additionalProperties").map (Json.normalAt "additionalProperties") =
      (Table.get? (keywords b) "additionalProperties").map (Json.normalAt "additionalProperties"))
    (told : ∀ s ∈ a.toList, ∀ t ∈ b.toList, Told s t) : normal a = normal b := by
  rw [get?_extras, get?_extras, if_pos rfl, if_pos rfl] at eq
  cases a with
  | schema s =>
      cases b with
      | schema t =>
          rw [normal, normal, told s (by simp [toList]) t (by simp [toList])]
          simpa using eq
      | unspecified => simp at eq
      | allow => simp [Schema.normal_fragment_ne_bool] at eq
      | forbid => simp [Schema.normal_fragment_ne_bool] at eq
  | unspecified => cases b <;> simp at eq ⊢
  | allow => cases b <;> simp [(Schema.normal_fragment_ne_bool _ _).symm] at eq ⊢
  | forbid => cases b <;> simp [(Schema.normal_fragment_ne_bool _ _).symm] at eq ⊢

/-- The rules of an object are found among any members that have their keywords. -/
lemma ObjectRules.normal_eq_of_alike {a b : ObjectRules Schema} {ms ns : List (String × Json)}
    (inA : ∀ keyword ∈ ["properties", "required", "additionalProperties"],
      Table.get? ms keyword = Table.get? (keywords a) keyword)
    (inB : ∀ keyword ∈ ["properties", "required", "additionalProperties"],
      Table.get? ns keyword = Table.get? (keywords b) keyword)
    (alike : Alike ms ns) (told : ∀ s ∈ a.children, ∀ t ∈ b.children, Told s t) :
    normal a = normal b := by
  have properties := alike "properties"
  have required := alike "required"
  have extras := alike "additionalProperties"
  rw [inA _ (by simp), inB _ (by simp), a.get?_keywords.1, b.get?_keywords.1] at properties
  rw [inA _ (by simp), inB _ (by simp), a.get?_keywords.2.1, b.get?_keywords.2.1] at required
  rw [inA _ (by simp), inB _ (by simp), a.get?_keywords.2.2, b.get?_keywords.2.2] at extras
  have inProperties : ∀ s ∈ a.properties, ∀ t ∈ b.properties, Told s.2 t.2 := fun s hs t ht =>
    told s.2 (List.mem_append_left _ (List.mem_map_of_mem hs)) t.2
      (List.mem_append_left _ (List.mem_map_of_mem ht))
  have inExtras : ∀ s ∈ a.extras.toList, ∀ t ∈ b.extras.toList, Told s t := fun s hs t ht =>
    told s (List.mem_append_right _ hs) t (List.mem_append_right _ ht)
  rw [normal_eq, normal_eq, sortedProperties_eq properties inProperties, sortedRequired_eq required,
    Extras.normal_eq_of_alike extras inExtras]

/-! ### Kinds -/

/-- The constructor of a kind. -/
def SchemaKind.form : SchemaKind → String
  | .string _ => "string"
  | .number _ => "number"
  | .boolean => "boolean"
  | .null => "null"
  | .any => "any"
  | .array _ _ => "array"
  | .object _ => "object"
  | .union _ _ _ _ => "union"
  | .intersection _ _ _ => "intersection"
  | .reference _ => "reference"

/-- The form that keywords tell: that of a reference or of a composition, or else that of the type. -/
def formOf (find : String → Option Json) : String :=
  if (find "$ref").isSome then "reference"
  else if (find "oneOf").isSome || (find "anyOf").isSome then "union"
  else if (find "allOf").isSome then "intersection"
  else
    match (find "type").bind Json.string? with
    | some "integer" => "number"
    | some name => name
    | none => "any"

/-- Object rules have no other keywords. -/
lemma ObjectRules.get?_keywords_of_notMem {rules : ObjectRules Schema} {name : String}
    (other : name ∉ ["properties", "required", "additionalProperties"]) :
    Table.get? (keywords rules) name = none := by
  simp only [List.mem_cons, List.not_mem_nil, or_false, not_or] at other
  simp only [keywords_eq, Table.get?_append, get?_properties, get?_requiredKeyword, get?_extras,
    Ne.symm other.1, Ne.symm other.2.1, Ne.symm other.2.2, if_false, Option.none_or]

lemma ObjectRules.get?_inlineKeywords_of_notMem {inline : Option (ObjectRules Schema)} {name : String}
    (other : name ∉ ["properties", "required", "additionalProperties"]) :
    Table.get? (inlineKeywords inline) name = none := by
  cases inline with
  | none => rfl
  | some rules => exact get?_keywords_of_notMem other

lemma Schema.formOf_keywords (s : Schema) : formOf (Table.get? s.keywords) = s.kind.form := by
  obtain ⟨kind, nullable⟩ := s
  have inObject := @ObjectRules.get?_keywords_of_notMem
  have inInline := @ObjectRules.get?_inlineKeywords_of_notMem
  simp only [keywords, Schema.kind, Schema.nullable]
  cases kind with
  | string rules =>
      simp [formOf, SchemaKind.keywords, StringRules.keywords, SchemaKind.form, Table.get?_append,
        get?_optional, get?_flag, Table.get?_cons, Json.string?]
  | number rules =>
      cases integer : rules.checks.integer <;>
        simp [formOf, SchemaKind.keywords, NumberRules.keywords, SchemaKind.form, Table.get?_append,
          get?_optional, get?_flag, Table.get?_cons, integer, Json.string?]
  | array items bounds =>
      simp [formOf, SchemaKind.keywords, ItemBounds.keywords, SchemaKind.form, Table.get?_append,
        get?_optional, get?_flag, Table.get?_cons, Json.string?]
  | object rules =>
      simp [formOf, SchemaKind.keywords, SchemaKind.form, Table.get?_append, get?_flag,
        Table.get?_cons, inObject, Json.string?]
  | union keyword members discriminator objectTyped =>
      cases keyword <;>
        simp [formOf, SchemaKind.keywords, SchemaKind.form, Table.get?_append, get?_optional, get?_flag,
          get?_objectType, Table.get?_cons, UnionKeyword.text]
  | intersection members inline objectTyped =>
      simp [formOf, SchemaKind.keywords, SchemaKind.form, Table.get?_append, get?_flag,
        get?_objectType, Table.get?_cons, inInline]
  | any => simp [formOf, SchemaKind.keywords, SchemaKind.form, get?_flag]
  | _ => simp [formOf, SchemaKind.keywords, SchemaKind.form, Table.get?_cons, get?_flag, Json.string?]

lemma Json.string?_normalAt (keyword : String) (v : Json) :
    (Json.normalAt keyword v).string? = v.string? := by
  cases v with
  | array items =>
      rw [normalAt, arrange, arrangeKeyword]
      split <;> rw [sortMembers, plain] <;> rfl
  | object members => rw [normalAt_object, normal_object]; rfl
  | _ => rfl

/-- Keywords that are alike tell one form. -/
lemma formOf_eq_of_alike {ms ns : List (String × Json)} (alike : Alike ms ns) :
    formOf (Table.get? ms) = formOf (Table.get? ns) := by
  have there : ∀ name, (Table.get? ms name).isSome = (Table.get? ns name).isSome := by
    intro name
    have same := congrArg Option.isSome (alike name)
    simpa only [Option.isSome_map] using same
  have type : (Table.get? ms "type").bind Json.string? = (Table.get? ns "type").bind Json.string? := by
    have same := congrArg (fun v => Option.bind v Json.string?) (alike "type")
    simpa only [Option.bind_map, Function.comp_def, Json.string?_normalAt] using same
  rw [formOf, formOf, there, there, there, there, type]

lemma Schema.get?_nullable (s : Schema) :
    Table.get? s.keywords "nullable" = if s.nullable then some (.bool true) else none := by
  obtain ⟨kind, nullable⟩ := s
  have inObject := fun rules => @ObjectRules.get?_keywords_of_notMem rules "nullable" (by simp)
  have inInline := fun rules => @ObjectRules.get?_inlineKeywords_of_notMem rules "nullable" (by simp)
  have kinds : Table.get? kind.keywords "nullable" = none := by
    cases kind with
    | string rules =>
        simp [SchemaKind.keywords, StringRules.keywords, Table.get?_append, get?_optional,
          Table.get?_cons]
    | number rules =>
        simp [SchemaKind.keywords, NumberRules.keywords, Table.get?_append, get?_optional, get?_flag,
          Table.get?_cons]
    | array items bounds =>
        simp [SchemaKind.keywords, ItemBounds.keywords, Table.get?_append, get?_optional,
          Table.get?_cons]
    | object rules => simp [SchemaKind.keywords, Table.get?_cons, inObject]
    | union keyword members discriminator objectTyped =>
        cases keyword <;>
          simp [SchemaKind.keywords, Table.get?_append, get?_optional, get?_objectType,
            Table.get?_cons, UnionKeyword.text]
    | intersection members rules objectTyped =>
        simp [SchemaKind.keywords, Table.get?_append, get?_objectType, Table.get?_cons, inInline]
    | _ => simp [SchemaKind.keywords, Table.get?_cons, get?_nil]
  rw [keywords, Table.get?_append, Schema.kind, kinds, Option.none_or, get?_flag, if_pos rfl]

/-! ### The normal form of a canonical form -/

lemma normalAll_eq_of_fragments {as bs : List Schema} (told : ∀ s ∈ as, ∀ t ∈ bs, Told s t)
    (eq : Json.normal (.array (Schema.fragments as)) = Json.normal (.array (Schema.fragments bs))) :
    Schema.normalAll as = Schema.normalAll bs := by
  rw [Json.normal_array, Json.normal_array, Schema.fragments_eq, Schema.fragments_eq, Json.array.injEq,
    List.map_map, List.map_map] at eq
  rw [Schema.normalAll_eq, Schema.normalAll_eq]
  induction as generalizing bs with
  | nil =>
      cases bs with
      | nil => rfl
      | cons b bs => cases eq
  | cons a as ih =>
      cases bs with
      | nil => cases eq
      | cons b bs =>
          rw [List.map_cons, List.map_cons, List.cons_eq_cons] at eq
          rw [List.map_cons, List.map_cons, told a List.mem_cons_self b List.mem_cons_self eq.1,
            ih (fun s hs t ht => told s (List.mem_cons_of_mem _ hs) t (List.mem_cons_of_mem _ ht)) eq.2]

lemma ObjectRules.isBare_normal (rules : ObjectRules Schema) : (normal rules).isBare = rules.isBare := by
  rw [Bool.eq_iff_iff, isBare_iff, isBare_iff]
  obtain ⟨properties, required, extras⟩ := rules
  have noProperties : Table.sort (Table.mapValues Schema.normal properties) = [] ↔ properties = [] := by
    rw [← List.isEmpty_iff, Table.isEmpty_sort, Table.isEmpty_mapValues, List.isEmpty_iff]
  simp only [normal_eq, bare, mk.injEq, noProperties, sortStrings_eq_nil_iff]
  cases extras <;> simp [Extras.normal]

/-- No rules are like rules that say nothing. -/
lemma ObjectRules.normalInline_eq (inline : Option (ObjectRules Schema)) :
    normalInline inline =
      if (normal (inline.getD bare)).isBare then none else some (normal (inline.getD bare)) := by
  rw [isBare_normal]
  cases inline with
  | none => rfl
  | some rules => rw [normalInline, Option.getD_some]

lemma ObjectRules.inlineKeywords_eq (inline : Option (ObjectRules Schema)) :
    inlineKeywords inline = keywords (inline.getD bare) := by
  cases inline <;> rfl

lemma ObjectRules.children_getD_bare (inline : Option (ObjectRules Schema)) :
    (inline.getD bare).children = (inline.map children).getD [] := by
  cases inline <;> rfl

lemma eq_of_objectTyped {a b : Bool}
    (h : (if a then some (Json.string "object") else none).map (Json.normalAt "type") =
      (if b then some (Json.string "object") else none).map (Json.normalAt "type")) : a = b := by
  cases a <;> cases b <;> simp_all

lemma SchemaKind.get?_union (keyword : UnionKeyword) (members : List Schema)
    (discriminator : Option Discriminator) (objectTyped nullable : Bool) :
    let find := Table.get?
      (SchemaKind.keywords (.union keyword members discriminator objectTyped) ++ flag "nullable" nullable)
    find "type" = (if objectTyped then some (.string "object") else none) ∧
      find "oneOf" = (if keyword = .oneOf then some (.array (Schema.fragments members)) else none) ∧
      find "anyOf" = (if keyword = .anyOf then some (.array (Schema.fragments members)) else none) ∧
      find "discriminator" = discriminator.map Discriminator.fragment := by
  cases keyword <;>
    simp [SchemaKind.keywords, UnionKeyword.text, Table.get?_append, get?_objectType, get?_optional,
      get?_flag, Table.get?_cons]

lemma SchemaKind.get?_intersection (members : List Schema) (inline : Option (ObjectRules Schema))
    (objectTyped nullable : Bool) :
    let find := Table.get?
      (SchemaKind.keywords (.intersection members inline objectTyped) ++ flag "nullable" nullable)
    find "type" = (if objectTyped then some (.string "object") else none) ∧
      find "allOf" = some (.array (Schema.fragments members)) ∧
      ∀ keyword ∈ ["properties", "required", "additionalProperties"],
        find keyword = Table.get? (ObjectRules.keywords (inline.getD .bare)) keyword := by
  have rules := fun name => @ObjectRules.get?_keywords_of_notMem (inline.getD .bare) name
  simp [SchemaKind.keywords, ObjectRules.inlineKeywords_eq, Table.get?_append, get?_objectType,
    get?_flag, Table.get?_cons, rules]

lemma normalDiscriminator_eq_of_alike {a b : Option Discriminator}
    (h : (a.map Discriminator.fragment).map (Json.normalAt "discriminator") =
      (b.map Discriminator.fragment).map (Json.normalAt "discriminator")) :
    a.map Discriminator.normal = b.map Discriminator.normal := by
  have object : ∀ d : Discriminator,
      Json.normalAt "discriminator" d.fragment = d.fragment.normal := fun d => Json.normalAt_object _ _
  cases a with
  | none =>
      cases b with
      | none => rfl
      | some d => simp at h
  | some d =>
      cases b with
      | none => simp at h
      | some e =>
          simp only [Option.map_some, Option.some.injEq, object] at h
          rw [Option.map_some, Option.map_some, Discriminator.normal_eq_of_fragment h]

lemma SchemaKind.normal_eq_of_union {keyword keyword' : UnionKeyword} {members members' : List Schema}
    {d d' : Option Discriminator} {objectTyped objectTyped' m n : Bool}
    (alike : Alike (keywords (.union keyword members d objectTyped) ++ flag "nullable" m)
      (keywords (.union keyword' members' d' objectTyped') ++ flag "nullable" n))
    (told : ∀ s ∈ members, ∀ t ∈ members', Told s t) :
    normal (.union keyword members d objectTyped) =
      normal (.union keyword' members' d' objectTyped') := by
  obtain ⟨typeS, oneS, anyS, discriminatorS⟩ := get?_union keyword members d objectTyped m
  obtain ⟨typeT, oneT, anyT, discriminatorT⟩ := get?_union keyword' members' d' objectTyped' n
  have type := alike "type"
  have one := alike "oneOf"
  have any := alike "anyOf"
  have discriminator := alike "discriminator"
  rw [typeS, typeT] at type
  rw [oneS, oneT] at one
  rw [anyS, anyT] at any
  rw [discriminatorS, discriminatorT] at discriminator
  rw [normal, normal, eq_of_objectTyped type, normalDiscriminator_eq_of_alike discriminator]
  cases keyword <;> cases keyword' <;> simp only [if_true, if_false, reduceCtorEq, Option.map_some,
    Option.map_none, Option.some.injEq] at one any
  · rw [Json.normalAt_of_not_orderFree rfl, Json.normalAt_of_not_orderFree rfl] at one
    rw [normalAll_eq_of_fragments told one]
  · rw [Json.normalAt_of_not_orderFree rfl, Json.normalAt_of_not_orderFree rfl] at any
    rw [normalAll_eq_of_fragments told any]

lemma SchemaKind.normal_eq_of_intersection {members members' : List Schema}
    {inline inline' : Option (ObjectRules Schema)} {objectTyped objectTyped' m n : Bool}
    (alike : Alike (keywords (.intersection members inline objectTyped) ++ flag "nullable" m)
      (keywords (.intersection members' inline' objectTyped') ++ flag "nullable" n))
    (told : ∀ s ∈ members ++ (inline.map ObjectRules.children).getD [],
      ∀ t ∈ members' ++ (inline'.map ObjectRules.children).getD [], Told s t) :
    normal (.intersection members inline objectTyped) =
      normal (.intersection members' inline' objectTyped') := by
  obtain ⟨typeS, allS, rulesS⟩ := get?_intersection members inline objectTyped m
  obtain ⟨typeT, allT, rulesT⟩ := get?_intersection members' inline' objectTyped' n
  have type := alike "type"
  have all := alike "allOf"
  rw [typeS, typeT] at type
  rw [allS, allT, Option.map_some, Option.map_some, Option.some.injEq,
    Json.normalAt_of_not_orderFree rfl, Json.normalAt_of_not_orderFree rfl] at all
  have inMembers : ∀ s ∈ members, ∀ t ∈ members', Told s t := fun s hs t ht =>
    told s (List.mem_append_left _ hs) t (List.mem_append_left _ ht)
  have inRules : ∀ s ∈ (inline.getD .bare).children, ∀ t ∈ (inline'.getD .bare).children,
      Told s t := by
    intro s hs t ht
    rw [ObjectRules.children_getD_bare] at hs ht
    exact told s (List.mem_append_right _ hs) t (List.mem_append_right _ ht)
  rw [normal, normal, eq_of_objectTyped type, normalAll_eq_of_fragments inMembers all,
    ObjectRules.normalInline_eq, ObjectRules.normalInline_eq,
    ObjectRules.normal_eq_of_alike rulesS rulesT alike inRules]

lemma SchemaKind.normal_eq_of_object {rules rules' : ObjectRules Schema} {m n : Bool}
    (alike : Alike (keywords (.object rules) ++ flag "nullable" m)
      (keywords (.object rules') ++ flag "nullable" n))
    (told : ∀ s ∈ rules.children, ∀ t ∈ rules'.children, Told s t) :
    normal (.object rules) = normal (.object rules') := by
  have inObject : ∀ (rules : ObjectRules Schema) (b : Bool),
      ∀ keyword ∈ ["properties", "required", "additionalProperties"],
        Table.get? (keywords (.object rules) ++ flag "nullable" b) keyword =
          Table.get? (ObjectRules.keywords rules) keyword := by
    intro rules b
    simp [keywords, Table.get?_append, Table.get?_cons, get?_flag]
  rw [normal, normal, ObjectRules.normal_eq_of_alike (inObject rules m) (inObject rules' n) alike told]

lemma SchemaKind.normal_eq_of_array {items items' : Schema} {bounds bounds' : ItemBounds} {m n : Bool}
    (safe : (Json.object (keywords (.array items bounds) ++ flag "nullable" m)).Safe)
    (safe' : (Json.object (keywords (.array items' bounds') ++ flag "nullable" n)).Safe)
    (alike : Alike (keywords (.array items bounds) ++ flag "nullable" m)
      (keywords (.array items' bounds') ++ flag "nullable" n))
    (told : Told items items') : normal (.array items bounds) = normal (.array items' bounds') := by
  have inside := alike "items"
  simp only [keywords, Table.get?_append, Table.get?_cons, String.reduceEq, if_true, if_false,
    Option.some_or, Option.map_some, Schema.normalAt_fragment, Option.some.injEq] at inside
  rw [normal, normal, ItemBounds.eq_of_alike rfl rfl safe safe' alike, told inside]

lemma SchemaKind.normal_eq_of_reference {name name' : String} {m n : Bool}
    (alike : Alike (keywords (.reference name) ++ flag "nullable" m)
      (keywords (.reference name') ++ flag "nullable" n)) :
    normal (.reference name) = normal (.reference name') := by
  have written := alike "$ref"
  simp only [keywords, List.cons_append, Table.get?_cons, if_true, Option.map_some,
    Json.normalAt_string, Option.some.injEq, Json.string.injEq] at written
  rw [Reference.ofName_injective written]

/-- Kinds of one form whose keywords have one normal form have one normal form. -/
lemma SchemaKind.normal_eq_of_alike {kind kind' : SchemaKind} {m n : Bool}
    (forms : kind.form = kind'.form)
    (safe : (Json.object (kind.keywords ++ flag "nullable" m)).Safe)
    (safe' : (Json.object (kind'.keywords ++ flag "nullable" n)).Safe)
    (alike : Alike (kind.keywords ++ flag "nullable" m) (kind'.keywords ++ flag "nullable" n))
    (told : ∀ s ∈ kind.children, ∀ t ∈ kind'.children, Told s t) : kind.normal = kind'.normal := by
  cases kind with
  | string a =>
      cases kind' with
      | string b => rw [normal, normal, StringRules.normal_eq_of_alike safe safe' alike]
      | _ => simp [form] at forms
  | number a =>
      cases kind' with
      | number b => rw [normal, normal, NumberRules.normal_eq_of_alike alike]
      | _ => simp [form] at forms
  | array items bounds =>
      cases kind' with
      | array items' bounds' =>
          exact normal_eq_of_array safe safe' alike
            (told items (List.mem_singleton_self _) items' (List.mem_singleton_self _))
      | _ => simp [form] at forms
  | object rules =>
      cases kind' with
      | object rules' => exact normal_eq_of_object alike told
      | _ => simp [form] at forms
  | union keyword members discriminator objectTyped =>
      cases kind' with
      | union keyword' members' discriminator' objectTyped' => exact normal_eq_of_union alike told
      | _ => simp [form] at forms
  | intersection members inline objectTyped =>
      cases kind' with
      | intersection members' inline' objectTyped' => exact normal_eq_of_intersection alike told
      | _ => simp [form] at forms
  | reference name =>
      cases kind' with
      | reference name' => exact normal_eq_of_reference alike
      | _ => simp [form] at forms
  | boolean =>
      cases kind' with
      | boolean => rfl
      | _ => simp [form] at forms
  | null =>
      cases kind' with
      | null => rfl
      | _ => simp [form] at forms
  | any =>
      cases kind' with
      | any => rfl
      | _ => simp [form] at forms

/-- Schemas with one canonical form have one normal form. -/
theorem Schema.normal_eq_of_fragment {s t : Schema} (safeS : s.fragment.Safe)
    (safeT : t.fragment.Safe) : Told s t := by
  induction s using Schema.induction generalizing t with
  | step s ih =>
      intro eq
      have told : ∀ c ∈ s.children, ∀ d ∈ t.children, Told c d := fun c hc d hd =>
        ih c hc (((safe_fragment_iff s).1 safeS).2 c hc) (((safe_fragment_iff t).1 safeT).2 d hd)
      rw [fragment_eq] at safeS safeT
      rw [fragment_eq, fragment_eq] at eq
      have alike := Alike.of_normal eq
      -- the keywords tell the form and the flag before the kind
      have forms := formOf_eq_of_alike alike
      rw [formOf_keywords, formOf_keywords] at forms
      have nullable := alike "nullable"
      rw [get?_nullable, get?_nullable] at nullable
      have nullable := eq_of_flags nullable
      obtain ⟨kind, nullableS⟩ := s
      obtain ⟨kind', nullableT⟩ := t
      simp only [Schema.nullable, Schema.kind] at nullable forms
      simp only [keywords, Schema.nullable, Schema.kind] at alike safeS safeT
      rw [normal, normal, SchemaKind.normal_eq_of_alike forms safeS safeT alike told, nullable]

lemma Schema.ofSchema_eq_ok_iff {s : Schema} {c : Canonical} :
    Canonical.ofSchema s = .ok c ↔ Canonical.ofJson s.fragment = .ok c := by
  rw [Canonical.ofSchema]
  cases Canonical.ofJson s.fragment <;> simp [Except.mapError]

/-- A schema has a canonical form if its integers are in range. -/
lemma Schema.exists_canonical_iff {s : Schema} :
    (∃ c, Canonical.ofSchema s = .ok c) ↔ s.fragment.Safe := by
  simp only [ofSchema_eq_ok_iff, Canonical.ofJson_eq_ok_iff]
  exact ⟨fun ⟨_, safe, _⟩ => safe, fun safe => ⟨⟨_⟩, safe, rfl⟩⟩

/-- **A canonical form stands for the normal form**: two schemas with canonical forms have one and the
same if and only if their normal forms are equal. -/
theorem Schema.canonical_eq_iff {s t : Schema} {c d : Canonical} (hs : Canonical.ofSchema s = .ok c)
    (ht : Canonical.ofSchema t = .ok d) : c = d ↔ s.normal = t.normal := by
  rw [ofSchema_eq_ok_iff] at hs ht
  rw [Canonical.ofJson_eq_iff hs ht]
  refine ⟨?_, fun eq => ?_⟩
  · exact normal_eq_of_fragment (Canonical.ofJson_eq_ok_iff.1 hs).1 (Canonical.ofJson_eq_ok_iff.1 ht).1
  · rw [← fragment_normal s, eq, fragment_normal]

end SchemaCompiler
