import SchemaCompiler.Proofs.Json.Text
import SchemaCompiler.Proofs.Schema.WellFormed
import SchemaCompiler.Proofs.Validator.Basic
import SchemaCompiler.Shape

/-!
What the validator and the type of a schema have in common.

* `Json.same_self`: a value without repeated members is the same as itself;
* `Shape.wellFormed_ofObject` and the like: shapes have no repeated members;
* `Validator.Agrees`: a validator and a type have one shape and the same external names;
* `Validator.agrees_ofSchema`: the validator and the type of a schema agree;
* `Validator.wellFormed_shape`: the shape of a well-formed schema has no repeated members.
-/

namespace SchemaCompiler

/-! ### Sameness -/

lemma Json.Number.same_self (n : Json.Number) : n.same n = true := by
  cases n with
  | integer value => exact beq_self_eq_true value
  | real x => exact decide_eq_true rfl

/-- A value without repeated members is the same as itself. -/
theorem Json.same_self {v : Json} (wellFormed : v.WellFormed) : v.same v = true := by
  induction v using ind with
  | null => rfl
  | bool b => exact beq_self_eq_true b
  | number n => exact n.same_self
  | string s => exact beq_self_eq_true s
  | array items ih =>
      rw [same]
      have each := wellFormed_array_iff.1 wellFormed
      clear wellFormed
      induction items with
      | nil => rfl
      | cons item rest inside =>
          rw [sameItems, Bool.and_eq_true]
          refine ⟨ih item List.mem_cons_self (each item List.mem_cons_self), inside ?_ ?_⟩
          · exact fun v mem => ih v (List.mem_cons_of_mem _ mem)
          · exact fun v mem => each v (List.mem_cons_of_mem _ mem)
  | object members ih =>
      obtain ⟨distinct, each⟩ := wellFormed_object_iff.1 wellFormed
      have among : ∀ some : List (String × Json), some ⊆ members → sameMembers some members = true := by
        intro some subset
        induction some with
        | nil => rfl
        | cons member rest inside =>
            obtain ⟨here, others⟩ := List.cons_subset.1 subset
            obtain ⟨name, value⟩ := member
            rw [sameMembers, (Table.get?_eq_some_iff distinct).2 here, Bool.and_eq_true]
            exact ⟨ih _ here (each _ here), inside others⟩
      rw [same, beq_self_eq_true, Bool.true_and]
      exact among members (List.Subset.refl members)

/-! ### Validators and types item by item -/

namespace Validator

lemma shapes_eq (validators : List Validator) : shapes validators = validators.map shape := by
  induction validators with
  | nil => rfl
  | cons v rest ih => rw [shapes, ih, List.map_cons]

lemma fieldShapes_eq (fields : List (Field Validator)) :
    fieldShapes fields = fields.map fun field => ⟨field.name, field.rule.shape, field.optional⟩ := by
  induction fields with
  | nil => rfl
  | cons field rest ih => rw [fieldShapes, ih, List.map_cons]

lemma externalsInAll_eq (validators : List Validator) :
    externalsInAll validators = validators.flatMap externals := by
  induction validators with
  | nil => rfl
  | cons v rest ih => rw [externalsInAll, ih, List.flatMap_cons]

lemma externalsInFields_eq (fields : List (Field Validator)) :
    externalsInFields fields = fields.flatMap fun field => field.rule.externals := by
  induction fields with
  | nil => rfl
  | cons field rest ih => rw [externalsInFields, ih, List.flatMap_cons]

end Validator

namespace TypeExpr

variable {registry : Registry}

lemma shapes_eq (types : List TypeExpr) : shapes types = types.map shape := by
  induction types with
  | nil => rfl
  | cons t rest ih => rw [shapes, ih, List.map_cons]

lemma fieldShapes_eq (fields : List (Field TypeExpr)) :
    fieldShapes fields = fields.map fun field => ⟨field.name, field.rule.shape, field.optional⟩ := by
  induction fields with
  | nil => rfl
  | cons field rest ih => rw [fieldShapes, ih, List.map_cons]

lemma externalsInAll_eq (types : List TypeExpr) : externalsInAll types = types.flatMap externals := by
  induction types with
  | nil => rfl
  | cons t rest ih => rw [externalsInAll, ih, List.flatMap_cons]

lemma externalsInFields_eq (fields : List (Field TypeExpr)) :
    externalsInFields fields = fields.flatMap fun field => field.rule.externals := by
  induction fields with
  | nil => rfl
  | cons field rest ih => rw [externalsInFields, ih, List.flatMap_cons]

lemma ofSchemas_eq (members : List Schema) :
    ofSchemas registry members = members.map (ofSchema registry) := by
  induction members with
  | nil => rfl
  | cons s rest ih => rw [ofSchemas, ih, List.map_cons]

lemma ofProperties_eq (required : List String) (properties : List (String × Schema)) :
    ofProperties registry required properties = properties.map fun entry =>
      ⟨entry.1, ofSchema registry entry.2, !required.contains entry.1⟩ := by
  induction properties with
  | nil => rfl
  | cons entry rest ih => rw [ofProperties, ih, List.map_cons]

/-- The union of one type is that type, in its shape as well. -/
lemma shape_unionOf (members : List TypeExpr) :
    (unionOf members).shape = Shape.ofComposition "anyOf" (members.map shape) := by
  rcases members with _ | ⟨first, _ | ⟨second, rest⟩⟩
  · rfl
  · rfl
  · rw [unionOf, shape, shapes_eq]
    exact nofun

lemma shape_intersectionOf (members : List TypeExpr) :
    (intersectionOf members).shape = Shape.ofComposition "allOf" (members.map shape) := by
  rcases members with _ | ⟨first, _ | ⟨second, rest⟩⟩
  · rfl
  · rfl
  · rw [intersectionOf, shape, shapes_eq]
    exact nofun

lemma externals_unionOf (members : List TypeExpr) :
    (unionOf members).externals = members.flatMap externals := by
  rcases members with _ | ⟨first, _ | ⟨second, rest⟩⟩
  · rfl
  · rw [unionOf, List.flatMap_singleton]
  · rw [unionOf, externals, externalsInAll_eq]
    exact nofun

lemma externals_intersectionOf (members : List TypeExpr) :
    (intersectionOf members).externals = members.flatMap externals := by
  rcases members with _ | ⟨first, _ | ⟨second, rest⟩⟩
  · rfl
  · rw [intersectionOf, List.flatMap_singleton]
  · rw [intersectionOf, externals, externalsInAll_eq]
    exact nofun

end TypeExpr

/-! ### Shapes without repeated members -/

namespace Shape

@[simp]
lemma wellFormed_ofType (name : String) : (ofType name).WellFormed := by
  simp [ofType, Json.wellFormed_object_iff, Table.keys]

@[simp]
lemma wellFormed_ofReference (name : String) : (ofReference name).WellFormed := by
  simp [ofReference, Json.wellFormed_object_iff, Table.keys]

@[simp]
lemma wellFormed_ofExternal (name : String) : (ofExternal name).WellFormed := by
  simp [ofExternal, Json.wellFormed_object_iff, Table.keys]

lemma wellFormed_ofValues (name : String) {values : List Json}
    (each : ∀ value ∈ values, value.WellFormed) : (ofValues name values).WellFormed := by
  simpa [ofValues, Json.wellFormed_object_iff, Json.wellFormed_array_iff, Table.keys] using each

lemma wellFormed_ofArray {item : Json} (inside : item.WellFormed) : (ofArray item).WellFormed := by
  simpa [ofArray, Json.wellFormed_object_iff, Table.keys] using inside

lemma wellFormed_ofComposition (keyword : String) {members : List Json}
    (each : ∀ member ∈ members, member.WellFormed) : (ofComposition keyword members).WellFormed := by
  rcases members with _ | ⟨first, _ | ⟨second, rest⟩⟩
  · simp [ofComposition, Json.wellFormed_object_iff, Json.wellFormed_array_iff, Table.keys]
  · exact each first (List.mem_singleton_self first)
  · rw [ofComposition, Json.wellFormed_object_iff]
    · simpa [Table.keys, Json.wellFormed_array_iff] using each
    · intro member eq
      cases eq

lemma wellFormed_ofObject {fields : List (Field Json)} (distinct : (fields.map Field.name).Nodup)
    (each : ∀ field ∈ fields, field.rule.WellFormed) {extra : Option Json}
    (further : ∀ shape, extra = some shape → shape.WellFormed) : (ofObject fields extra).WellFormed := by
  have keys : (Table.keys (fields.map fun field => (field.name, field.rule))).Nodup := by
    rwa [Table.keys, List.map_map]
  have properties : (Json.object (Table.ofEntries
      (fields.map fun field => (field.name, field.rule)))).WellFormed := by
    rw [Table.ofEntries_eq_self keys, Json.wellFormed_object_iff]
    refine ⟨keys, fun entry mem => ?_⟩
    obtain ⟨field, among, rfl⟩ := List.mem_map.1 mem
    exact each field among
  have required : (Json.array
      ((fields.filter (!·.optional)).map fun field => Json.string field.name)).WellFormed := by
    rw [Json.wellFormed_array_iff, List.forall_mem_map]
    exact fun field _ => Json.wellFormed_string field.name
  rw [ofObject, Json.wellFormed_object_iff]
  cases extra with
  | none => simp [Table.keys, properties, required]
  | some shape => simp [Table.keys, properties, required, further shape rfl]

lemma wellFormed_orNull {shape : Json} (wellFormed : shape.WellFormed) : (orNull shape).WellFormed := by
  cases shape with
  | object members =>
      obtain ⟨distinct, each⟩ := Json.wellFormed_object_iff.1 wellFormed
      rw [orNull, Json.wellFormed_object_iff]
      refine ⟨Table.nodup_keys_insert distinct _ _, fun entry mem => ?_⟩
      rcases Table.mem_insert mem with rfl | mem
      · exact Json.wellFormed_bool true
      · exact each entry mem
  | _ => exact wellFormed

end Shape

/-! ### Validators and types of schemas -/

namespace Validator

variable {registry : Registry}

/-- A validator and a type have one shape and the same external names. -/
structure Agrees (v : Validator) (t : TypeExpr) : Prop where
  shape : v.shape = t.shape
  externals : v.externals = t.externals

/-- An external name replaces a validator as it does a type. -/
lemma Agrees.orExternal {v : Validator} {t : TypeExpr} (agrees : v.Agrees t) (name : Option String) :
    (v.orExternal name).Agrees (t.orExternal name) := by
  cases name with
  | none => exact agrees
  | some name => exact ⟨rfl, rfl⟩

lemma Agrees.orNull {v : Validator} {t : TypeExpr} (agrees : v.Agrees t) (admitsNull : Bool) :
    (v.orNull admitsNull).Agrees (t.orNull admitsNull) := by
  cases admitsNull with
  | false => exact agrees
  | true => exact ⟨congrArg Shape.orNull agrees.shape, agrees.externals⟩

/-- Validators and types agree one by one. -/
def AgreeAll (validators : List Validator) (types : List TypeExpr) : Prop :=
  List.Forall₂ Agrees validators types

lemma AgreeAll.shapes {validators : List Validator} {types : List TypeExpr}
    (all : AgreeAll validators types) :
    Validator.shapes validators = types.map TypeExpr.shape ∧
      validators.flatMap Validator.externals = types.flatMap TypeExpr.externals := by
  induction all with
  | nil => exact ⟨rfl, rfl⟩
  | cons first _ ih =>
      obtain ⟨shapes, externals⟩ := ih
      refine ⟨?_, ?_⟩
      · rw [Validator.shapes, List.map_cons, first.shape, shapes]
      · rw [List.flatMap_cons, List.flatMap_cons, first.externals, externals]

/-- Unions agree if their members do. -/
lemma AgreeAll.union {validators : List Validator} {types : List TypeExpr}
    (all : AgreeAll validators types) (keyword : UnionKeyword) (discriminator : Option Discriminator)
    (objectTyped : Bool) :
    Agrees (.union keyword validators discriminator objectTyped) (TypeExpr.unionOf types) := by
  obtain ⟨shapes, externals⟩ := all.shapes
  refine ⟨?_, ?_⟩
  · rw [Validator.shape, TypeExpr.shape_unionOf, shapes]
  · rw [Validator.externals, externalsInAll_eq, TypeExpr.externals_unionOf, externals]

/-- Intersections agree if their members do. -/
lemma AgreeAll.intersection {validators : List Validator} {types : List TypeExpr}
    (all : AgreeAll validators types) (inlined objectTyped : Bool) :
    Agrees (.intersection validators inlined objectTyped) (TypeExpr.intersectionOf types) := by
  obtain ⟨shapes, externals⟩ := all.shapes
  refine ⟨?_, ?_⟩
  · rw [Validator.shape, TypeExpr.shape_intersectionOf, shapes]
  · rw [Validator.externals, externalsInAll_eq, TypeExpr.externals_intersectionOf, externals]

lemma agreeAll_ofSchemas {members : List Schema}
    (ih : ∀ s ∈ members, (ofSchema registry s).Agrees (TypeExpr.ofSchema registry s)) :
    AgreeAll (ofSchemas registry members) (TypeExpr.ofSchemas registry members) := by
  rw [AgreeAll, ofSchemas_eq, TypeExpr.ofSchemas_eq, List.forall₂_map_left_iff,
    List.forall₂_map_right_iff, List.forall₂_same]
  exact ih

/-- The validator and the type of the rules of an object agree. -/
lemma agrees_ofRules {rules : ObjectRules Schema}
    (ih : ∀ s ∈ rules.children, (ofSchema registry s).Agrees (TypeExpr.ofSchema registry s)) :
    (ofRules registry rules).Agrees (TypeExpr.ofRules registry rules) := by
  obtain ⟨properties, required, extras⟩ := rules
  have inside : ∀ entry ∈ properties,
      (ofSchema registry entry.2).Agrees (TypeExpr.ofSchema registry entry.2) :=
    fun entry mem => ih _ (List.mem_append_left _ (List.mem_map_of_mem mem))
  have shapes : fieldShapes (ofProperties registry required properties) =
      TypeExpr.fieldShapes (TypeExpr.ofProperties registry required properties) := by
    rw [fieldShapes_eq, ofProperties_eq, TypeExpr.fieldShapes_eq, TypeExpr.ofProperties_eq,
      List.map_map, List.map_map]
    refine List.map_congr_left fun entry mem => ?_
    rw [Function.comp_apply, Function.comp_apply, (inside entry mem).shape]
  have names : externalsInFields (ofProperties registry required properties) =
      TypeExpr.externalsInFields (TypeExpr.ofProperties registry required properties) := by
    rw [externalsInFields_eq, ofProperties_eq, TypeExpr.externalsInFields_eq, TypeExpr.ofProperties_eq,
      List.flatMap_map, List.flatMap_map]
    exact List.flatMap_congr fun entry mem => (inside entry mem).externals
  have further : extrasShape (ofExtras registry extras) =
      TypeExpr.indexShape (TypeExpr.ofExtras registry extras) ∧
        externalsInExtras (ofExtras registry extras) =
          TypeExpr.externalsInIndex (TypeExpr.ofExtras registry extras) := by
    cases extras with
    | schema rule =>
        have agrees := ih rule (List.mem_append_right _ (List.mem_singleton_self rule))
        exact ⟨congrArg some agrees.shape, agrees.externals⟩
    | _ => exact ⟨rfl, rfl⟩
  obtain ⟨furtherShape, furtherNames⟩ := further
  refine ⟨?_, ?_⟩
  · rw [ofRules, Validator.shape, TypeExpr.ofRules, TypeExpr.shape, shapes, furtherShape]
  · rw [ofRules, Validator.externals, TypeExpr.ofRules, TypeExpr.externals, names, furtherNames]

/-- The validator and the type of a kind agree. -/
lemma agrees_ofKind {kind : SchemaKind}
    (ih : ∀ s ∈ kind.children, (ofSchema registry s).Agrees (TypeExpr.ofSchema registry s)) :
    (ofKind registry kind).Agrees (TypeExpr.ofKind registry kind) := by
  cases kind with
  | string rules =>
      obtain ⟨checks, enumeration⟩ := rules
      cases enumeration with
      | none =>
          have plain : (Validator.string checks).Agrees .string := ⟨rfl, rfl⟩
          exact plain.orExternal _
      | some listed => exact ⟨rfl, rfl⟩
  | number rules =>
      obtain ⟨checks, enumeration⟩ := rules
      cases enumeration with
      | none =>
          have plain : (Validator.number checks).Agrees .number := ⟨rfl, rfl⟩
          exact plain.orExternal _
      | some listed => exact ⟨rfl, rfl⟩
  | boolean =>
      have plain : Validator.boolean.Agrees .boolean := ⟨rfl, rfl⟩
      exact plain.orExternal _
  | array items bounds =>
      have inside := ih items (List.mem_singleton_self items)
      exact ⟨congrArg Shape.ofArray inside.shape, inside.externals⟩
  | object rules => exact agrees_ofRules ih
  | union keyword members discriminator objectTyped =>
      exact (agreeAll_ofSchemas ih).union keyword discriminator objectTyped
  | intersection members inline objectTyped =>
      have all := agreeAll_ofSchemas fun s mem => ih s (List.mem_append_left _ mem)
      cases inline with
      | none => exact all.intersection false objectTyped
      | some rules =>
          have beside := agrees_ofRules fun s mem => ih s (List.mem_append_right _ mem)
          have both : AgreeAll (ofSchemas registry members ++ [ofRules registry rules])
              (TypeExpr.ofSchemas registry members ++ [TypeExpr.ofRules registry rules]) :=
            List.rel_append all (.cons beside .nil)
          exact both.intersection true objectTyped
  | _ => exact ⟨rfl, rfl⟩

/-- **The validator and the type of a schema agree.** -/
theorem agrees_ofSchema (s : Schema) : (ofSchema registry s).Agrees (TypeExpr.ofSchema registry s) := by
  induction s using Schema.induction with
  | step s ih =>
      obtain ⟨kind, nullable⟩ := s
      exact (agrees_ofKind ih).orNull nullable

/-! ### Shapes of validators -/

/-- The shape of the rules of an object has no repeated members if those inside have none. -/
lemma wellFormed_shape_ofRules {rules : ObjectRules Schema}
    (distinct : (Table.keys rules.properties).Nodup)
    (ih : ∀ s ∈ rules.children, (ofSchema registry s).shape.WellFormed) :
    (ofRules registry rules).shape.WellFormed := by
  obtain ⟨properties, required, extras⟩ := rules
  rw [ofRules, Validator.shape, fieldShapes_eq, ofProperties_eq, List.map_map]
  refine Shape.wellFormed_ofObject ?_ ?_ fun shape eq => ?_
  · rwa [List.map_map]
  · rw [List.forall_mem_map]
    exact fun entry mem => ih _ (List.mem_append_left _ (List.mem_map_of_mem mem))
  · cases extras with
    | schema rule =>
        exact Option.some.inj eq ▸ ih rule (List.mem_append_right _ (List.mem_singleton_self rule))
    | _ => cases eq

/-- The shape of a kind has no repeated members if those inside have none. -/
lemma wellFormed_shape_ofKind {kind : SchemaKind}
    (wellFormed : ∀ rules, kind.rules? = some rules → rules.WellFormed)
    (ih : ∀ s ∈ kind.children, (ofSchema registry s).shape.WellFormed) :
    (ofKind registry kind).shape.WellFormed := by
  have named : ∀ (v : Validator) (name : Option String), v.shape.WellFormed →
      (v.orExternal name).shape.WellFormed := by
    intro v name plain
    cases name with
    | none => exact plain
    | some name => exact Shape.wellFormed_ofExternal name
  have members : ∀ list : List Schema, (∀ s ∈ list, (ofSchema registry s).shape.WellFormed) →
      ∀ shape ∈ (ofSchemas registry list).map Validator.shape, shape.WellFormed := by
    intro list ih
    rw [ofSchemas_eq, List.map_map, List.forall_mem_map]
    exact ih
  cases kind with
  | string rules =>
      obtain ⟨checks, enumeration⟩ := rules
      cases enumeration with
      | none => exact named _ _ (Shape.wellFormed_ofType _)
      | some listed => exact Shape.wellFormed_ofValues _ (by simp)
  | number rules =>
      obtain ⟨checks, enumeration⟩ := rules
      cases enumeration with
      | none => exact named _ _ (Shape.wellFormed_ofType _)
      | some listed => exact Shape.wellFormed_ofValues _ (by simp)
  | boolean => exact named _ _ (Shape.wellFormed_ofType _)
  | null => exact Shape.wellFormed_ofType _
  | any => simp [ofKind, Validator.shape, Json.wellFormed_object_iff, Table.keys]
  | reference name => exact Shape.wellFormed_ofReference name
  | array items bounds => exact Shape.wellFormed_ofArray (ih items (List.mem_singleton_self items))
  | object rules => exact wellFormed_shape_ofRules (wellFormed rules rfl).distinct ih
  | union keyword list discriminator objectTyped =>
      rw [ofKind, Validator.shape, shapes_eq]
      exact Shape.wellFormed_ofComposition _ (members list ih)
  | intersection list inline objectTyped =>
      have all := members list fun s mem => ih s (List.mem_append_left _ mem)
      cases inline with
      | none =>
          rw [ofKind, Validator.shape, shapes_eq]
          exact Shape.wellFormed_ofComposition _ all
      | some rules =>
          have beside := wellFormed_shape_ofRules (wellFormed rules rfl).distinct fun s mem =>
            ih s (List.mem_append_right _ mem)
          rw [ofKind, Validator.shape, shapes_eq, List.map_append, List.map_singleton]
          refine Shape.wellFormed_ofComposition _ fun shape mem => ?_
          rcases List.mem_append.1 mem with mem | mem
          · exact all shape mem
          · exact List.mem_singleton.1 mem ▸ beside

/-- The shape of a well-formed schema has no repeated members. -/
theorem wellFormed_shape {s : Schema} (wellFormed : s.WellFormed) :
    (ofSchema registry s).shape.WellFormed := by
  induction s using Schema.induction with
  | step s ih =>
      obtain ⟨own, inside⟩ := Schema.wellFormed_iff.1 wellFormed
      have kind := wellFormed_shape_ofKind own fun child mem => ih child mem (inside child mem)
      obtain ⟨kind, nullable⟩ := s
      cases nullable with
      | false => exact kind
      | true => exact Shape.wellFormed_orNull kind

end Validator

end SchemaCompiler
