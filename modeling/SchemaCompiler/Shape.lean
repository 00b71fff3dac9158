import SchemaCompiler.Schema.Reference
import SchemaCompiler.TypeExpr.Basic

/-!
Shapes: what validators and types have in common.

Lengths, bounds, patterns, formats, the two keywords of unions and the strictness of objects do not
exist on the side of types, and so are no part of a shape.

* `Validator.shape`, `TypeExpr.shape`: the shape of a validator and of a type, as a JSON value.
-/

namespace SchemaCompiler

namespace Shape

/-- The shape of a type without parts. -/
def ofType (name : String) : Json := .object [("type", .string name)]

/-- The shape of a list of allowed values. -/
def ofValues (name : String) (values : List Json) : Json :=
  .object [("type", .string name), ("enum", .array values)]

/-- The shape of an array. -/
def ofArray (item : Json) : Json := .object [("type", .string "array"), ("items", item)]

/-- The shape of an object: the shapes of its fields and of further members. -/
def ofObject (fields : List (Field Json)) (extra : Option Json) : Json :=
  let properties := Table.ofEntries (fields.map fun field => (field.name, field.rule))
  let required := (fields.filter (!·.optional)).map fun field => Json.string field.name
  .object ([("type", .string "object"), ("properties", .object properties),
    ("required", .array required)] ++ (extra.map fun shape => ("additionalProperties", shape)).toList)

/-- The shape of a composition; of one member it is the shape of that member. -/
def ofComposition (keyword : String) : List Json → Json
  | [member] => member
  | members => .object [(keyword, .array members)]

/-- The shape of a reference. -/
def ofReference (name : String) : Json := .object [("$ref", .string (Reference.ofName name))]

/-- The shape of an external name. -/
def ofExternal (name : String) : Json := .object [("alias", .string name)]

/-- A shape that admits `null`. -/
def orNull : Json → Json
  | .object members => .object (Table.insert members "nullable" (.bool true))
  | shape => shape

end Shape

mutual

/-- The shape of a validator. -/
def Validator.shape : Validator → Json
  | .string _ => Shape.ofType "string"
  | .number _ => Shape.ofType "number"
  | .boolean => Shape.ofType "boolean"
  | .null => Shape.ofType "null"
  | .unknown => .object []
  | .strings listed _ => Shape.ofValues "string" (listed.values.map .string)
  | .numbers listed _ => Shape.ofValues "number" (listed.values.map .number)
  | .array item _ => Shape.ofArray (Validator.shape item)
  | .object fields extras =>
    Shape.ofObject (Validator.fieldShapes fields) (Validator.extrasShape extras)
  | .union _ members _ _ => Shape.ofComposition "anyOf" (Validator.shapes members)
  | .intersection members _ _ => Shape.ofComposition "allOf" (Validator.shapes members)
  | .reference name => Shape.ofReference name
  | .external name _ => Shape.ofExternal name
  | .nullable inner => Shape.orNull (Validator.shape inner)

/-- The shapes of fields. -/
def Validator.fieldShapes : List (Field Validator) → List (Field Json)
  | [] => []
  | ⟨name, rule, isOptional⟩ :: rest =>
    ⟨name, Validator.shape rule, isOptional⟩ :: Validator.fieldShapes rest

/-- The shape of further members. -/
def Validator.extrasShape : Extras Validator → Option Json
  | .schema rule => some (Validator.shape rule)
  | _ => none

/-- The shapes of several validators. -/
def Validator.shapes : List Validator → List Json
  | [] => []
  | v :: rest => Validator.shape v :: Validator.shapes rest

end

mutual

/-- The shape of a type. -/
def TypeExpr.shape : TypeExpr → Json
  | .string => Shape.ofType "string"
  | .number => Shape.ofType "number"
  | .boolean => Shape.ofType "boolean"
  | .null => Shape.ofType "null"
  | .unknown => .object []
  | .strings values => Shape.ofValues "string" (values.map .string)
  | .numbers values => Shape.ofValues "number" (values.map .number)
  | .array item => Shape.ofArray (TypeExpr.shape item)
  | .object fields index =>
    Shape.ofObject (TypeExpr.fieldShapes fields) (TypeExpr.indexShape index)
  | .union members => Shape.ofComposition "anyOf" (TypeExpr.shapes members)
  | .intersection members => Shape.ofComposition "allOf" (TypeExpr.shapes members)
  | .reference name => Shape.ofReference name
  | .external name => Shape.ofExternal name
  | .nullable inner => Shape.orNull (TypeExpr.shape inner)

/-- The shapes of fields. -/
def TypeExpr.fieldShapes : List (Field TypeExpr) → List (Field Json)
  | [] => []
  | ⟨name, rule, isOptional⟩ :: rest =>
    ⟨name, TypeExpr.shape rule, isOptional⟩ :: TypeExpr.fieldShapes rest

/-- The shape of further members. -/
def TypeExpr.indexShape : Option TypeExpr → Option Json
  | some type => some (TypeExpr.shape type)
  | none => none

/-- The shapes of several types. -/
def TypeExpr.shapes : List TypeExpr → List Json
  | [] => []
  | t :: rest => TypeExpr.shape t :: TypeExpr.shapes rest

end

end SchemaCompiler
