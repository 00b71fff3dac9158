import SchemaCompiler.Schema.Basic
import SchemaCompiler.Schema.Reference

/-!
Writing a schema as a JSON fragment.

The fragment is the normal form of what was read: annotations are gone, an inferred type is spelled
out, and flags are written only when they are set.

* `Schema.fragment`: the fragment of a schema;
* `optional`: a keyword that is written only if there is a value for it.
-/

namespace SchemaCompiler

/-- A keyword with its value, if there is one. -/
def optional {α : Type} (keyword : String) (value : Option α) (write : α → Json) :
    List (String × Json) :=
  match value with
  | some value => [(keyword, write value)]
  | none => []

/-- A keyword that is written as `true` or not at all. -/
def flag (keyword : String) (value : Bool) : List (String × Json) :=
  if value then [(keyword, .bool true)] else []

/-- A natural number as a value. -/
def Json.ofNat (n : Nat) : Json := .number (.integer n)

/-- A list of allowed values, with `null` at its end if it names it. -/
def Enumeration.fragment {α : Type} (write : α → Json) (listed : Enumeration α) : Json :=
  .array (listed.values.map write ++ if listed.listsNull then [.null] else [])

/-- The keywords of a string. -/
def StringRules.keywords : StringRules → List (String × Json)
  | ⟨checks, enumeration⟩ =>
    [("type", .string "string")] ++
      optional "format" checks.format .string ++
      optional "minLength" checks.minLength .ofNat ++
      optional "maxLength" checks.maxLength .ofNat ++
      optional "pattern" checks.pattern .string ++
      optional "enum" enumeration (Enumeration.fragment .string)

/-- The keywords of a number. -/
def NumberRules.keywords : NumberRules → List (String × Json)
  | ⟨checks, enumeration⟩ =>
    [("type", .string (if checks.integer then "integer" else "number"))] ++
      optional "enum" enumeration (Enumeration.fragment .number) ++
      optional "format" checks.format .string ++
      optional "minimum" checks.minimum .number ++
      flag "exclusiveMinimum" checks.exclusiveMinimum ++
      optional "maximum" checks.maximum .number ++
      flag "exclusiveMaximum" checks.exclusiveMaximum ++
      optional "multipleOf" checks.multipleOf .number

/-- The bounds on the items of an array. -/
def ItemBounds.keywords (bounds : ItemBounds) : List (String × Json) :=
  optional "minItems" bounds.minItems .ofNat ++ optional "maxItems" bounds.maxItems .ofNat

/-- The fragment of a discriminator. -/
def Discriminator.fragment (d : Discriminator) : Json :=
  .object ([("propertyName", .string d.property)] ++
    if d.mapping.isEmpty then []
    else [("mapping", .object (Table.mapValues .string d.mapping))])

/-- The type beside a composition. -/
def objectType (objectTyped : Bool) : List (String × Json) :=
  if objectTyped then [("type", .string "object")] else []

/-- The list of required names, which is not written if it is empty. -/
def requiredKeyword (names : List String) : List (String × Json) :=
  if names.isEmpty then [] else [("required", .array (names.map .string))]

mutual

/-- The fragment of a schema. -/
def Schema.fragment : Schema → Json
  | .mk kind nullable => .object (SchemaKind.keywords kind ++ flag "nullable" nullable)

/-- The keywords of a kind. -/
def SchemaKind.keywords : SchemaKind → List (String × Json)
  | .string rules => rules.keywords
  | .number rules => rules.keywords
  | .boolean => [("type", .string "boolean")]
  | .null => [("type", .string "null")]
  | .any => []
  | .array items bounds =>
    [("type", .string "array"), ("items", Schema.fragment items)] ++ bounds.keywords
  | .object rules => ("type", .string "object") :: ObjectRules.keywords rules
  | .union keyword members discriminator objectTyped =>
    objectType objectTyped ++ [(keyword.text, .array (Schema.fragments members))] ++
      optional "discriminator" discriminator Discriminator.fragment
  | .intersection members inline objectTyped =>
    objectType objectTyped ++ [("allOf", .array (Schema.fragments members))] ++
      ObjectRules.inlineKeywords inline
  | .reference name => [("$ref", .string (Reference.ofName name))]

/-- The keywords of object rules that stand beside members. -/
def ObjectRules.inlineKeywords : Option (ObjectRules Schema) → List (String × Json)
  | none => []
  | some rules => ObjectRules.keywords rules

/-- The keywords of object rules; empty lists are not written. -/
def ObjectRules.keywords : ObjectRules Schema → List (String × Json)
  | ⟨properties, required, extras⟩ =>
    (if properties.isEmpty then []
      else [("properties", .object (ObjectRules.propertyFragments properties))]) ++
    requiredKeyword required ++ Extras.keywords extras

/-- The fragments of named properties. -/
def ObjectRules.propertyFragments : List (String × Schema) → List (String × Json)
  | [] => []
  | (name, property) :: rest =>
    (name, Schema.fragment property) :: ObjectRules.propertyFragments rest

/-- The keyword for the members that are not named. -/
def Extras.keywords : Extras Schema → List (String × Json)
  | .unspecified => []
  | .allow => [("additionalProperties", .bool true)]
  | .forbid => [("additionalProperties", .bool false)]
  | .schema rule => [("additionalProperties", Schema.fragment rule)]

/-- The fragments of several schemas. -/
def Schema.fragments : List Schema → List Json
  | [] => []
  | s :: rest => Schema.fragment s :: Schema.fragments rest

end

end SchemaCompiler
