import SchemaCompiler.Validator.Basic

/-!
Type expressions: schemas as TypeScript types.

Types know nothing of lengths, bounds and formats.  A union or intersection of one member is that
member.

* `TypeExpr`: the expressions;
* `TypeExpr.ofSchema`: the type of a schema under a registry;
* `TypeExpr.externals`: the external names that stand in a type.
-/

namespace SchemaCompiler

/-- A type expression. -/
inductive TypeExpr where
  | string
  | number
  | boolean
  | null
  | unknown
  | strings (values : List String)
  | numbers (values : List Json.Number)
  | array (item : TypeExpr)
  /-- `index`: the type of the members that have no field of their own. -/
  | object (fields : List (Field TypeExpr)) (index : Option TypeExpr)
  | union (members : List TypeExpr)
  | intersection (members : List TypeExpr)
  | reference (name : String)
  | external (name : String)
  | nullable (inner : TypeExpr)

instance : Inhabited TypeExpr := ⟨.unknown⟩

/-- A type, or the external name that replaces it. -/
def TypeExpr.orExternal (base : TypeExpr) : Option String → TypeExpr
  | some name => external name
  | none => base

/-- A type, with `null` admitted if need be. -/
def TypeExpr.orNull (base : TypeExpr) (admitsNull : Bool) : TypeExpr :=
  if admitsNull then .nullable base else base

/-- The union of several types. -/
def TypeExpr.unionOf : List TypeExpr → TypeExpr
  | [member] => member
  | members => .union members

/-- The intersection of several types. -/
def TypeExpr.intersectionOf : List TypeExpr → TypeExpr
  | [member] => member
  | members => .intersection members

mutual

/-- The type of a schema. -/
def TypeExpr.ofSchema (registry : Registry) : Schema → TypeExpr
  | .mk kind admitsNull => (TypeExpr.ofKind registry kind).orNull admitsNull

/-- The type of a kind. -/
def TypeExpr.ofKind (registry : Registry) : SchemaKind → TypeExpr
  | .string ⟨checks, none⟩ =>
    TypeExpr.string.orExternal (registry.external? (.string ⟨checks, none⟩))
  | .string ⟨_, some listed⟩ => .strings listed.values
  | .number ⟨checks, none⟩ =>
    TypeExpr.number.orExternal (registry.external? (.number ⟨checks, none⟩))
  | .number ⟨_, some listed⟩ => .numbers listed.values
  | .boolean => TypeExpr.boolean.orExternal (registry.external? .boolean)
  | .null => .null
  | .any => .unknown
  | .array items _ => .array (TypeExpr.ofSchema registry items)
  | .object rules => TypeExpr.ofRules registry rules
  | .union _ members _ _ => TypeExpr.unionOf (TypeExpr.ofSchemas registry members)
  | .intersection members none _ => TypeExpr.intersectionOf (TypeExpr.ofSchemas registry members)
  | .intersection members (some rules) _ =>
    TypeExpr.intersectionOf (TypeExpr.ofSchemas registry members ++ [TypeExpr.ofRules registry rules])
  | .reference name => .reference name

/-- The type of the rules of an object. -/
def TypeExpr.ofRules (registry : Registry) : ObjectRules Schema → TypeExpr
  | ⟨properties, required, extras⟩ =>
    .object (TypeExpr.ofProperties registry required properties) (TypeExpr.ofExtras registry extras)

/-- The fields of named properties. -/
def TypeExpr.ofProperties (registry : Registry) (required : List String) :
    List (String × Schema) → List (Field TypeExpr)
  | [] => []
  | (name, property) :: rest =>
    ⟨name, TypeExpr.ofSchema registry property, !required.contains name⟩ ::
      TypeExpr.ofProperties registry required rest

/-- The type of further members. -/
def TypeExpr.ofExtras (registry : Registry) : Extras Schema → Option TypeExpr
  | .schema rule => some (TypeExpr.ofSchema registry rule)
  | _ => none

/-- The types of several schemas. -/
def TypeExpr.ofSchemas (registry : Registry) : List Schema → List TypeExpr
  | [] => []
  | s :: rest => TypeExpr.ofSchema registry s :: TypeExpr.ofSchemas registry rest

end

mutual

/-- The external names that stand in a type, in order. -/
def TypeExpr.externals : TypeExpr → List String
  | .array item => TypeExpr.externals item
  | .object fields index => TypeExpr.externalsInFields fields ++ TypeExpr.externalsInIndex index
  | .union members => TypeExpr.externalsInAll members
  | .intersection members => TypeExpr.externalsInAll members
  | .external name => [name]
  | .nullable inner => TypeExpr.externals inner
  | _ => []

/-- The external names in fields. -/
def TypeExpr.externalsInFields : List (Field TypeExpr) → List String
  | [] => []
  | ⟨_, rule, _⟩ :: rest => TypeExpr.externals rule ++ TypeExpr.externalsInFields rest

/-- The external names in the type of further members. -/
def TypeExpr.externalsInIndex : Option TypeExpr → List String
  | some type => TypeExpr.externals type
  | none => []

/-- The external names in several types. -/
def TypeExpr.externalsInAll : List TypeExpr → List String
  | [] => []
  | t :: rest => TypeExpr.externals t ++ TypeExpr.externalsInAll rest

end

end SchemaCompiler
