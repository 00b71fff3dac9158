import SchemaCompiler.Registry
import SchemaCompiler.Schema.Basic

/-!
Validators: schemas in the terms of the validation library that code is generated for.

A validator keeps everything that its schema says, so that the schema can be read off it again.
References are never followed, and `null` is admitted last, around the finished validator.

* `Validator`: the expressions;
* `Registry.external?`: the external name that a kind of schema is replaced by;
* `Validator.ofSchema`: the validator of a schema under a registry;
* `Registry.used`: the external names that a schema brings into the output;
* `Validator.externals`: the external names that stand in a validator.
-/

namespace SchemaCompiler

/-- A named part of an object expression. -/
structure Field (α : Type) where
  name : String
  rule : α
  optional : Bool

/-- A validator expression. -/
inductive Validator where
  | string (checks : StringChecks)
  | number (checks : NumberChecks)
  | boolean
  | null
  | unknown
  /-- One of some strings.  The checks are dominated and take no part in validation. -/
  | strings (listed : Enumeration String) (checks : StringChecks)
  /-- One of some numbers.  The checks are dominated and take no part in validation. -/
  | numbers (listed : Enumeration Json.Number) (checks : NumberChecks)
  | array (item : Validator) (bounds : ItemBounds)
  | object (fields : List (Field Validator)) (extras : Extras Validator)
  | union (keyword : UnionKeyword) (members : List Validator)
      (discriminator : Option Discriminator) (objectTyped : Bool)
  /-- `inlined`: the last member is the object whose keywords stood beside the members. -/
  | intersection (members : List Validator) (inlined objectTyped : Bool)
  | reference (name : String)
  /-- A name that is defined elsewhere, in place of a base validator, which is the one to use for
  validation. -/
  | external (name : String) (base : Validator)
  | nullable (inner : Validator)

instance : Inhabited Validator := ⟨.unknown⟩

/-- The external name for a kind of schema: of its format for a string, of its primitive for a
number or truth value.  A list of allowed values is never replaced. -/
def Registry.external? (registry : Registry) : SchemaKind → Option String
  | .string ⟨checks, none⟩ => checks.format.bind fun format => registry.lookup? (.format format)
  | .number ⟨checks, none⟩ => registry.lookup? (if checks.integer then .integer else .number)
  | .boolean => registry.lookup? .boolean
  | _ => none

/-- A validator, or the external name that replaces it. -/
def Validator.orExternal (base : Validator) : Option String → Validator
  | some name => external name base
  | none => base

/-- A validator, with `null` admitted if need be. -/
def Validator.orNull (base : Validator) (admitsNull : Bool) : Validator :=
  if admitsNull then .nullable base else base

mutual

/-- The validator of a schema. -/
def Validator.ofSchema (registry : Registry) : Schema → Validator
  | .mk kind admitsNull => (Validator.ofKind registry kind).orNull admitsNull

/-- The validator of a kind. -/
def Validator.ofKind (registry : Registry) : SchemaKind → Validator
  | .string ⟨checks, none⟩ =>
    (Validator.string checks).orExternal (registry.external? (.string ⟨checks, none⟩))
  | .string ⟨checks, some listed⟩ => .strings listed checks
  | .number ⟨checks, none⟩ =>
    (Validator.number checks).orExternal (registry.external? (.number ⟨checks, none⟩))
  | .number ⟨checks, some listed⟩ => .numbers listed checks
  | .boolean => Validator.boolean.orExternal (registry.external? .boolean)
  | .null => .null
  | .any => .unknown
  | .array items bounds => .array (Validator.ofSchema registry items) bounds
  | .object rules => Validator.ofRules registry rules
  | .union keyword members discriminator objectTyped =>
    .union keyword (Validator.ofSchemas registry members) discriminator objectTyped
  | .intersection members none objectTyped =>
    .intersection (Validator.ofSchemas registry members) false objectTyped
  | .intersection members (some rules) objectTyped =>
    .intersection (Validator.ofSchemas registry members ++ [Validator.ofRules registry rules]) true
      objectTyped
  | .reference name => .reference name

/-- The validator of the rules of an object. -/
def Validator.ofRules (registry : Registry) : ObjectRules Schema → Validator
  | ⟨properties, required, extras⟩ =>
    .object (Validator.ofProperties registry required properties)
      (Validator.ofExtras registry extras)

/-- The fields of named properties; those that are not required are optional. -/
def Validator.ofProperties (registry : Registry) (required : List String) :
    List (String × Schema) → List (Field Validator)
  | [] => []
  | (name, property) :: rest =>
    ⟨name, Validator.ofSchema registry property, !required.contains name⟩ ::
      Validator.ofProperties registry required rest

/-- The validator of further members. -/
def Validator.ofExtras (registry : Registry) : Extras Schema → Extras Validator
  | .unspecified => .unspecified
  | .allow => .allow
  | .forbid => .forbid
  | .schema rule => .schema (Validator.ofSchema registry rule)

/-- The validators of several schemas. -/
def Validator.ofSchemas (registry : Registry) : List Schema → List Validator
  | [] => []
  | s :: rest => Validator.ofSchema registry s :: Validator.ofSchemas registry rest

end

/-! ### External names -/

mutual

/-- The external names that a schema brings into the output, as often as it does. -/
def Registry.used (registry : Registry) : Schema → List String
  | .mk kind _ => (registry.external? kind).toList ++ Registry.usedInside registry kind

/-- The external names for the schemas inside a kind. -/
def Registry.usedInside (registry : Registry) : SchemaKind → List String
  | .array items _ => Registry.used registry items
  | .object rules => Registry.usedInRules registry rules
  | .union _ members _ _ => Registry.usedInAll registry members
  | .intersection members inline _ =>
    Registry.usedInAll registry members ++ Registry.usedInline registry inline
  | _ => []

/-- The external names for the rules that there may be. -/
def Registry.usedInline (registry : Registry) : Option (ObjectRules Schema) → List String
  | none => []
  | some rules => Registry.usedInRules registry rules

/-- The external names for the rules of an object. -/
def Registry.usedInRules (registry : Registry) : ObjectRules Schema → List String
  | ⟨properties, _, extras⟩ =>
    Registry.usedInProperties registry properties ++ Registry.usedInExtras registry extras

/-- The external names for named properties. -/
def Registry.usedInProperties (registry : Registry) : List (String × Schema) → List String
  | [] => []
  | (_, property) :: rest =>
    Registry.used registry property ++ Registry.usedInProperties registry rest

/-- The external names for further members. -/
def Registry.usedInExtras (registry : Registry) : Extras Schema → List String
  | .schema rule => Registry.used registry rule
  | _ => []

/-- The external names for several schemas. -/
def Registry.usedInAll (registry : Registry) : List Schema → List String
  | [] => []
  | s :: rest => Registry.used registry s ++ Registry.usedInAll registry rest

end

mutual

/-- The external names that stand in a validator, in order. -/
def Validator.externals : Validator → List String
  | .array item _ => Validator.externals item
  | .object fields extras => Validator.externalsInFields fields ++ Validator.externalsInExtras extras
  | .union _ members _ _ => Validator.externalsInAll members
  | .intersection members _ _ => Validator.externalsInAll members
  | .external name _ => [name]
  | .nullable inner => Validator.externals inner
  | _ => []

/-- The external names in fields. -/
def Validator.externalsInFields : List (Field Validator) → List String
  | [] => []
  | ⟨_, rule, _⟩ :: rest => Validator.externals rule ++ Validator.externalsInFields rest

/-- The external names in the validator of further members. -/
def Validator.externalsInExtras : Extras Validator → List String
  | .schema rule => Validator.externals rule
  | _ => []

/-- The external names in several validators. -/
def Validator.externalsInAll : List Validator → List String
  | [] => []
  | v :: rest => Validator.externals v ++ Validator.externalsInAll rest

end

end SchemaCompiler
