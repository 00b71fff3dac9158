import SchemaCompiler.Text.Sorted
import SchemaCompiler.TypeExpr.Basic

/-!
Compilation with a record of the external names that go into the output.

Validators and types are compiled one apart from the other, each with a record of its own.  The two
look external names up in different ways: a validator is compiled first and then replaced, a type is
not compiled if there is a name for it.

* `Recorder`: results with the names that are recorded on the way;
* `Validator.compile`, `TypeExpr.compile`: the compilers;
* `Recorder.result`, `Recorder.names`: what a compiler gives, and the names that it has recorded, each
  once and in order.
-/

namespace SchemaCompiler

/-- A result with the external names that have been recorded, which are kept in order. -/
abbrev Recorder (α : Type) := StateM (List String) α

namespace Recorder

/-- Names that are kept in order, with one more. -/
def insert (names : List String) (name : String) : List String := Text.sortedSet (names ++ [name])

/-- Records a name if there is one, and gives it back. -/
def record (name : Option String) : Recorder (Option String) := do
  match name with
  | some name => modify (insert · name)
  | none => pure ()
  return name

/-- The result when nothing has been recorded before. -/
def result {α : Type} (recorder : Recorder α) : α := (recorder.run []).1

/-- The names that are recorded when nothing has been recorded before. -/
def names {α : Type} (recorder : Recorder α) : List String := (recorder.run []).2

end Recorder

/-! ### Validators -/

/-- The external name for a validator of a kind: each primitive is looked up on its own. -/
def Registry.validatorName? (registry : Registry) : SchemaKind → Option String
  | .string ⟨⟨some format, _, _, _⟩, none⟩ => registry.lookup? (.format format)
  | .number ⟨⟨true, _, _, _, _, _, _⟩, none⟩ => registry.lookup? .integer
  | .number ⟨⟨false, _, _, _, _, _, _⟩, none⟩ => registry.lookup? .number
  | .boolean => registry.lookup? .boolean
  | _ => none

mutual

/-- Compiles a schema to a validator.  A name is recorded when the validator is there already. -/
def Validator.compile (registry : Registry) : Schema → Recorder Validator
  | .mk kind admitsNull => do
    let base ← Validator.compileKind registry kind
    let name ← Recorder.record (registry.validatorName? kind)
    return (base.orExternal name).orNull admitsNull

/-- Compiles a kind to the validator that an external name can replace. -/
def Validator.compileKind (registry : Registry) : SchemaKind → Recorder Validator
  | .string ⟨checks, none⟩ => return .string checks
  | .string ⟨checks, some listed⟩ => return .strings listed checks
  | .number ⟨checks, none⟩ => return .number checks
  | .number ⟨checks, some listed⟩ => return .numbers listed checks
  | .boolean => return .boolean
  | .null => return .null
  | .any => return .unknown
  | .array items bounds => return .array (← Validator.compile registry items) bounds
  | .object rules => Validator.compileRules registry rules
  | .union keyword members discriminator objectTyped =>
    return .union keyword (← Validator.compileAll registry members) discriminator objectTyped
  | .intersection members inline objectTyped => do
    let members ← Validator.compileAll registry members
    let beside ← Validator.compileInline registry inline
    return .intersection (members ++ beside) inline.isSome objectTyped
  | .reference name => return .reference name

/-- Compiles the rules that there may be beside the members of an intersection. -/
def Validator.compileInline (registry : Registry) :
    Option (ObjectRules Schema) → Recorder (List Validator)
  | none => return []
  | some rules => return [← Validator.compileRules registry rules]

/-- Compiles the rules of an object. -/
def Validator.compileRules (registry : Registry) : ObjectRules Schema → Recorder Validator
  | ⟨properties, required, extras⟩ => do
    let fields ← Validator.compileProperties registry required properties
    return .object fields (← Validator.compileExtras registry extras)

/-- Compiles named properties. -/
def Validator.compileProperties (registry : Registry) (required : List String) :
    List (String × Schema) → Recorder (List (Field Validator))
  | [] => return []
  | (name, property) :: rest => do
    let rule ← Validator.compile registry property
    return ⟨name, rule, !required.contains name⟩ ::
      (← Validator.compileProperties registry required rest)

/-- Compiles the rule for further members. -/
def Validator.compileExtras (registry : Registry) : Extras Schema → Recorder (Extras Validator)
  | .unspecified => return .unspecified
  | .allow => return .allow
  | .forbid => return .forbid
  | .schema rule => return .schema (← Validator.compile registry rule)

/-- Compiles several schemas. -/
def Validator.compileAll (registry : Registry) : List Schema → Recorder (List Validator)
  | [] => return []
  | s :: rest => do
    let first ← Validator.compile registry s
    return first :: (← Validator.compileAll registry rest)

end

/-! ### Types -/

/-- What the external name for a type of a kind is registered for. -/
def SchemaKind.registryKey? : SchemaKind → Option RegistryKey
  | .string ⟨⟨some format, _, _, _⟩, none⟩ => some (.format format)
  | .number ⟨checks, none⟩ => some (if checks.integer then .integer else .number)
  | .boolean => some .boolean
  | _ => none

/-- The external name for a type of a kind. -/
def Registry.typeName? (registry : Registry) (kind : SchemaKind) : Option String :=
  kind.registryKey?.bind registry.lookup?

mutual

/-- Compiles a schema to a type.  Where there is a name, nothing else is compiled. -/
def TypeExpr.compile (registry : Registry) : Schema → Recorder TypeExpr
  | .mk kind admitsNull => do
    match ← Recorder.record (registry.typeName? kind) with
    | some name => return (TypeExpr.external name).orNull admitsNull
    | none => return (← TypeExpr.compileKind registry kind).orNull admitsNull

/-- Compiles a kind that no name replaces. -/
def TypeExpr.compileKind (registry : Registry) : SchemaKind → Recorder TypeExpr
  | .string ⟨_, none⟩ => return .string
  | .string ⟨_, some listed⟩ => return .strings listed.values
  | .number ⟨_, none⟩ => return .number
  | .number ⟨_, some listed⟩ => return .numbers listed.values
  | .boolean => return .boolean
  | .null => return .null
  | .any => return .unknown
  | .array items _ => return .array (← TypeExpr.compile registry items)
  | .object rules => TypeExpr.compileRules registry rules
  | .union _ members _ _ => return TypeExpr.unionOf (← TypeExpr.compileAll registry members)
  | .intersection members inline _ => do
    let members ← TypeExpr.compileAll registry members
    return TypeExpr.intersectionOf (members ++ (← TypeExpr.compileInline registry inline))
  | .reference name => return .reference name

/-- Compiles the rules that there may be beside the members of an intersection. -/
def TypeExpr.compileInline (registry : Registry) :
    Option (ObjectRules Schema) → Recorder (List TypeExpr)
  | none => return []
  | some rules => return [← TypeExpr.compileRules registry rules]

/-- Compiles the rules of an object. -/
def TypeExpr.compileRules (registry : Registry) : ObjectRules Schema → Recorder TypeExpr
  | ⟨properties, required, extras⟩ => do
    let fields ← TypeExpr.compileProperties registry required properties
    return .object fields (← TypeExpr.compileExtras registry extras)

/-- Compiles named properties. -/
def TypeExpr.compileProperties (registry : Registry) (required : List String) :
    List (String × Schema) → Recorder (List (Field TypeExpr))
  | [] => return []
  | (name, property) :: rest => do
    let rule ← TypeExpr.compile registry property
    return ⟨name, rule, !required.contains name⟩ ::
      (← TypeExpr.compileProperties registry required rest)

/-- Compiles the rule for further members. -/
def TypeExpr.compileExtras (registry : Registry) : Extras Schema → Recorder (Option TypeExpr)
  | .schema rule => return some (← TypeExpr.compile registry rule)
  | _ => return none

/-- Compiles several schemas. -/
def TypeExpr.compileAll (registry : Registry) : List Schema → Recorder (List TypeExpr)
  | [] => return []
  | s :: rest => do
    let first ← TypeExpr.compile registry s
    return first :: (← TypeExpr.compileAll registry rest)

end

end SchemaCompiler
