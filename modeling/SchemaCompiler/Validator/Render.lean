import SchemaCompiler.Code
import SchemaCompiler.Format
import SchemaCompiler.Text.Affix
import SchemaCompiler.Validator.Basic

/-!
The source text of a validator.

A reference to a schema that is not declared yet is put off with `z.lazy`.  A union with a
discriminator reads its members at once, so it becomes a plain union as soon as one of them is put
off.

* `Scope`: the suffix of schema names and the schemas that are declared so far;
* `Validator.needsLazy`: whether some reference is put off;
* `Validator.render`: the text.
-/

namespace SchemaCompiler

/-- What is known where a validator stands. -/
structure Scope where
  suffix : String
  /-- The schemas declared so far; without a list all are taken as declared. -/
  declared : Option (List String)

namespace Scope

/-- Nothing is declared yet. -/
def start (suffix : String) : Scope := ⟨suffix, some []⟩

/-- Everything is declared. -/
def complete (suffix : String) : Scope := ⟨suffix, none⟩

/-- The scope after a declaration. -/
def declare (scope : Scope) (name : String) : Scope :=
  { scope with declared := scope.declared.map (name :: ·) }

/-- Whether a schema is declared. -/
def isDeclared (scope : Scope) (name : String) : Bool :=
  match scope.declared with
  | none => true
  | some names => names.contains name

/-- The constant that a schema is declared as. -/
def constant (scope : Scope) (name : String) : String := name ++ scope.suffix

end Scope

mutual

/-- Whether a reference in the validator is put off. -/
def Validator.needsLazy (scope : Scope) : Validator → Bool
  | .reference name => !scope.isDeclared name
  | .array item _ => Validator.needsLazy scope item
  | .object fields extras =>
    Validator.fieldsNeedLazy scope fields || Validator.extrasNeedLazy scope extras
  | .union _ members _ _ => Validator.anyNeedsLazy scope members
  | .intersection members _ _ => Validator.anyNeedsLazy scope members
  | .nullable inner => Validator.needsLazy scope inner
  | _ => false

/-- Whether a field needs it. -/
def Validator.fieldsNeedLazy (scope : Scope) : List (Field Validator) → Bool
  | [] => false
  | ⟨_, rule, _⟩ :: rest => Validator.needsLazy scope rule || Validator.fieldsNeedLazy scope rest

/-- Whether the validator of further members needs it. -/
def Validator.extrasNeedLazy (scope : Scope) : Extras Validator → Bool
  | .schema rule => Validator.needsLazy scope rule
  | _ => false

/-- Whether one of several validators needs it. -/
def Validator.anyNeedsLazy (scope : Scope) : List Validator → Bool
  | [] => false
  | v :: rest => Validator.needsLazy scope v || Validator.anyNeedsLazy scope rest

end

/-! ### Calls -/

/-- A call with a bound, if there is one. -/
def Code.boundCall (method : String) (bound : Option Nat) : String :=
  match bound with
  | some n => Code.call method (toString n)
  | none => ""

/-- A call with a number, if there is one. -/
def Code.numberCall (method : String) (number : Option Json.Number) : String :=
  match number with
  | some n => Code.call method n.text
  | none => ""

/-- A format that has no check is carried along as a remark. -/
def Code.formatRemark (format : String) : String :=
  ".openapi(\x7b format: " ++ Json.quote format ++ " \x7d)"

/-- The call of a format's check, and the remark if the check does not imply the format's name. -/
def Code.formatCalls (format : Option String) : String × String :=
  match format with
  | none => ("", "")
  | some name =>
    match Format.ofName? name with
    | none => ("", Code.formatRemark name)
    | some check => (check.method, if check.name = name then "" else Code.formatRemark name)

/-- The text of a string validator. -/
def StringChecks.render (checks : StringChecks) : String :=
  let (check, remark) := Code.formatCalls checks.format
  let pattern := match checks.pattern with
    | some pattern => ".regex(new RegExp(" ++ Json.quote pattern ++ "))"
    | none => ""
  "z.string()" ++ check ++ Code.boundCall "min" checks.minLength ++
    Code.boundCall "max" checks.maxLength ++ pattern ++ remark

/-- The text of a number validator. -/
def NumberChecks.render (checks : NumberChecks) : String :=
  "z.number()" ++ (if checks.integer then ".int()" else "") ++
    Code.numberCall (if checks.exclusiveMinimum then "gt" else "gte") checks.minimum ++
    Code.numberCall (if checks.exclusiveMaximum then "lt" else "lte") checks.maximum ++
    Code.numberCall "multipleOf" checks.multipleOf ++
    match checks.format with
    | some name => Code.formatRemark name
    | none => ""

/-! ### Validators -/

mutual

/-- The text of a validator at a level. -/
def Validator.renderAt (scope : Scope) (level : Nat) : Validator → String
  | .string checks => checks.render
  | .number checks => checks.render
  | .boolean => "z.boolean()"
  | .null => "z.null()"
  | .unknown => "z.unknown()"
  | .strings listed _ => "z.enum([" ++ Text.join ", " (listed.values.map Json.quote) ++ "])"
  | .numbers listed _ =>
    match listed.values with
    | [value] => "z.literal(" ++ value.text ++ ")"
    | values =>
      "z.union([" ++ Text.join ", " (values.map fun v => "z.literal(" ++ v.text ++ ")") ++ "])"
  | .array item bounds =>
    "z.array(" ++ Validator.renderAt scope level item ++ ")" ++
      Code.boundCall "min" bounds.minItems ++ Code.boundCall "max" bounds.maxItems
  | .object fields extras =>
    (if fields.isEmpty then "z.object(\x7b\x7d)"
      else "z.object(" ++ Code.braced level (Validator.renderFields scope (level + 1) fields) ++ ")") ++
      Validator.renderExtras scope level extras
  | .union _ members discriminator _ =>
    match Validator.renderAll scope level members with
    | [text] => text
    | texts =>
      let list := "[" ++ Text.join ", " texts ++ "]"
      match discriminator with
      | some d =>
        if Validator.anyNeedsLazy scope members then "z.union(" ++ list ++ ")"
        else "z.discriminatedUnion(" ++ Json.quote d.property ++ ", " ++ list ++ ")"
      | none => "z.union(" ++ list ++ ")"
  | .intersection members _ _ =>
    match Validator.renderAll scope level members with
    | [] => "z.unknown()"
    | first :: rest =>
      rest.foldl (fun left right => "z.intersection(" ++ left ++ ", " ++ right ++ ")") first
  | .reference name =>
    if scope.isDeclared name then scope.constant name
    else "z.lazy(() => " ++ scope.constant name ++ ")"
  | .external name _ => name
  | .nullable inner => Validator.renderAt scope level inner ++ ".nullable()"

/-- A line for each field. -/
def Validator.renderFields (scope : Scope) (level : Nat) : List (Field Validator) → List String
  | [] => []
  | ⟨name, rule, isOptional⟩ :: rest =>
    (Code.indentation level ++ Text.propertyKey name ++ ": " ++ Validator.renderAt scope level rule ++
      (if isOptional then ".optional()" else "") ++ ",\n") ::
      Validator.renderFields scope level rest

/-- The call for further members. -/
def Validator.renderExtras (scope : Scope) (level : Nat) : Extras Validator → String
  | .unspecified => ""
  | .allow => ".passthrough()"
  | .forbid => ".strict()"
  | .schema rule => Code.call "catchall" (Validator.renderAt scope level rule)

/-- The texts of several validators. -/
def Validator.renderAll (scope : Scope) (level : Nat) : List Validator → List String
  | [] => []
  | v :: rest => Validator.renderAt scope level v :: Validator.renderAll scope level rest

end

/-- The text of a validator. -/
def Validator.render (scope : Scope) (v : Validator) : String := v.renderAt scope 0

end SchemaCompiler
