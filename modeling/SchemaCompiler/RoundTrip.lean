import SchemaCompiler.Compilation
import SchemaCompiler.Json.Decoder
import SchemaCompiler.Recording
import SchemaCompiler.Shape
import SchemaCompiler.Validator.Evaluation
import SchemaCompiler.Validator.Schema

/-!
Verification of compiled components against their examples.

A component with examples is checked as a whole: its validator accepts and rejects what it should,
stands for the fragment that was written, and agrees with the type in shape and external names.

* `Examples`: the examples of a component;
* `normalize`: a fragment as it was written, in the form that a validator stands for;
* `Mismatch`, `RoundTripFailure`: what can be found;
* `Compilation.verify`: the report on all components with examples.
-/

namespace SchemaCompiler

/-! ### Examples -/

/-- Values that a component must accept, and values that it must reject. -/
structure Examples where
  valid : List Json
  invalid : List Json

/-- The examples in an extension of a fragment. -/
def Examples.decoder : Json.Decoder Examples :=
  .closedRecord "Fixtures"
    [Json.Decoder.defaulted "valid" (.list .json) fun valid e => { e with valid },
      Json.Decoder.defaulted "invalid" (.list .json) fun invalid e => { e with invalid }]
    ⟨[], []⟩

/-! ### Normal fragments -/

/-- Keywords that mean the same whether they are `false` or missing. -/
def falseKeywords : List String :=
  ["nullable", "exclusiveMinimum", "exclusiveMaximum", "uniqueItems"]

/-- Whether a member of a fragment is part of the normal form. -/
def isNormalMember : String × Json → Bool
  | (keyword, .bool false) =>
    !isExtension keyword && !annotations.contains keyword && !falseKeywords.contains keyword
  | (keyword, _) => !isExtension keyword && !annotations.contains keyword

/-- The type that a fragment implies and does not declare. -/
def impliedType (keywords : List (String × Json)) : List (String × Json) :=
  if Keywords.hasAny keywords ["$ref", "oneOf", "anyOf", "allOf", "type"] then []
  else ((inferType keywords).map fun type => ("type", .string type.text)).toList

/-- A reference with its name renamed, written as references are. -/
def normalizeReference (f : Renaming) (reference : Json) : Json :=
  match Reference.ofJson? reference with
  | .ok name => .string (Reference.ofName (f.apply name))
  | .error _ => reference

/-- A discriminator with the targets of its mapping renamed. -/
def normalizeDiscriminator (f : Renaming) (members : List (String × Json)) : Json :=
  .object (members.map fun
    | ("mapping", .object targets) =>
      let renamed := Table.mapValues (fun
        | .string target => .string (renameTarget f target)
        | other => other) targets
      ("mapping", .object renamed)
    | other => other)

mutual

/-- A fragment without annotations, extensions and flags that are not set, with an implied type
spelled out and references renamed. -/
def normalize (f : Renaming) : Json → Json
  | .object members => .object (normalizeMembers f members ++ impliedType members)
  | other => other

/-- The members of a fragment that are part of the normal form. -/
def normalizeMembers (f : Renaming) : List (String × Json) → List (String × Json)
  | [] => []
  | (keyword, value) :: rest =>
    if isNormalMember (keyword, value) then
      (keyword, normalizeValue f keyword value) :: normalizeMembers f rest
    else normalizeMembers f rest

/-- The value of a keyword. -/
def normalizeValue (f : Renaming) (keyword : String) (value : Json) : Json :=
  match keyword, value with
  | "$ref", reference => normalizeReference f reference
  | "items", s => normalize f s
  | "additionalProperties", s => normalize f s
  | "properties", .object properties => .object (normalizeProperties f properties)
  | "oneOf", .array members => .array (normalizeAll f members)
  | "anyOf", .array members => .array (normalizeAll f members)
  | "allOf", .array members => .array (normalizeAll f members)
  | "discriminator", .object members => normalizeDiscriminator f members
  | _, other => other

/-- Named fragments. -/
def normalizeProperties (f : Renaming) : List (String × Json) → List (String × Json)
  | [] => []
  | (name, s) :: rest => (name, normalize f s) :: normalizeProperties f rest

/-- Several fragments. -/
def normalizeAll (f : Renaming) : List Json → List Json
  | [] => []
  | s :: rest => normalize f s :: normalizeAll f rest

end

/-! ### Findings -/

/-- A set of names in braces. -/
def nameSet (names : List String) : String :=
  "\x7b" ++ Text.join ", " (names.map Text.visible) ++ "\x7d"

/-- How a component can fail to match its validator and type. -/
inductive Mismatch where
  | noEntry (name : String)
  | noValidator
  | noType
  | malformedExamples (keyword : String) (cause : Json.DecodeCause)
  | rejected (index : Nat) (issue : Issue)
  | accepted (index : Nat)
  | otherFragment (found expected : Canonical)
  | otherShape (validator type : Json)
  | otherExternals (validator type : List String)

/-- The wording of a mismatch. -/
def Mismatch.message : Mismatch → String
  | noEntry name => s!"'{name}' is not in the component table"
  | noValidator => "no validator was compiled"
  | noType => "no type was compiled"
  | malformedExamples keyword cause => s!"malformed {keyword}: {cause.message}"
  | rejected index issue =>
    s!"valid example #{index} was rejected: {issue.path}: {issue.kind.message}"
  | accepted index => s!"invalid example #{index} was accepted"
  | otherFragment found expected =>
    s!"decompiled to {found.text} ({found.digest}), expected {expected.text} ({expected.digest})"
  | otherShape validator type =>
    s!"validator shape {validator.text} differs from type shape {type.text}"
  | otherExternals validator type =>
    s!"validator aliases {nameSet validator} differ from type aliases {nameSet type}"

/-- Why the verification of a component fails. -/
inductive RoundTripFailure where
  | mismatch (component : String) (detail : Mismatch)
  | compile (error : CompileError)

/-- The wording of a failure. -/
def RoundTripFailure.message : RoundTripFailure → String
  | mismatch component detail => s!"round trip mismatch for '{component}': {detail.message}"
  | compile error => error.message

/-- The components that were verified, and the failures. -/
structure RoundTripReport where
  checked : List String
  failures : List RoundTripFailure

/-- Whether nothing failed. -/
def RoundTripReport.isSuccess (report : RoundTripReport) : Bool := report.failures.isEmpty

/-! ### Verification -/

/-- The first valid example that is rejected, or else the first invalid one that is accepted. -/
def Examples.mismatch? (examples : Examples) (store : Validator.Store) (v : Validator) :
    Option Mismatch :=
  let rejected := examples.valid.zipIdx.findSome? fun (value, i) =>
    (v.issue? store value).map (.rejected i ·)
  let accepted := examples.invalid.zipIdx.findSome? fun (value, i) =>
    if (v.issue? store value).isNone then some (.accepted i) else none
  rejected.or accepted

namespace Compilation

/-- The renaming of the components that do not go by their own name. -/
def canonicalRenaming (compilation : Compilation) : Renaming := fun name =>
  let canonical := compilation.canonicalName name
  if canonical = name then none else some canonical

/-- A value, or a mismatch of a component if there is none. -/
def orMismatch {α : Type} (component : String) (detail : Mismatch) (value : Option α) :
    Except RoundTripFailure α :=
  match value with
  | some value => .ok value
  | none => .error (.mismatch component detail)

/-- Fails with a mismatch of a component if a condition does not hold. -/
def require (component : String) (condition : Bool) (detail : Mismatch) :
    Except RoundTripFailure Unit :=
  if condition then .ok () else .error (.mismatch component detail)

/-- The canonical form of a fragment. -/
def canonicalForm (fragment : Json) : Except RoundTripFailure Canonical :=
  (Canonical.ofJson fragment).mapError fun cause => .compile (.canonicalization cause)

/-- Verifies a component against its examples. -/
def verifyComponent (compilation : Compilation) (registry : Registry) (options : Options)
    (component : String) (fragment examples : Json) : Except RoundTripFailure Unit := do
  let name := compilation.canonicalName component
  let s ← orMismatch component (.noEntry name) (Table.get? compilation.table name)
  let v ← orMismatch component .noValidator (compilation.validators.get? name)
  let type ← orMismatch component .noType (Table.get? compilation.types name)
  let examples ← (Examples.decoder 0 (.ofJson examples)).mapError fun error =>
    .mismatch component (.malformedExamples options.examplesKeyword error.cause)
  match examples.mismatch? compilation.validators v with
  | some detail => throw (.mismatch component detail)
  | none => do
    let expected ← canonicalForm (normalize compilation.canonicalRenaming fragment)
    let found ← canonicalForm v.fragment
    require component (found = expected) (.otherFragment found expected)
    require component (v.shape.same type.shape) (.otherShape v.shape type.shape)
    let ofValidator := (Validator.compile registry s).names
    let ofType := (TypeExpr.compile registry s).names
    require component (ofValidator = ofType) (.otherExternals ofValidator ofType)

/-- Verifies the components of a document that have examples. -/
def verify (compilation : Compilation) (document : Document) (registry : Registry)
    (options : Options) : RoundTripReport :=
  let withExamples := document.components.schemas.filterMap fun (name, fragment) =>
    (fragment.get? options.examplesKeyword).map fun examples => (name, fragment, examples)
  { checked := withExamples.map Prod.fst
    failures := withExamples.filterMap fun (name, fragment, examples) =>
      match compilation.verifyComponent registry options name fragment examples with
      | .ok _ => none
      | .error failure => some failure }

end Compilation

end SchemaCompiler
