import SchemaCompiler.Json.Value

/-!
What validation finds wrong with a value.

* `Step`: the way from a value to one directly inside it;
* `IssueKind`: what can be wrong, with its wording in `IssueKind.message`;
* `Issue`: a kind and the steps to the value that it is about;
* `Issue.path`: these steps as text.
-/

namespace SchemaCompiler

/-- The way from a value to one directly inside it. -/
inductive Step where
  | field (name : String)
  | item (index : Nat)
  deriving DecidableEq, Repr

/-- A step as text. -/
def Step.text : Step → String
  | field name => "." ++ name
  | item index => s!"[{index}]"

/-- How a number has to compare with a bound. -/
inductive Comparison where
  | less
  | atMost
  | greater
  | atLeast
  deriving DecidableEq, Repr

/-- A comparison in words. -/
def Comparison.text : Comparison → String
  | less => "less than"
  | atMost => "less than or equal to"
  | greater => "greater than"
  | atLeast => "greater than or equal to"

/-- What can be wrong with a value. -/
inductive IssueKind where
  | invalidType (expected found : String)
  | tooShort (least : Nat)
  | tooLong (most : Nat)
  | patternMismatch (pattern : String)
  | invalidPattern (pattern reason : String)
  | invalidFormat (format : String)
  | notAllowed
  | notInteger
  | outOfRange (comparison : Comparison) (bound : Json.Number)
  | notMultipleOf (divisor : Json.Number)
  | tooFewItems (least : Nat)
  | tooManyItems (most : Nat)
  | missingProperty (name : String)
  | unexpectedProperty (name : String)
  | noMatchingMember
  | unknownDiscriminator (property : String)
  | unknownSchema (name : String)
  | cyclicReference (name : String)
  deriving DecidableEq

/-- The wording of an issue. -/
def IssueKind.message : IssueKind → String
  | invalidType expected found => s!"expected {expected}, found {found}"
  | tooShort least => s!"must contain at least {least} characters"
  | tooLong most => s!"must contain at most {most} characters"
  | patternMismatch pattern => s!"does not match pattern {pattern}"
  | invalidPattern pattern reason => s!"pattern {pattern} cannot be evaluated: {reason}"
  | invalidFormat format => s!"is not a valid {format}"
  | notAllowed => "is not one of the allowed values"
  | notInteger => "must be an integer"
  | outOfRange comparison bound => s!"must be {comparison.text} {bound.text}"
  | notMultipleOf divisor => s!"must be a multiple of {divisor.text}"
  | tooFewItems least => s!"must contain at least {least} items"
  | tooManyItems most => s!"must contain at most {most} items"
  | missingProperty name => s!"missing required property '{name}'"
  | unexpectedProperty name => s!"unexpected property '{name}'"
  | noMatchingMember => "does not match any union member"
  | unknownDiscriminator property => s!"discriminator '{property}' does not select a union member"
  | unknownSchema name => s!"references unknown schema '{name}'"
  | cyclicReference name =>
    s!"reference cycle through '{name}' never reaches a concrete validator"

/-- An issue with the value that some steps lead to. -/
structure Issue where
  steps : List Step
  kind : IssueKind
  deriving DecidableEq

namespace Issue

/-- An issue with the value itself. -/
def here (kind : IssueKind) : Issue := ⟨[], kind⟩

/-- The issue as one of the value that a step was taken from. -/
def within (step : Step) (issue : Issue) : Issue := ⟨step :: issue.steps, issue.kind⟩

/-- The steps from the whole value, which is written `$`. -/
def path (issue : Issue) : String := "$" ++ String.join (issue.steps.map Step.text)

/-- A value of another type than the expected one. -/
def wrongType (expected : String) (found : Json) : Issue :=
  here (.invalidType expected found.kindName)

end Issue

end SchemaCompiler
