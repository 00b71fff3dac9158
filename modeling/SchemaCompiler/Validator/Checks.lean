import SchemaCompiler.Format.Check
import SchemaCompiler.Pattern.Modes
import SchemaCompiler.Schema.Basic
import SchemaCompiler.Text.Units
import SchemaCompiler.Validator.Issue

/-!
The checks of strings, numbers and lengths of arrays.

Bounds are compared as doubles, and so are allowed numbers.

* `StringChecks.issue?`, `NumberChecks.issue?`, `ItemBounds.issue?`: the first check that fails;
* `Json.Number.isMultipleOf`: divisibility, exact for integers and up to a tolerance for doubles.
-/

namespace SchemaCompiler

/-- The first of some checks that fails. -/
def firstIssue (checks : List (Option IssueKind)) : Option IssueKind := checks.findSome? id

/-- What is wrong if a condition holds. -/
def issueIf (condition : Bool) (kind : IssueKind) : Option IssueKind :=
  if condition then some kind else none

/-! ### Strings -/

/-- The format of a string, if it has a check that fails. -/
def formatIssue? (format text : String) : Option IssueKind :=
  (Format.ofName? format).bind fun known =>
    issueIf (!known.accepts text) (.invalidFormat format)

/-- The pattern of a string, if it does not occur or cannot be read. -/
def patternIssue? (pattern text : String) : Option IssueKind :=
  match Pattern.ofText pattern with
  | .ok parsed => issueIf (!parsed.occursIn text) (.patternMismatch pattern)
  | .error reason => some (.invalidPattern pattern reason)

/-- The first check of a string that fails.  Its length counts UTF-16 code units. -/
def StringChecks.issue? (checks : StringChecks) (text : String) : Option IssueKind :=
  let length := Text.unitCount text
  firstIssue [
    checks.minLength.bind fun least => issueIf (length < least) (.tooShort least),
    checks.maxLength.bind fun most => issueIf (most < length) (.tooLong most),
    checks.format.bind (formatIssue? · text),
    checks.pattern.bind (patternIssue? · text)]

/-! ### Numbers -/

namespace Json.Number

/-- How far from a whole number a quotient can be, in steps of doubles: a billionth. -/
def tolerance : Nat := ((Double.nearest false Double.one 1000000000).map Double.steps).getD 0

/-- Whether a number is a multiple of another one.  That of two integers is worked out exactly, and
otherwise the quotient as a double is nearly whole. -/
def isMultipleOf (n divisor : Json.Number) : Bool :=
  match n.signed?, divisor.signed? with
  | some a, some b =>
    if b = 0 then false else a % b == 0
  | _, _ =>
    match n.toDouble.div divisor.toDouble with
    | some quotient => decide (quotient.offWhole < tolerance)
    | none => false

end Json.Number

/-- The first check of a number that fails. -/
def NumberChecks.issue? (checks : NumberChecks) (n : Json.Number) : Option IssueKind :=
  firstIssue [
    issueIf (checks.integer && !n.isWhole) .notInteger,
    checks.minimum.bind fun bound =>
      if checks.exclusiveMinimum then issueIf (!bound.less n) (.outOfRange .greater bound)
      else issueIf (n.less bound) (.outOfRange .atLeast bound),
    checks.maximum.bind fun bound =>
      if checks.exclusiveMaximum then issueIf (!n.less bound) (.outOfRange .less bound)
      else issueIf (bound.less n) (.outOfRange .atMost bound),
    checks.multipleOf.bind fun divisor => issueIf (!n.isMultipleOf divisor) (.notMultipleOf divisor)]

/-! ### Arrays -/

/-- The bound that a number of items is outside of. -/
def ItemBounds.issue? (bounds : ItemBounds) (count : Nat) : Option IssueKind :=
  firstIssue [
    bounds.minItems.bind fun least => issueIf (count < least) (.tooFewItems least),
    bounds.maxItems.bind fun most => issueIf (most < count) (.tooManyItems most)]

end SchemaCompiler
