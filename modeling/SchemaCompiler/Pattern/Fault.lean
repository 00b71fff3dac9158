import SchemaCompiler.Text.Affix

/-!
Faults in the text of a pattern, and how they are reported.

* `Pattern.Span`: a part of the text of a pattern;
* `Pattern.FaultKind`: what can be wrong, with its wording in `FaultKind.message`;
* `Pattern.Fault.report`: the pattern with its faulty parts marked, and the wording of the fault.
-/

namespace SchemaCompiler.Pattern

/-- A place in the text of a pattern: the number of characters before it, its line and its column,
both counted from one. -/
structure Place where
  offset : Nat
  line : Nat
  column : Nat
  deriving DecidableEq, Repr

/-- A part of the text of a pattern. -/
structure Span where
  start : Place
  stop : Place
  deriving DecidableEq, Repr

/-- The empty part at a place. -/
def Span.at (place : Place) : Span := ⟨place, place⟩

/-- How deep groups, repetitions, rows and classes may be nested in a pattern. -/
def nestLimit : Nat := 250

/-- What can be wrong with the text of a pattern. -/
inductive FaultKind where
  | classEscapeInvalid
  | classRangeInvalid
  | classRangeLiteral
  | classUnclosed
  | decimalEmpty
  | decimalInvalid
  | escapeHexEmpty
  | escapeHexInvalid
  | escapeHexDigit
  | escapeIncomplete
  | escapeUnrecognized
  | flagDanglingNegation
  | flagDuplicate
  | flagRepeatedNegation
  | flagMissing
  | flagUnrecognized
  | groupNameDuplicate
  | groupNameEmpty
  | groupNameInvalid
  | groupNameUnclosed
  | groupUnclosed
  | groupUnopened
  | repetitionCountInvalid
  | repetitionCountEmpty
  | repetitionCountUnclosed
  | repetitionMissing
  | wordPlaceUnclosed
  | wordPlaceUnrecognized
  | wordPlaceOrRepetitionUnclosed
  | unicodeClassInvalid
  | backreference
  | lookAround
  | unicodeNotAllowed
  | invalidText
  | propertyNotFound
  | propertyValueNotFound
  | nestedTooDeeply
  deriving DecidableEq, Repr

/-- The wording of a fault. -/
def FaultKind.message : FaultKind → String
  | classEscapeInvalid => "invalid escape sequence found in character class"
  | classRangeInvalid => "invalid character class range, the start must be <= the end"
  | classRangeLiteral => "invalid range boundary, must be a literal"
  | classUnclosed => "unclosed character class"
  | decimalEmpty => "decimal literal empty"
  | decimalInvalid => "decimal literal invalid"
  | escapeHexEmpty => "hexadecimal literal empty"
  | escapeHexInvalid => "hexadecimal literal is not a Unicode scalar value"
  | escapeHexDigit => "invalid hexadecimal digit"
  | escapeIncomplete => "incomplete escape sequence, reached end of pattern prematurely"
  | escapeUnrecognized => "unrecognized escape sequence"
  | flagDanglingNegation => "dangling flag negation operator"
  | flagDuplicate => "duplicate flag"
  | flagRepeatedNegation => "flag negation operator repeated"
  | flagMissing => "expected flag but got end of regex"
  | flagUnrecognized => "unrecognized flag"
  | groupNameDuplicate => "duplicate capture group name"
  | groupNameEmpty => "empty capture group name"
  | groupNameInvalid => "invalid capture group character"
  | groupNameUnclosed => "unclosed capture group name"
  | groupUnclosed => "unclosed group"
  | groupUnopened => "unopened group"
  | repetitionCountInvalid => "invalid repetition count range, the start must be <= the end"
  | repetitionCountEmpty => "repetition quantifier expects a valid decimal"
  | repetitionCountUnclosed => "unclosed counted repetition"
  | repetitionMissing => "repetition operator missing expression"
  | wordPlaceUnclosed =>
    "special word boundary assertion is either unclosed or contains an invalid character"
  | wordPlaceUnrecognized =>
    "unrecognized special word boundary assertion, valid choices are: " ++
      "start, end, start-half or end-half"
  | wordPlaceOrRepetitionUnclosed =>
    "found either the beginning of a special word boundary or a bounded repetition on a \\b with " ++
      "an opening brace, but no closing brace"
  | unicodeClassInvalid => "invalid Unicode character class"
  | backreference => "backreferences are not supported"
  | lookAround => "look-around, including look-ahead and look-behind, is not supported"
  | unicodeNotAllowed => "Unicode not allowed here"
  | invalidText => "pattern can match invalid UTF-8"
  | propertyNotFound => "Unicode property not found"
  | propertyValueNotFound => "Unicode property value not found"
  | nestedTooDeeply =>
    s!"exceed the maximum number of nested parentheses/brackets ({nestLimit})"

/-- A fault at a part of the text, and the earlier part that it collides with, if it does. -/
structure Fault where
  kind : FaultKind
  span : Span
  earlier : Option Span

/-! ### The report -/

/-- The lines of a text.  A line feed ends a line, with a carriage return before it if there is
one, and begins no line at the end of the text. -/
def lines (text : List Char) : List (List Char) :=
  let pieces := Text.splitList '\n' text
  let ended := pieces.dropLast.map fun line =>
    if line.getLast? = some '\r' then line.dropLast else line
  match pieces.getLast? with
  | some [] | none => ended
  | some last => ended ++ [last]

/-- A line with carets under some parts of the line above it. -/
def carets : Nat → List Span → String
  | _, [] => ""
  | column, span :: rest =>
    let blanks := span.start.column - 1 - column
    let count := max 1 (span.stop.column - span.start.column)
    String.ofList (List.replicate blanks ' ' ++ List.replicate count '^') ++
      carets (column + blanks + count) rest

/-- The lines of a pattern from a number on, each with the marks below it. -/
def marked (lead : Nat → String) (spans : List Span) : Nat → List (List Char) → String
  | _, [] => ""
  | number, line :: rest =>
    let here := spans.filter fun span => span.start.line = number
    let marks :=
      if here.isEmpty then ""
      else String.ofList ((lead number).toList.map fun _ => ' ') ++ carets 0 here ++ "\n"
    lead number ++ String.ofList line ++ "\n" ++ marks ++ marked lead spans (number + 1) rest

/-- Where a part that spans several lines begins and ends. -/
def Span.describe (span : Span) : String :=
  s!"on line {span.start.line} (column {span.start.column}) " ++
    s!"through line {span.stop.line} (column {span.stop.column - 1})"

/-- The pattern with its faulty parts marked, and the wording of the fault.  The lines of a pattern
of several lines are numbered and set off by dividers. -/
def Fault.report (fault : Fault) (pattern : String) : String :=
  let text := pattern.toList
  let spans := fault.earlier.toList ++ [fault.span]
  let onOneLine := spans.filter fun span => span.start.line = span.stop.line
  let onSeveral := spans.filter fun span => span.start.line ≠ span.stop.line
  let body := lines text
  let count := body.length + if text.getLast? = some '\n' then 1 else 0
  let width := (toString count).length
  let lead := fun number : Nat =>
    if count ≤ 1 then "    "
    else
      let digits := toString number
      String.ofList (List.replicate (width - digits.length) ' ') ++ digits ++ ": "
  let notated := marked lead onOneLine 1 body
  let divider := String.ofList (List.replicate 79 '~') ++ "\n"
  let notes := String.join (onSeveral.map fun span => span.describe ++ "\n")
  let shown := if text.contains '\n' then divider ++ notated ++ divider ++ notes else notated
  "regex parse error:\n" ++ shown ++ "error: " ++ fault.kind.message

end SchemaCompiler.Pattern
