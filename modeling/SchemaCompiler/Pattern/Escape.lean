import SchemaCompiler.Pattern.Scan

/-!
Escapes: what a backslash and the characters after it stand for.

* `Scan.hexEscape`, `Scan.unicodeClass`, `Scan.wordPlace`: the escapes with more than one letter;
* `Scan.escape`: all escapes.
-/

namespace SchemaCompiler.Pattern

namespace Scan

/-- Whether a character is a hexadecimal digit. -/
def isHex (c : Char) : Bool := (Text.hexValue? c).isSome

/-- The character that hexadecimal digits name. -/
def character? (digits : List Char) : Option Char :=
  let n := Unicode.hexNumber digits
  if n.isValidChar then some (Char.ofNat n) else none

/-- A number of hexadecimal digits. -/
def fixedDigits : Nat → Scan (List Char)
  | 0 => return []
  | n + 1 => do
    match ← peek with
    | none => fault .escapeIncomplete (Span.at (← place))
    | some c =>
      if isHex c then
        let _ ← advanceToText
        return c :: (← fixedDigits n)
      else fault .escapeHexDigit (← spanOfNext)

/-- The hexadecimal digits up to a closing brace, from the opening one on. -/
def bracedDigits : Nat → Scan (List Char)
  | 0 => return []
  | fuel + 1 => do
    let _ ← advanceToText
    match ← peek with
    | none | some '}' => return []
    | some c =>
      if isHex c then return c :: (← bracedDigits fuel)
      else fault .escapeHexDigit (← spanOfNext)

/-- A character by its number, after the letter that says how many digits there are. -/
def hexEscape (start : Place) (digits : Nat) : Scan Atom := do
  if !(← advanceToText) then fault .escapeIncomplete (Span.at (← place))
  if (← peek) = some '{' then
    let brace ← place
    let first := (← spanOfNext).stop
    let written ← bracedDigits (← fuel)
    if ← atEnd then fault .escapeIncomplete (← spanFrom brace)
    let last ← place
    let _ ← advanceToText
    if written.isEmpty then fault .escapeHexEmpty (← spanFrom brace)
    match character? written with
    | some c => return .literal ⟨← spanFrom start, c, false⟩
    | none => fault .escapeHexInvalid ⟨first, last⟩
  else
    let first ← place
    let written ← fixedDigits digits
    match character? written with
    | some c => return .literal ⟨← spanFrom start, c, digits == 2⟩
    | none => fault .escapeHexInvalid (← spanFrom first)

/-- The characters up to a closing brace, from the opening one on. -/
def bracedName : Nat → Scan (List Char)
  | 0 => return []
  | fuel + 1 => do
    let _ ← advanceToText
    match ← peek with
    | none | some '}' => return []
    | some c => return c :: (← bracedName fuel)

/-- What stands before and after the first occurrence of a mark. -/
def cut? (mark : List Char) : List Char → Option (List Char × List Char)
  | [] => none
  | c :: rest =>
    if mark.isPrefixOf (c :: rest) then some ([], (c :: rest).drop mark.length)
    else (cut? mark rest).map fun (before, after) => (c :: before, after)

/-- The query that stands in the braces of a Unicode class, and whether it asks for what has not the
value. -/
def queryOf (name : List Char) : Bool × Query :=
  let valued := fun (property, value) => Query.valued (String.ofList property) (String.ofList value)
  match cut? ['!', '='] name with
  | some parts => (true, valued parts)
  | none =>
    match (cut? [':'] name).or (cut? ['='] name) with
    | some parts => (false, valued parts)
    | none => (false, .named (String.ofList name))

/-- A Unicode class, after its letter. -/
def unicodeClass (start : Place) (negated : Bool) : Scan Atom := do
  if !(← advanceToText) then fault .escapeIncomplete (Span.at (← place))
  let (otherwise, query) ←
    if (← peek) = some '{' then do
      let name ← bracedName (← fuel)
      if ← atEnd then fault .escapeIncomplete (Span.at (← place))
      advance
      pure (queryOf name)
    else do
      let name := (← peek).toList
      if name = ['\\'] then fault .unicodeClassInvalid (← spanOfNext)
      let _ ← advanceToText
      pure (false, Query.named (String.ofList name))
  let span ← spanFrom start
  return .oneOf span (.property span (negated != otherwise) query)

/-- The characters that have a meaning of their own in patterns. -/
def isMeta (c : Char) : Bool := "\\.+*?()|[]\x7b\x7d^$#&-~".contains c

/-- Whether a character stands for itself after a backslash. -/
def isEscapable (c : Char) : Bool :=
  isMeta c || (decide (c.toNat < 128) && !c.isAlphanum && c ≠ '<' && c ≠ '>')

/-- The places about words by the names that they have in braces. -/
def wordPlaces : List (String × WordPlace) :=
  [("start", .start), ("end", .stop), ("start-half", .startHalf), ("end-half", .stopHalf)]

/-- The place that may be named in braces after a word boundary.  Braces that cannot hold a name
are left to be read as a repetition. -/
def wordPlace (start : Place) : Scan WordPlace := do
  let before ← get
  if before.rest.head? ≠ some '{' then return .edge
  if !(← advanceToText) then fault .wordPlaceOrRepetitionUnclosed (← spanFrom start)
  let inside ← place
  let isNamed := fun c : Char => c.isAlpha || c = '-'
  if !(← peek).any isNamed then
    set before
    return .edge
  let name ← runOf isNamed (← fuel)
  if (← peek) ≠ some '}' then fault .wordPlaceUnclosed (← spanFrom before.place)
  let span ← spanFrom inside
  advance
  match wordPlaces.lookup (String.ofList name) with
  | some place => return place
  | none => fault .wordPlaceUnrecognized span

/-- What a backslash and the characters after it stand for. -/
def escape : Scan Atom := do
  let start ← place
  advance
  let some c ← peek | fault .escapeIncomplete (← spanFrom start)
  let shorthand := fun (kind : Shorthand) => do
    advance
    let span ← spanFrom start
    return Atom.oneOf span (.shorthand span c.isUpper kind)
  let condition := fun (condition : Condition) => return Atom.condition (← spanFrom start) condition
  let literal := fun (c : Char) => return Atom.literal ⟨← spanFrom start, c, false⟩
  if c.isDigit then fault .backreference ⟨start, (← spanOfNext).stop⟩
  match c with
  | 'x' => hexEscape start 2
  | 'u' => hexEscape start 4
  | 'U' => hexEscape start 8
  | 'p' | 'P' => unicodeClass start (c = 'P')
  | 'd' | 'D' => shorthand .digit
  | 's' | 'S' => shorthand .space
  | 'w' | 'W' => shorthand .word
  | _ =>
    advance
    if isEscapable c then literal c
    else
      match c with
      | 'a' => literal '\x07'
      | 'f' => literal '\x0c'
      | 't' => literal '\t'
      | 'n' => literal '\n'
      | 'r' => literal '\r'
      | 'v' => literal '\x0b'
      | 'A' => condition .textStart
      | 'z' => condition .textEnd
      | 'b' =>
        let named ← wordPlace start
        condition (.word named)
      | 'B' => condition (.word .notEdge)
      | '<' => condition (.word .start)
      | '>' => condition (.word .stop)
      | _ => fault .escapeUnrecognized (← spanFrom start)

end Scan

end SchemaCompiler.Pattern
