import SchemaCompiler.Pattern.Escape

/-!
Classes of characters in brackets.

* `Scan.range`: a member of a class;
* `Scan.asciiClass?`: the classes with names of their own;
* `Scan.bracketed`: a class, with the classes inside it and the operations between them.
-/

namespace SchemaCompiler.Pattern

namespace Scan

/-- The next character, or what an escape stands for. -/
def classAtom : Scan Atom := do
  match ← peek with
  | some '\\' => escape
  | some c =>
    let span ← spanOfNext
    advance
    return .literal ⟨span, c, false⟩
  | none => fault .classUnclosed (Span.at (← place))

/-- An atom as a member of a class. -/
def member : Atom → Scan ClassTree
  | .literal l => return .literal l
  | .oneOf _ points => return points
  | .dot span | .condition span _ => fault .classEscapeInvalid span

/-- An atom as an end of a range. -/
def rangeEnd : Atom → Scan Literal
  | .literal l => return l
  | atom => fault .classRangeLiteral atom.span

/-- A member of a class, or a range of characters.  A minus before the end of the class or before
another minus makes no range. -/
def range (opened : Span) : Scan ClassTree := do
  let first ← classAtom
  skipBlanks
  if ← atEnd then fault .classUnclosed opened
  let cursor ← get
  let second := cursor.second?
  if cursor.rest.head? ≠ some '-' ∨ second = some ']' ∨ second = some '-' then member first
  else
    if !(← advanceToText) then fault .classUnclosed opened
    let last ← classAtom
    let low ← rangeEnd first
    let high ← rangeEnd last
    if high.char < low.char then fault .classRangeInvalid ⟨first.span.start, last.span.stop⟩
    return .range low high

/-- The named classes of ASCII. -/
def asciiClasses : List (String × Unicode.PointSet) :=
  let digit : Unicode.Interval := ⟨0x30, 0x39⟩
  let upper : Unicode.Interval := ⟨0x41, 0x5A⟩
  let lower : Unicode.Interval := ⟨0x61, 0x7A⟩
  [("alnum", ⟨[digit, upper, lower]⟩), ("alpha", ⟨[upper, lower]⟩),
    ("ascii", .range 0 0x7F), ("blank", .ofChars ['\t', ' ']),
    ("cntrl", ⟨[⟨0, 0x1F⟩, ⟨0x7F, 0x7F⟩]⟩), ("digit", ⟨[digit]⟩),
    ("graph", .range 0x21 0x7E), ("lower", ⟨[lower]⟩), ("print", .range 0x20 0x7E),
    ("punct", ⟨[⟨0x21, 0x2F⟩, ⟨0x3A, 0x40⟩, ⟨0x5B, 0x60⟩, ⟨0x7B, 0x7E⟩]⟩),
    ("space", asciiBlanks), ("upper", ⟨[upper]⟩), ("word", asciiWordPoints),
    ("xdigit", ⟨[digit, ⟨0x41, 0x46⟩, ⟨0x61, 0x66⟩]⟩)]

/-- A named class of ASCII, if one comes next: its points and the number of its characters. -/
def asciiClass? (text : List Char) : Option (Bool × Unicode.PointSet × Nat) :=
  match text with
  | '[' :: ':' :: rest =>
    let negated := rest.head? = some '^'
    let rest := if negated then rest.drop 1 else rest
    let name := rest.takeWhile (· ≠ ':')
    if [':', ']'].isPrefixOf (rest.drop name.length) then
      (asciiClasses.lookup (String.ofList name)).map fun points =>
        (negated, points, name.length + 4 + if negated then 1 else 0)
    else none
  | _ => none

/-- The minuses that a class begins with. -/
def leadingMinuses (start : Place) : Nat → Scan (List ClassTree)
  | 0 => return []
  | fuel + 1 => do
    if (← peek) = some '-' then
      let span ← spanOfNext
      if !(← advanceToText) then fault .classUnclosed (Span.at start)
      return .literal ⟨span, '-', false⟩ :: (← leadingMinuses start fuel)
    else return []

/-- The opening of a class: whether it is negated, and the members that can only stand first. -/
def opening (start : Place) : Scan (Bool × List ClassTree) := do
  if !(← advanceToText) then fault .classUnclosed (← spanFrom start)
  let negated := (← peek) = some '^'
  if negated then
    if !(← advanceToText) then fault .classUnclosed (← spanFrom start)
  let minuses ← leadingMinuses start (← fuel)
  if minuses.isEmpty ∧ (← peek) = some ']' then
    let span ← spanOfNext
    if !(← advanceToText) then fault .classUnclosed (← spanFrom start)
    return (negated, [.literal ⟨span, ']', false⟩])
  else return (negated, minuses)

/-- The operation that comes next between the sets of a class. -/
def operation? : List Char → Option ClassOperation
  | '&' :: '&' :: _ => some .intersection
  | '-' :: '-' :: _ => some .difference
  | '~' :: '~' :: _ => some .symmetricDifference
  | _ => none

/-- Members of a class side by side, the last one first.  A single one is itself, and no members
are at a place of their own. -/
def sideBySide (start : Place) : List ClassTree → ClassTree
  | [] => .union (Span.at start) []
  | [member] => member
  | last :: before =>
    .union ⟨((before.getLast?).getD last).span.start, last.span.stop⟩ (last :: before).reverse

/-- The members that have been read from a place, the last one first, after what an operation applies
to. -/
def joined (left : Option (ClassOperation × ClassTree)) (start : Place)
    (members : List ClassTree) : ClassTree :=
  let right := sideBySide start members
  match left with
  | some (kind, operand) => .operation kind operand right
  | none => right

mutual

/-- A class in brackets. -/
def bracketed : Nat → Scan ClassTree
  | 0 => return .union (Span.at (← place)) []
  | fuel + 1 => do
    let start ← place
    let (negated, members) ← opening start
    let inner ← classBody fuel (← spanFrom start) none (← place) members.reverse
    advance
    return .bracketed (← spanFrom start) negated inner

/-- The rest of a class up to its closing bracket, after what an operation applies to, the place
behind it and the members from there.  Operations apply from left to right. -/
def classBody : Nat → Span → Option (ClassOperation × ClassTree) → Place → List ClassTree →
    Scan ClassTree
  | 0, _, _, start, _ => return .union (Span.at start) []
  | fuel + 1, opened, left, first, members => do
    skipBlanks
    let rest := (← get).rest
    match rest.head? with
    | none => fault .classUnclosed opened
    | some ']' => return joined left first members
    | some '[' =>
      match asciiClass? rest with
      | some (negated, points, length) =>
        let start ← place
        (List.range length).forM fun _ => advance
        classBody fuel opened left first (.named (← spanFrom start) negated points :: members)
      | none =>
        let inner ← bracketed fuel
        classBody fuel opened left first (inner :: members)
    | some _ =>
      match operation? rest with
      | some kind =>
        advance
        advance
        classBody fuel opened (some (kind, joined left first members)) (← place) []
      | none =>
        let read ← range opened
        classBody fuel opened left first (read :: members)

end

end Scan

end SchemaCompiler.Pattern
