import SchemaCompiler.Pattern.Reader
import SchemaCompiler.Pattern.Size
import SchemaCompiler.Unicode.Lookup

/-!
The pattern of a text: its structure with the flags applied.

* `Pattern.Modes`: the flags in force;
* `Pattern.Query.points`: the characters of a Unicode class;
* `Pattern.ClassTree.points`: the characters that a class stands for;
* `Pattern.Tree.pattern`: the pattern of a tree;
* `Pattern.ofText`: the pattern of a text, or the report of its first fault.
-/

namespace SchemaCompiler.Pattern

/-- The flags in force at a part of a pattern. -/
structure Modes where
  caseless : Bool
  multiLine : Bool
  dotAll : Bool
  unicode : Bool
  crlf : Bool

/-- The flags at the beginning of a pattern. -/
def Modes.initial : Modes := ⟨false, false, false, true, false⟩

/-- The flags in force after a list of flags. -/
def Modes.apply (modes : Modes) (items : List FlagItem) : Modes where
  caseless := (flagState? .caseless items true).getD modes.caseless
  multiLine := (flagState? .multiLine items true).getD modes.multiLine
  dotAll := (flagState? .dotAll items true).getD modes.dotAll
  unicode := (flagState? .unicode items true).getD modes.unicode
  crlf := (flagState? .crlf items true).getD modes.crlf

/-! ### Unicode classes -/

/-- A name without what does not count in names: case, blanks, hyphens, underscores, characters
outside ASCII and an `is` at the beginning. -/
def looseName (name : String) : String :=
  let (isPrefixed, rest) := match name.toList with
    | a :: b :: rest =>
      if a.toLower = 'i' ∧ b.toLower = 's' then (true, rest) else (false, a :: b :: rest)
    | short => (false, short)
  let kept := (rest.filter fun c => c.toNat < 128 && c ≠ ' ' && c ≠ '_' && c ≠ '-').map Char.toLower
  if isPrefixed ∧ kept = ['c'] then "isc" else String.ofList kept

/-- What is wrong with a Unicode class. -/
def faultKind : Unicode.LookupFault → FaultKind
  | .unknownProperty => .propertyNotFound
  | .unknownValue => .propertyValueNotFound

/-- The characters that a Unicode class asks for. -/
def Query.points : Query → Except Unicode.LookupFault Unicode.PointSet
  | .named name => Unicode.pointsNamed (looseName name)
  | .valued property value => Unicode.pointsWithValue (looseName property) (looseName value)

/-- The characters of a shorthand. -/
def Shorthand.points (unicode : Bool) : Shorthand → Unicode.PointSet
  | .digit => if unicode then Unicode.categories ["nd"] else .range 0x30 0x39
  | .space => if unicode then whitespace else asciiBlanks
  | .word => if unicode then wordPoints else asciiWordPoints

/-! ### Classes -/

/-- The result of an operation on sets. -/
def ClassOperation.apply (left right : Unicode.PointSet) : ClassOperation → Unicode.PointSet
  | .intersection => left.intersection right
  | .difference => left.difference right
  | .symmetricDifference => left.symmetricDifference right

/-- A set with both cases of its letters, if case does not count. -/
def Modes.folded (modes : Modes) (points : Unicode.PointSet) : Unicode.PointSet :=
  if !modes.caseless then points
  else if modes.unicode then points.folded
  else points.asciiFolded

/-- A set, which holds no bytes beyond ASCII if it is one of bytes. -/
def Modes.checked (modes : Modes) (span : Span) (points : Unicode.PointSet) :
    Except Fault Unicode.PointSet :=
  if modes.unicode || points.isAscii then return points else throw ⟨.invalidText, span, none⟩

/-- A set or what is not in it, with case not counting if it does not. -/
def Modes.finished (modes : Modes) (span : Span) (negated : Bool) (points : Unicode.PointSet) :
    Except Fault Unicode.PointSet :=
  let folded := modes.folded points
  modes.checked span (if negated then folded.complement else folded)

/-- The number of a character that stands for itself.  One that is written as a byte is in ASCII
where characters are bytes. -/
def Literal.point (modes : Modes) (literal : Literal) : Except Fault Nat :=
  if !modes.unicode && literal.asByte && literal.char.toNat ≥ 128 then
    throw ⟨.invalidText, literal.span, none⟩
  else return literal.char.toNat

/-- The number of a character in a class, which is in ASCII where characters are bytes. -/
def Literal.classPoint (modes : Modes) (literal : Literal) : Except Fault Nat := do
  let point ← literal.point modes
  if !modes.unicode && point ≥ 128 then throw ⟨.unicodeNotAllowed, literal.span, none⟩
  else return point

mutual

/-- The characters that a class stands for. -/
def ClassTree.points (modes : Modes) : ClassTree → Except Fault Unicode.PointSet
  | .literal l => return .single (← l.classPoint modes)
  | .range first last => return .range (← first.classPoint modes) (← last.classPoint modes)
  | .named span negated points => modes.finished span negated points
  | .property span negated query =>
    if !modes.unicode then throw ⟨.unicodeNotAllowed, span, none⟩
    else
      match query.points with
      | .ok points => modes.finished span negated points
      | .error reason => throw ⟨faultKind reason, span, none⟩
  | .shorthand span negated kind =>
    let points := kind.points modes.unicode
    modes.checked span (if negated then points.complement else points)
  | .bracketed span negated inner => do modes.finished span negated (← inner.points modes)
  | .union _ members => ClassTree.unionPoints modes members
  | .operation kind left right => do
    let first ← left.points modes
    let second ← right.points modes
    return kind.apply (modes.folded first) (modes.folded second)

/-- The characters of several classes together. -/
def ClassTree.unionPoints (modes : Modes) : List ClassTree → Except Fault Unicode.PointSet
  | [] => return .empty
  | member :: rest => do
    let first ← member.points modes
    return first.union (← ClassTree.unionPoints modes rest)

end

/-! ### Patterns -/

/-- All characters but those that end lines. -/
def Modes.dot (modes : Modes) : Unicode.PointSet :=
  let ends := if modes.dotAll then [] else if modes.crlf then ['\n', '\r'] else ['\n']
  (Unicode.PointSet.ofChars ends).complement

/-- The meaning of a condition under the flags in force. -/
def Condition.assertion (modes : Modes) : Condition → Assertion
  | .lineStart =>
    if !modes.multiLine then .textStart else if modes.crlf then .anyLineStart else .lineStart
  | .lineEnd => if !modes.multiLine then .textEnd else if modes.crlf then .anyLineEnd else .lineEnd
  | .textStart => .textStart
  | .textEnd => .textEnd
  | .word place => .word place (!modes.unicode)

mutual

/-- The pattern of a tree and the flags in force after it.  The flags that are set in a group hold
to its end, through all alternatives that follow. -/
def Tree.pattern (modes : Modes) : Tree → Except Fault (Pattern × Modes)
  | .empty => return (.empty, modes)
  | .flags items => return (.empty, modes.apply items)
  | .literal l => do
    let point ← l.point modes
    return (.chars (modes.folded (.single point)), modes)
  | .dot span =>
    if modes.unicode then return (.chars modes.dot, modes) else throw ⟨.invalidText, span, none⟩
  | .condition _ about => return (.assertion (about.assertion modes), modes)
  | .oneOf tree => do return (.chars (← tree.points modes), modes)
  | .repetition _ inner least most => do
    let (once, after) ← inner.pattern modes
    return (once.times least most, after)
  | .group _ numbered items inner => do
    let (grouped, _) ← inner.pattern (modes.apply items)
    return (if numbered then .group grouped else grouped, modes)
  | .alternatives _ members => do
    let (choices, after) ← Tree.patterns modes members
    return (Pattern.oneOf choices, after)
  | .sequence _ members => do
    let (parts, after) ← Tree.patterns modes members
    return (parts.foldr Pattern.followedBy .empty, after)

/-- The patterns of several trees and the flags in force after them. -/
def Tree.patterns (modes : Modes) : List Tree → Except Fault (List Pattern × Modes)
  | [] => return ([], modes)
  | member :: rest => do
    let (first, after) ← member.pattern modes
    let (others, last) ← Tree.patterns after rest
    return (first :: others, last)

end

/-- The pattern of a text, or the report of its first fault.  A pattern whose automata take up too
much is refused. -/
def ofText (text : String) : Except String Pattern :=
  let pattern := do
    let tree ← Tree.ofText text
    tree.pattern Modes.initial
  match pattern with
  | .error fault => .error (fault.report text)
  | .ok (pattern, _) =>
    if pattern.fits then .ok pattern
    else .error s!"Compiled regex exceeds size limit of {sizeLimit} bytes."

end SchemaCompiler.Pattern
