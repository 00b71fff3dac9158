import SchemaCompiler.Pattern.Tree

/-!
Steps in reading the text of a pattern.

* `Pattern.Cursor`: where a reading stands;
* `Pattern.Scan`: readings, which move the cursor or find a fault;
* `Scan.advanceToText`, `Scan.runOf`, `Scan.decimal`: the steps that skip blanks where these do not
  count.
-/

namespace SchemaCompiler.Pattern

/-- The blank characters. -/
def whitespace : Unicode.PointSet := Unicode.withProperty "whitespace"

/-- Whether a character is blank. -/
def isBlank (c : Char) : Bool := whitespace.contains c.toNat

/-- The letters of names. -/
def letters : Unicode.PointSet := Unicode.withProperty "alphabetic"

/-- The numerals of names. -/
def numerals : Unicode.PointSet := Unicode.categories ["nd", "nl", "no"]

/-- The place after a character. -/
def Place.after (place : Place) (c : Char) : Place :=
  if c = '\n' then ⟨place.offset + 1, place.line + 1, 1⟩
  else ⟨place.offset + 1, place.line, place.column + 1⟩

/-- Where the reading of a pattern stands. -/
structure Cursor where
  rest : List Char
  place : Place
  /-- Whether blanks and comments are skipped. -/
  verbose : Bool
  /-- The names of groups so far. -/
  names : List (String × Span)

/-- The end of a comment and the place of it. -/
def afterComment : List Char → Place → List Char × Place
  | [], place => ([], place)
  | c :: rest, place =>
    if c = '\n' then (rest, place.after c) else afterComment rest (place.after c)

theorem length_afterComment (cs : List Char) (place : Place) :
    (afterComment cs place).1.length ≤ cs.length := by
  induction cs generalizing place with
  | nil => simp [afterComment]
  | cons c rest ih =>
    rw [afterComment]
    split
    · simp
    · exact Nat.le_succ_of_le (ih _)

/-- What follows blanks and comments, and its place. -/
def afterBlanks (cs : List Char) (place : Place) : List Char × Place :=
  match cs with
  | [] => ([], place)
  | c :: rest =>
    if isBlank c then afterBlanks rest (place.after c)
    else if c = '#' then
      have := length_afterComment rest (place.after c)
      afterBlanks (afterComment rest (place.after c)).1 (afterComment rest (place.after c)).2
    else (cs, place)
  termination_by cs.length

/-- The cursor past blanks and comments, where these are skipped. -/
def Cursor.skipBlanks (cursor : Cursor) : Cursor :=
  if cursor.verbose then
    let (rest, place) := afterBlanks cursor.rest cursor.place
    { cursor with rest, place }
  else cursor

/-- The cursor past one character. -/
def Cursor.advance (cursor : Cursor) : Cursor :=
  match cursor.rest with
  | [] => cursor
  | c :: rest => { cursor with rest, place := cursor.place.after c }

/-- The character after the next one, past the blanks where these are skipped.  A number sign that
begins a comment is passed as well. -/
def Cursor.second? (cursor : Cursor) : Option Char :=
  let rest := cursor.rest.drop 1
  if cursor.verbose then
    match rest.dropWhile isBlank with
    | '#' :: comment => (comment.dropWhile isBlank).head?
    | other => other.head?
  else rest.head?

/-- A reading of part of a pattern. -/
abbrev Scan := StateT Cursor (Except Fault)

namespace Scan

/-- A fault at a part of the text. -/
def fault {α : Type} (kind : FaultKind) (span : Span) : Scan α := throw ⟨kind, span, none⟩

/-- The next character. -/
def peek : Scan (Option Char) := return (← get).rest.head?

/-- Whether the text is at its end. -/
def atEnd : Scan Bool := return (← get).rest.isEmpty

/-- The place of the cursor. -/
def place : Scan Place := return (← get).place

/-- The part from a place to the cursor. -/
def spanFrom (start : Place) : Scan Span := return ⟨start, (← get).place⟩

/-- The part that the next character takes. -/
def spanOfNext : Scan Span := do
  let cursor ← get
  return ⟨cursor.place, cursor.advance.place⟩

/-- Moves past one character. -/
def advance : Scan Unit := modify Cursor.advance

/-- Moves past blanks and comments. -/
def skipBlanks : Scan Unit := modify Cursor.skipBlanks

/-- Moves past one character and the blanks after it.  Whether text is left. -/
def advanceToText : Scan Bool := do
  modify fun cursor => cursor.advance.skipBlanks
  return !(← atEnd)

/-- Moves past a text if it comes next. -/
def accept (text : String) : Scan Bool := do
  if text.toList.isPrefixOf (← get).rest then
    text.toList.forM fun _ => advance
    return true
  else return false

/-- The characters of a kind that come next, with blanks skipped between them. -/
def runOf (kind : Char → Bool) : Nat → Scan (List Char)
  | 0 => return []
  | fuel + 1 => do
    match ← peek with
    | some c =>
      if kind c then
        let _ ← advanceToText
        return c :: (← runOf kind fuel)
      else return []
    | none => return []

/-- A bound on the number of characters left. -/
def fuel : Scan Nat := return (← get).rest.length + 1

/-- A decimal number below 2^32 with blanks around it, or the fault in it. -/
def decimal (missing : FaultKind) : Scan (Except Fault Nat) := do
  let _ ← runOf isBlank (← fuel)
  let start ← place
  let digits ← runOf Char.isDigit (← fuel)
  let span ← spanFrom start
  let _ ← runOf isBlank (← fuel)
  let value := digits.foldl (fun n c => n * 10 + (c.toNat - '0'.toNat)) 0
  if digits.isEmpty then return .error ⟨missing, span, none⟩
  else if value < 4294967296 then return .ok value
  else return .error ⟨.decimalInvalid, span, none⟩

end Scan

end SchemaCompiler.Pattern
