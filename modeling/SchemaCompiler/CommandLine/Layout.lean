import SchemaCompiler.Text.Affix
import SchemaCompiler.Text.Grapheme
import SchemaCompiler.Text.Width

/-!
Tables of text in the columns of a terminal.

A column gets the width of its content if that is no more than its share of the space that is left.
What remains is shared out equally, and content that is too wide is broken at blanks or, if need be,
within words.

* `wrap`: the lines of a text that is broken;
* `TextTable`: a heading and rows of cells;
* `TextTable.widths`: the widths of the columns;
* `TextTable.render`: the text.
-/

namespace SchemaCompiler.Layout

/-! ### Breaking lines -/

/-- Where a line ends with fewer free columns than this, nothing is added to it. -/
def leastFree : Nat := 2

/-- The longest beginning of a row of graphemes of some width at most, and the rest. -/
def splitGraphemes (width : Nat) : List (List Char) → List Char × List Char
  | [] => ([], [])
  | grapheme :: rest =>
    let columns := Text.rowWidth grapheme
    if columns ≤ width then
      let (start, rest) := splitGraphemes (width - columns) rest
      (grapheme ++ start, rest)
    else ([], grapheme ++ rest.flatten)

/-- The longest beginning of a word of some width at most, and the rest. -/
def splitWord (width : Nat) (word : List Char) : List Char × List Char :=
  splitGraphemes width (Text.graphemes word)

/-- A line that is as good as full, as a line, and what goes on as the next one. -/
def closeIfFull (width : Nat) (line : List Char) : List (List Char) × List Char :=
  if width - leastFree < Text.rowWidth line then ([line], []) else ([], line)

/-- The lines of some words, the first of which goes on from an unfinished line.  Every round uses up
a part of the words or finishes a line. -/
def fill (width : Nat) : (fuel : Nat) → (line : List Char) → List (List Char) → List (List Char)
  | 0, line, _ => [line]
  | _ + 1, line, [] => if line.isEmpty then [] else [line]
  | fuel + 1, line, word :: words =>
    let fresh := line.isEmpty
    let used := Text.rowWidth line
    let joined := if fresh then line else line ++ [' ']
    let free := if fresh then width - used else width - used - 1
    if Text.rowWidth joined + Text.rowWidth word ≤ width then
      let (done, line) := closeIfFull width (joined ++ word)
      done ++ fill width fuel line words
    else if !fresh && free ≤ leastFree then line :: fill width fuel [] (word :: words)
    else if width < Text.rowWidth word then
      match splitWord free word, fresh with
      | ([], c :: rest), true => [c] :: fill width fuel [] (rest :: words)
      | (start, rest), _ => (joined ++ start) :: fill width fuel [] (rest :: words)
    else
      let (done, next) := closeIfFull width word
      line :: (done ++ fill width fuel next words)

/-- The lines of a text of one line, broken if it is too wide. -/
def wrap (width : Nat) (text : String) : List String :=
  if Text.width text ≤ width then [text]
  else
    let words := Text.splitList ' ' text.toList
    (fill width (2 * text.length + 4) [] words).map String.ofList

/-- The lines of several lines, broken where they are too wide. -/
def wrapAll (width : Nat) (lines : List String) : List String := lines.flatMap (wrap width)

/-! ### Columns -/

/-- A cell: its lines, and whether they stand at the right. -/
structure Cell where
  lines : List String
  atRight : Bool

/-- A cell with a text at the left. -/
def Cell.ofText (text : String) : Cell := ⟨Text.splitOn '\n' text, false⟩

/-- A cell with a text at the right. -/
def Cell.atRightOfText (text : String) : Cell := ⟨Text.splitOn '\n' text, true⟩

/-- The width of the widest of some lines. -/
def widest (lines : List String) : Nat := (lines.map Text.width).foldl max 0

/-- A column: the lines of all its cells, and its width once that is settled. -/
structure Column where
  lines : List String
  width : Option Nat

/-- The space that is left for the columns whose width is not settled. -/
structure Room where
  space : Nat
  columns : Nat

/-- The share of each column. -/
def Room.share (room : Room) : Nat := room.space / room.columns

/-- Settles the width of each column for which a rule gives one, under its share at that time. -/
def settle (rule : Nat → List String → Option Nat) :
    Room → List Column → List Column × Room
  | room, [] => ([], room)
  | room, ⟨lines, some width⟩ :: rest =>
    let (columns, room) := settle rule room rest
    (⟨lines, some width⟩ :: columns, room)
  | room, ⟨lines, none⟩ :: rest =>
    match rule room.share lines with
    | some width =>
      let (columns, room) := settle rule ⟨room.space - width, room.columns - 1⟩ rest
      (⟨lines, some (max width 1)⟩ :: columns, room)
    | none =>
      let (columns, room) := settle rule room rest
      (⟨lines, none⟩ :: columns, room)

/-- Settles widths until no rule applies.  Every round settles one. -/
def settleAll (rule : Nat → List String → Option Nat) :
    (fuel : Nat) → Room → List Column → List Column × Room
  | 0, room, columns => (columns, room)
  | fuel + 1, room, columns =>
    let (settled, left) := settle rule room columns
    if left.columns = room.columns then (columns, room) else settleAll rule fuel left settled

/-- The content of a column fits into its share. -/
def fits (share : Nat) (lines : List String) : Option Nat :=
  if widest lines ≤ share then some (widest lines) else none

/-- The content of a column, once broken, leaves some of its share free. -/
def fitsBroken (share : Nat) (lines : List String) : Option Nat :=
  let width := widest (wrapAll (max share 1) lines)
  if 3 ≤ share - width then some width else none

/-- Shares the space out among the columns that are not settled.  The first ones get what is left
over. -/
def shareOut (share : Nat) : (excess : Nat) → List Column → List Nat
  | _, [] => []
  | excess, ⟨_, some width⟩ :: rest => width :: shareOut share excess rest
  | 0, ⟨_, none⟩ :: rest => max share 1 :: shareOut share 0 rest
  | excess + 1, ⟨_, none⟩ :: rest => (share + 1) :: shareOut share excess rest

/-- The widths of columns of some content within a space. -/
def columnWidths (space : Nat) (contents : List (List String)) : List Nat :=
  let fuel := contents.length
  let columns := contents.map (⟨·, none⟩)
  let (columns, room) := settleAll fits fuel ⟨space, columns.length⟩ columns
  let (columns, room) := settleAll fitsBroken fuel room columns
  let space := max room.space room.columns
  shareOut (space / room.columns) (space % room.columns) columns

/-! ### Tables -/

/-- A heading and rows of as many cells. -/
structure TextTable where
  heading : List Cell
  rows : List (List Cell)

namespace TextTable

/-- The lines of each column. -/
def contents (table : TextTable) : List (List String) :=
  (List.range table.heading.length).map fun i =>
    (table.heading :: table.rows).flatMap fun row => (row[i]?.map Cell.lines).getD []

/-- The widths of the columns in a terminal of some width.  Around each column there are two blanks,
and one between columns. -/
def widths (table : TextTable) (terminal : Nat) : List Nat :=
  let count := table.heading.length
  columnWidths (terminal - (count - 1) - 2 * count) table.contents

/-- Some blanks. -/
def blanks (count : Nat) : String := String.ofList (List.replicate count ' ')

/-- A line of a cell in its column. -/
def cellLine (width : Nat) (atRight : Bool) (line : String) : String :=
  let filling := blanks (width - Text.width line)
  " " ++ (if atRight then filling ++ line else line ++ filling) ++ " "

/-- The lines of a row. -/
def rowLines (widths : List Nat) (row : List Cell) : List String :=
  let cells := widths.zip row |>.map fun (width, cell) =>
    (wrapAll width cell.lines).map (cellLine width cell.atRight)
  let height := (cells.map List.length).foldl max 0
  (List.range height).map fun i =>
    Text.join " " ((widths.zip cells).map fun (width, lines) => lines.getD i (blanks (width + 2)))

/-- A rule over all columns. -/
def rule (joint : String) (widths : List Nat) : String :=
  Text.join joint (widths.map fun width => String.ofList (List.replicate (width + 2) '─'))

/-- The text of a table in a terminal of some width. -/
def render (table : TextTable) (terminal : Nat) : String :=
  let widths := table.widths terminal
  Text.join "\n" ([rule " " widths] ++ rowLines widths table.heading ++ [rule "─" widths] ++
    table.rows.flatMap (rowLines widths) ++ [rule " " widths])

end TextTable

end SchemaCompiler.Layout
