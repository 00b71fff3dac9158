import SchemaCompiler.Text.Affix
import SchemaCompiler.Text.Hex

/-!
Sets of code points as runs, in the notation of the tables of this folder.

A run is written `41-5A`, with the step after a slash if it is not one (`100-136/2`), and as one
number if it has one code point; numbers are hexadecimal and a blank stands between runs.

* `Run`: the code points from one to another in steps;
* `Run.ofRows`: the runs that rows in the notation write;
* `RunMap`: a run whose code points go to those of another run, which is written after `>`;
* `NamedRuns`: runs under the names that they go by.
-/

namespace SchemaCompiler.Unicode

/-- The code points from the first to the last in steps. -/
structure Run where
  first : Nat
  last : Nat
  step : Nat
  deriving DecidableEq

/-- Whether a code point is in a run. -/
def Run.contains (run : Run) (point : Nat) : Bool :=
  decide (run.first ≤ point) && decide (point ≤ run.last) &&
    (point - run.first) % run.step == 0

/-- The code points of a run. -/
def Run.points (run : Run) : List Nat :=
  List.range' run.first ((run.last - run.first) / run.step + 1) run.step

/-- The number that hexadecimal digits write. -/
def hexNumber (digits : List Char) : Nat :=
  digits.foldl (fun n c => n * 16 + (Text.hexValue? c).getD 0) 0

/-- The run that a piece of the notation writes. -/
def Run.ofText (piece : List Char) : Run :=
  let bounds := piece.takeWhile (· ≠ '/')
  let step := match piece.drop (bounds.length + 1) with
    | [] => 1
    | digits => hexNumber digits
  let low := bounds.takeWhile (· ≠ '-')
  match bounds.drop (low.length + 1) with
  | [] => ⟨hexNumber low, hexNumber low, 1⟩
  | high => ⟨hexNumber low, hexNumber high, step⟩

/-- The pieces of rows in the notation. -/
def pieces (rows : List String) : List (List Char) :=
  rows.flatMap fun row => Text.splitList ' ' row.toList

/-- The runs that rows in the notation write. -/
def Run.ofRows (rows : List String) : List Run := (pieces rows).map Run.ofText

/-- A run whose code points go to those of a run of the same steps. -/
structure RunMap where
  source : Run
  target : Nat

namespace RunMap

/-- The mapping that a piece of the notation writes. -/
def ofText (piece : List Char) : RunMap :=
  let source := piece.takeWhile (· ≠ '>')
  ⟨Run.ofText source, hexNumber (piece.drop (source.length + 1))⟩

/-- The mappings that rows in the notation write. -/
def ofRows (rows : List String) : List RunMap := (pieces rows).map ofText

/-- Where a code point goes, if it is in the run. -/
def image? (map : RunMap) (point : Nat) : Option Nat :=
  if map.source.contains point then some (map.target + (point - map.source.first)) else none

/-- Each code point of the run with the one that it goes to. -/
def pairs (map : RunMap) : List (Nat × Nat) :=
  map.source.points.map fun point => (point, map.target + (point - map.source.first))

end RunMap

/-- Runs in the notation, under the names that a property or value goes by.  The names are in lower
case and without blanks, hyphens and underscores. -/
structure NamedRuns where
  names : List String
  rows : List String

example :
    Run.ofRows ["41-5A AA", "100-136/2"] = [⟨65, 90, 1⟩, ⟨170, 170, 1⟩, ⟨256, 310, 2⟩] := by
  decide

end SchemaCompiler.Unicode
