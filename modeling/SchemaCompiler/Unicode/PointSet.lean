import SchemaCompiler.Unicode.Folding

/-!
Sets of code points as intervals.

* `PointSet`: a set, written as intervals in rising order with gaps between them;
* `PointSet.contains`: whether a code point is in a set;
* `PointSet.union`, `PointSet.complement` and what is made of them: the operations on sets;
* `PointSet.folded`: a set with what differs from its members in case alone.
-/

namespace SchemaCompiler.Unicode

/-- The code points from one to another, with both. -/
structure Interval where
  first : Nat
  last : Nat
  deriving DecidableEq, Hashable, Repr

/-- The intervals of a run. -/
def Run.intervals (run : Run) : List Interval :=
  if run.step = 1 then [⟨run.first, run.last⟩] else run.points.map fun point => ⟨point, point⟩

/-- The last code point. -/
def lastPoint : Nat := 0x10FFFF

/-- A set of code points: intervals in rising order, with a gap before each but the first. -/
structure PointSet where
  intervals : List Interval
  deriving DecidableEq, Repr

namespace PointSet

/-! ### Making sets -/

/-- An interval and those that begin after it, with what overlaps or touches made one. -/
def joinedFrom (current : Interval) : List Interval → List Interval
  | [] => [current]
  | next :: rest =>
    if next.first ≤ current.last + 1 then
      joinedFrom ⟨current.first, max current.last next.last⟩ rest
    else current :: joinedFrom next rest

/-- The set of intervals that are in the order of their beginnings. -/
def ofSorted : List Interval → PointSet
  | [] => ⟨[]⟩
  | first :: rest => ⟨joinedFrom first rest⟩

/-- Whether an interval begins no later than another. -/
def startsFirst (a b : Interval) : Bool := decide (a.first ≤ b.first)

/-- The set of some intervals. -/
def ofIntervals (intervals : List Interval) : PointSet := ofSorted (intervals.mergeSort startsFirst)

/-- The set that rows in the notation of runs write. -/
def ofRows (rows : List String) : PointSet := ofIntervals ((Run.ofRows rows).flatMap Run.intervals)

/-- The set of some code points. -/
def ofPoints (points : List Nat) : PointSet := ofIntervals (points.map fun point => ⟨point, point⟩)

/-- The set of some characters. -/
def ofChars (cs : List Char) : PointSet := ofPoints (cs.map Char.toNat)

/-- The set of one code point. -/
def single (point : Nat) : PointSet := ⟨[⟨point, point⟩]⟩

/-- The set of the code points between two, with both. -/
def range (first last : Nat) : PointSet := ⟨[⟨first, last⟩]⟩

/-- The empty set. -/
def empty : PointSet := ⟨[]⟩

/-! ### What is in a set -/

/-- Whether a code point is in a set: whether it is in the first interval that does not end before
it. -/
def contains (points : PointSet) (point : Nat) : Bool :=
  (points.intervals.find? fun interval => decide (point ≤ interval.last)).any
    fun interval => decide (interval.first ≤ point)

/-- Whether a set has no members. -/
def isEmpty (points : PointSet) : Bool := points.intervals.isEmpty

/-- Whether all members of a set are in ASCII. -/
def isAscii (points : PointSet) : Bool :=
  points.intervals.all fun interval => decide (interval.last < 128)

/-! ### Operations -/

/-- What is in one of two sets. -/
def union (a b : PointSet) : PointSet := ofSorted (List.merge a.intervals b.intervals startsFirst)

/-- What is in one of several sets. -/
def unionAll (sets : List PointSet) : PointSet := ofIntervals (sets.flatMap intervals)

/-- The gaps between intervals from a code point to the last one. -/
def gapsFrom (start : Nat) : List Interval → List Interval
  | [] => if start ≤ lastPoint then [⟨start, lastPoint⟩] else []
  | interval :: rest =>
    let gaps := gapsFrom (interval.last + 1) rest
    if start < interval.first then ⟨start, interval.first - 1⟩ :: gaps else gaps

/-- What is not in a set. -/
def complement (points : PointSet) : PointSet := ⟨gapsFrom 0 points.intervals⟩

/-- What is in both of two sets. -/
def intersection (a b : PointSet) : PointSet := (a.complement.union b.complement).complement

/-- What is in the first of two sets alone. -/
def difference (a b : PointSet) : PointSet := (a.complement.union b).complement

/-- What is in one of two sets and not in the other. -/
def symmetricDifference (a b : PointSet) : PointSet := (a.difference b).union (b.difference a)

/-! ### Case -/

/-- The code points that those of a set go to. -/
def image (points : PointSet) (pairs : List (Nat × Nat)) : PointSet :=
  ofPoints ((pairs.filter fun pair => points.contains pair.1).map Prod.snd)

/-- A set with each code point that differs from one of its members in case alone: one that folds to
what a member folds to. -/
def folded (points : PointSet) : PointSet :=
  let folds := points.union (points.image foldPairs)
  folds.union (folds.image (foldPairs.map Prod.swap))

/-- A set with both cases of its letters in ASCII. -/
def asciiFolded (points : PointSet) : PointSet :=
  let cases := (List.range' 65 26).map fun upper => (upper, upper + 32)
  points.union (points.image (cases ++ cases.map Prod.swap))

end PointSet

/-- The sets in a table of runs with the names that they go by. -/
def NamedRuns.find? (table : List NamedRuns) (name : String) : Option PointSet :=
  (table.find? fun entry => entry.names.contains name).map fun entry => .ofRows entry.rows

example : PointSet.complement ⟨[⟨0, 0x61⟩, ⟨0x63, lastPoint⟩]⟩ = .single 0x62 := by decide

end SchemaCompiler.Unicode
