import SchemaCompiler.Pattern.Basic
import SchemaCompiler.Unicode.Encoding
import Std.Data.HashMap

/-!
The size of the automata that search for a pattern.

A pattern is searched for by an automaton on bytes that reads forward, and by one that reads
backward.  What their states take up is bounded, which bounds the counts of repetitions.

* `Pattern.charsSize`: what the states for one character take up;
* `Pattern.size`: what the states for a pattern take up;
* `Pattern.fits`: whether both automata stay within `sizeLimit`.
-/

namespace SchemaCompiler

/-- The order in which an automaton reads a text. -/
inductive Direction where
  | forward
  | backward
  deriving DecidableEq, Repr

namespace Pattern

/-- What the automata may take up. -/
def sizeLimit : Nat := 10485760

/-- What a state takes up besides its ways on. -/
def stateSize : Nat := 32

/-- What a way on takes up in a state that chooses by the next byte. -/
def rangeSize : Nat := 8

/-- What a way on takes up in a state that chooses freely. -/
def branchSize : Nat := 4

/-- What a state takes up that chooses freely between two ways on. -/
def forkSize : Nat := stateSize + 2 * branchSize

/-! ### One character -/

/-- The states that choose by the next byte, each with the ranges that it knows and the states that
these lead to. -/
abbrev ByteStates := Std.HashMap (List (Unicode.Interval × Nat)) Nat

/-- The rows of bytes in groups that begin alike. -/
def byFirst (rows : List (List Unicode.Interval)) : List (List (List Unicode.Interval)) :=
  rows.splitBy fun a b => a.head? == b.head?

/-- The state that reads the rest of some rows of bytes.  States that know the same ranges with the
same states beyond are one. -/
def byteState : Nat → List (List Unicode.Interval) → StateM ByteStates Nat
  | 0, _ => return 0
  | depth + 1, rows => do
    if rows.any List.isEmpty then return 0
    let ways ← (byFirst rows).mapM fun group => do
      let next ← byteState depth (group.map List.tail)
      return ((group.head?.bind List.head?).getD ⟨0, 0⟩, next)
    let states ← get
    match states[ways]? with
    | some known => return known
    | none =>
      let fresh := states.size + 1
      set (states.insert ways fresh)
      return fresh

/-- What the states take up that read some rows of bytes forward. -/
def forwardSize (rows : List (List Unicode.Interval)) : Nat :=
  let (_, states) := (byteState 4 rows).run ∅
  states.fold (fun size ways _ => size + stateSize + rangeSize * ways.length) stateSize

/-- The number of beginnings that some rows of bytes have, those that are alike taken once. -/
def beginnings : Nat → List (List Unicode.Interval) → Nat
  | 0, _ => 0
  | depth + 1, rows =>
    ((byFirst (rows.filter fun row => !row.isEmpty)).map fun group =>
      1 + beginnings depth (group.map List.tail)).sum

/-- What the states take up that read some rows of bytes backward. -/
def backwardSize (rows : List (List Unicode.Interval)) : Nat :=
  2 * stateSize + branchSize * rows.length + stateSize * beginnings 4 rows

/-- What the states take up that read one character of a set.  A single character has a state for
each of its bytes, and a set in ASCII one state for all. -/
def charsSize (direction : Direction) (points : Unicode.PointSet) : Nat :=
  match points.intervals with
  | [⟨first, last⟩] =>
    if first = last then stateSize * Unicode.encodedLength first else several
  | _ => several
where
  /-- What the states for a set of several characters take up. -/
  several : Nat :=
    if points.isAscii then 2 * stateSize + rangeSize * points.intervals.length
    else
      match direction with
      | .forward => forwardSize points.encodings
      | .backward => backwardSize points.encodings

/-! ### Patterns -/

/-- Whether each occurrence of a pattern has a character in it. -/
def takesSomething : Pattern → Bool
  | empty | assertion _ => false
  | chars points => !points.isEmpty
  | sequence first second => first.takesSomething || second.takesSomething
  | choice first second => first.takesSomething && second.takesSomething
  | repeated inner least _ => inner.takesSomething && least != 0
  | group inner => inner.takesSomething

/-- What the states for a repetition take up, given those for one time. -/
def repeatedSize (once : Nat) (takesSomething : Bool) (least : Nat) (most : Option Nat) : Nat :=
  match least, most with
  | 0, some 1 => once + forkSize + stateSize
  | 0, none => if takesSomething then once + forkSize else once + 2 * forkSize + stateSize
  | least, none => least * once + forkSize
  | least, some most =>
    if least = most then least * once
    else
      (if least = 0 then stateSize else least * once) + stateSize +
        (most - least) * (once + forkSize)

/-- What the states for a pattern take up, and the number of alternatives between which it is a
choice.  A choice of several takes up one state before them and one after them. -/
def sizeAndWidth (direction : Direction) : Pattern → Nat × Nat
  | empty | assertion _ => (stateSize, 1)
  | chars points => (charsSize direction points, 1)
  | sequence first second =>
    (total (first.sizeAndWidth direction) + total (second.sizeAndWidth direction), 1)
  | choice first second =>
    let (firstSize, firstWidth) := first.sizeAndWidth direction
    let (secondSize, secondWidth) := second.sizeAndWidth direction
    (firstSize + secondSize, firstWidth + secondWidth)
  | repeated inner least most =>
    (repeatedSize (total (inner.sizeAndWidth direction)) inner.takesSomething least most, 1)
  | group inner =>
    let marks := match direction with
      | .forward => 2 * stateSize
      | .backward => 0
    (marks + total (inner.sizeAndWidth direction), 1)
where
  /-- What all states take up, with those around the alternatives. -/
  total : Nat × Nat → Nat
    | (size, width) => if width = 1 then size else size + 2 * stateSize + branchSize * width

/-- What the states of an automaton take up: those that look for the beginning of an occurrence,
those for the pattern as a group, and the last one. -/
def size (direction : Direction) (pattern : Pattern) : Nat :=
  let search := forkSize + 2 * stateSize + rangeSize
  search + ((group pattern).sizeAndWidth direction).1 + stateSize

/-- Whether the automata for a pattern stay within the limit. -/
def fits (pattern : Pattern) : Bool :=
  decide (pattern.size .forward ≤ sizeLimit) && decide (pattern.size .backward ≤ sizeLimit)

end Pattern

end SchemaCompiler
