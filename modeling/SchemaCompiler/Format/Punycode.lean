/-!
Punycode: the code points of a label written with letters, digits and hyphens.

A label is written as its ASCII part, and then for each other code point, from the least to the
greatest, the number of steps to the place where it is put in.

* `Punycode.encode`: the text of a label;
* `Punycode.decode?`: the label that a text writes.
-/

namespace SchemaCompiler.Punycode

/-- The digit of a number below 36. -/
def digit (n : Nat) : Char :=
  if n < 26 then Char.ofNat (n + 'a'.toNat) else Char.ofNat (n - 26 + '0'.toNat)

/-- The number that a digit stands for. -/
def digitValue? (c : Char) : Option Nat :=
  if c.isLower then some (c.toNat - 'a'.toNat)
  else if c.isUpper then some (c.toNat - 'A'.toNat)
  else if c.isDigit then some (c.toNat - '0'.toNat + 26)
  else none

/-- The least value of the last digit of a number at a position, under a bias. -/
def threshold (bias position : Nat) : Nat := max 1 (min 26 (position - bias))

/-- Divides a number of steps down until it is small, and counts the positions. -/
def settle (steps position : Nat) : Nat :=
  if h : 455 < steps then settle (steps / 35) (position + 36)
  else position + 36 * steps / (steps + 38)
  termination_by steps
  decreasing_by exact Nat.div_lt_self (by omega) (by decide)

/-- The bias after a number of steps that brought the label to a length. -/
def adapt (steps length : Nat) (first : Bool) : Nat :=
  let share := if first then steps / 700 else steps / 2
  settle (share + share / length) 0

/-- The digits of a number from a position on. -/
def digits (bias position n : Nat) : List Char :=
  let least := threshold bias position
  if h : n < least then [digit n]
  else
    have : (n - least) / (36 - least) < n := by
      have h1 : 1 ≤ least := Nat.le_max_left ..
      have h2 : least ≤ 26 := Nat.max_le.2 ⟨by decide, Nat.min_le_left ..⟩
      calc (n - least) / (36 - least) ≤ n - least := Nat.div_le_self ..
        _ < n := by omega
    digit (least + (n - least) % (36 - least)) ::
      digits bias (position + 36) ((n - least) / (36 - least))
  termination_by n

/-- How far the writing of a label has come. -/
structure Progress where
  /-- The least code point that is still to be written. -/
  point : Nat
  steps : Nat
  bias : Nat
  /-- The number of code points that are written. -/
  length : Nat
  first : Bool
  written : List Char

/-- Writes the occurrences of the current code point. -/
def Progress.pass (progress : Progress) (label : List Nat) : Progress :=
  label.foldl
    (fun at' c =>
      if c < at'.point then { at' with steps := at'.steps + 1 }
      else if c = at'.point then
        { at' with
          steps := 0
          bias := adapt at'.steps (at'.length + 1) at'.first
          length := at'.length + 1
          first := false
          written := at'.written ++ digits at'.bias 36 at'.steps }
      else at')
    progress

/-- The text of a label. -/
def encode (label : List Char) : List Char :=
  let points := label.map Char.toNat
  let basic := label.filter fun c => c.toNat < 128
  let others := (points.filter (128 ≤ ·)).eraseDups.mergeSort
  let start : Progress :=
    ⟨128, 0, 72, basic.length, true, if basic.isEmpty then [] else basic ++ ['-']⟩
  let finish := others.foldl
    (fun progress point =>
      let reached :=
        { progress with
          steps := progress.steps + (point - progress.point) * (progress.length + 1)
          point := point }
      let passed := reached.pass points
      { passed with steps := passed.steps + 1, point := point + 1 })
    start
  finish.written

/-- A number, and what follows it. -/
def number? (bias position weight : Nat) : List Char → Option (Nat × List Char)
  | [] => none
  | c :: rest => do
    let value ← digitValue? c
    let least := threshold bias position
    if value < least then some (value * weight, rest)
    else
      let (more, rest) ← number? bias (position + 36) (weight * (36 - least)) rest
      some (value * weight + more, rest)

/-- Puts in the code points that the digits write. -/
def insertions? (fuel point index bias : Nat) (first : Bool) (label : List Nat) :
    List Char → Option (List Nat)
  | [] => some label
  | c :: rest =>
    match fuel with
    | 0 => none
    | fuel + 1 => do
      let (steps, rest) ← number? bias 36 1 (c :: rest)
      let length := label.length + 1
      let reached := index + steps
      let point := point + reached / length
      let index := reached % length
      insertions? fuel point (index + 1) (adapt steps length first) false
        (label.take index ++ point :: label.drop index) rest

/-- The label that a text writes. -/
def decode? (text : List Char) : Option (List Char) := do
  let tail := (text.reverse.takeWhile (· ≠ '-')).reverse
  let basic := (text.take (text.length - tail.length)).dropLast
  if basic.any fun c => 128 ≤ c.toNat then none
  let points ← insertions? tail.length 128 0 72 true (basic.map Char.toNat) tail
  if points.all Nat.isValidChar then some (points.map Char.ofNat) else none

end SchemaCompiler.Punycode
