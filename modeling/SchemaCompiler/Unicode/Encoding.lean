import SchemaCompiler.Unicode.PointSet

/-!
The byte sequences that encode the code points of a set.

The encodings of neighbouring code points differ in their last bytes, so those of an interval are a
few rows of byte ranges, each of which stands for all ways to take one byte of each range.

* `encodedLength`: the number of bytes of a code point;
* `Interval.encodings`, `PointSet.encodings`: the rows of byte ranges of an interval and of a set.
-/

namespace SchemaCompiler.Unicode

/-- The number of bytes that encode a code point. -/
def encodedLength (point : Nat) : Nat :=
  if point < 0x80 then 1 else if point < 0x800 then 2 else if point < 0x10000 then 3 else 4

/-- The continuation bytes, each of which holds six bits. -/
def continuation (low high : Nat) : Interval := ⟨0x80 + low, 0x80 + high⟩

/-- The rows for the numbers between two, with both, that are written with a first byte counted from
`lead` and a number of continuation bytes. -/
def rowsBetween (lead : Nat) : Nat → Nat → Nat → List (List Interval)
  | 0, low, high => [[⟨lead + low, lead + high⟩]]
  | n + 1, low, high =>
    let block := 64 ^ (n + 1)
    let under := fun first rows => rows.map (⟨lead + first, lead + first⟩ :: ·)
    let first := low / block
    let last := high / block
    if first = last then under first (rowsBetween 0x80 n (low % block) (high % block))
    else
      let head := if low % block = 0 then [] else
        under first (rowsBetween 0x80 n (low % block) (block - 1))
      let tail := if high % block = block - 1 then [] else
        under last (rowsBetween 0x80 n 0 (high % block))
      let start := if low % block = 0 then first else first + 1
      let stop := if high % block = block - 1 then last + 1 else last
      let whole := List.replicate (n + 1) (continuation 0 63)
      let middle := if start < stop then [⟨lead + start, lead + stop - 1⟩ :: whole] else []
      head ++ middle ++ tail

/-- The code points with encodings of each length: the bounds, what the first byte counts from, and
the number of further bytes.  Surrogates have no encoding. -/
def encodingBlocks : List (Interval × Nat × Nat) :=
  [(⟨0, 0x7F⟩, 0, 0), (⟨0x80, 0x7FF⟩, 0xC0, 1), (⟨0x800, 0xD7FF⟩, 0xE0, 2),
    (⟨0xE000, 0xFFFF⟩, 0xE0, 2), (⟨0x10000, 0x10FFFF⟩, 0xF0, 3)]

/-- The rows of byte ranges of an interval. -/
def Interval.encodings (interval : Interval) : List (List Interval) :=
  encodingBlocks.flatMap fun (block, lead, further) =>
    let low := max interval.first block.first
    let high := min interval.last block.last
    if low ≤ high then rowsBetween lead further low high else []

/-- The rows of byte ranges of a set. -/
def PointSet.encodings (points : PointSet) : List (List Interval) :=
  points.intervals.flatMap Interval.encodings

example : (PointSet.range 0x7F 0x801).encodings =
    [[⟨0x7F, 0x7F⟩], [⟨0xC2, 0xDF⟩, ⟨0x80, 0xBF⟩], [⟨0xE0, 0xE0⟩, ⟨0xA0, 0xA0⟩, ⟨0x80, 0x81⟩]] := by
  decide

end SchemaCompiler.Unicode
