import SchemaCompiler.Unicode.Composition
import SchemaCompiler.Unicode.Joining

/-!
The characters that join letters or keep them apart.

They cannot be seen, so a label may have them only where they change how its letters are written.

* `Domain.joinersFit`: whether a label has them in such places only.
-/

namespace SchemaCompiler.Domain

/-- The character that keeps letters apart. -/
def nonJoiner : Nat := 0x200C

/-- The character that joins letters. -/
def joiner : Nat := 0x200D

/-- Whether the next letter of a row, marks apart, is joined on the side of the row. -/
def meetsJoined (side : Unicode.PointSet) (points : List Nat) : Bool :=
  (points.dropWhile Unicode.joinedAcross.contains).head?.any fun point =>
    side.contains point || Unicode.joinedOnBothSides.contains point

/-- Whether joining characters are where they count, given what stands before the row with the last
one first: after a sign that takes the vowel from a consonant, and to keep apart letters that would be
joined. -/
def joinersFitAfter (before : List Nat) : List Nat → Bool
  | [] => true
  | point :: rest =>
    let fits :=
      if point = nonJoiner ∨ point = joiner then
        before.head?.any (fun last => Unicode.combiningClass last = 9) ||
          (point = nonJoiner && meetsJoined Unicode.joinedForward before &&
            meetsJoined Unicode.joinedBack rest)
      else true
    fits && joinersFitAfter (point :: before) rest

/-- Whether joining characters are where they count. -/
def joinersFit (label : List Nat) : Bool := joinersFitAfter [] label

end SchemaCompiler.Domain
