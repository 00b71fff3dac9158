/-!
Strings measured and ordered in UTF-16 code units.

* `Text.units`: the code units of a string;
* `Text.unitCount`: how many there are, which is the length that bounds on strings are about;
* `Text.unitsLe`: the order of the code units, in which a canonical object lists its members.
-/

namespace SchemaCompiler.Text

/-- The code units of a character: one, or a surrogate pair. -/
def charUnits (c : Char) : List Nat :=
  let n := c.toNat
  if n < 0x10000 then [n]
  else [0xD800 + (n - 0x10000) / 0x400, 0xDC00 + (n - 0x10000) % 0x400]

/-- The code units of a string. -/
def units (s : String) : List Nat := s.toList.flatMap charUnits

/-- The number of code units of a string. -/
def unitCount (s : String) : Nat := (units s).length

/-- The lexicographic order of lists of numbers. -/
def lexLe : List Nat → List Nat → Bool
  | [], _ => true
  | _ :: _, [] => false
  | a :: as, b :: bs => if a = b then lexLe as bs else decide (a < b)

/-- The order of strings by their code units. -/
def unitsLe (s t : String) : Bool := lexLe (units s) (units t)

end SchemaCompiler.Text
