import SchemaCompiler.Number.Shortest

/-!
Numbers as they stand in JSON text: whole numbers are kept exactly, all others as doubles.

* `Json.Number`: an exact integer or a double;
* `Json.Number.toDouble`: the double that a number is compared through;
* `Json.Number.text`: the text it is written as, `Json.Number.style` giving the layout;
* `Json.Number.same`: an integer is never the same number as a double;
* `Json.Number.equals`, `Json.Number.less`: the numerical comparisons.
-/

namespace SchemaCompiler.Json

/-- A JSON number.  Integers up to 64 bits are exact; everything else is a double. -/
inductive Number where
  | integer (value : Int)
  | real (value : Double)
  deriving DecidableEq

namespace Number

instance : Inhabited Number := ⟨.integer 0⟩

/-- The double nearest to the number. -/
def toDouble : Number → Double
  | integer value => Double.ofInt value
  | real value => value

/-- Doubles are written with a point or an exponent, in positional form from `0.00001` up to
sixteen digits before the point. -/
def style : DecimalStyle := ⟨-4, 16, true, true⟩

/-- The number as JSON text. -/
def text : Number → String
  | integer value => toString value
  | real value => value.render style

/-- Sameness as stored: two integers with one value, or two doubles with one value. -/
def same : Number → Number → Bool
  | integer a, integer b => a == b
  | real a, real b => a.sameValue b
  | _, _ => false

/-- Numerically equal, as doubles. -/
def equals (a b : Number) : Bool := a.toDouble.sameValue b.toDouble

/-- Numerically less, as doubles. -/
def less (a b : Number) : Bool := a.toDouble.less b.toDouble

/-- Whether a number has no fractional part. -/
def isWhole : Number → Bool
  | integer _ => true
  | real x => x.isWhole

/-- The integer, if it fits 64 bits with a sign. -/
def signed? : Number → Option Int
  | integer n => if -0x8000000000000000 ≤ n ∧ n < 0x8000000000000000 then some n else none
  | real _ => none

end Number

end SchemaCompiler.Json
