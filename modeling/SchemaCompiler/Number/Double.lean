/-!
Finite double-precision numbers, exactly.

Every finite double is a whole number of steps of size `2 ^ (-1074)`, so a double is kept as a
sign and that number of steps.  Comparing two doubles is then comparing two integers, and every
operation is an exact operation on integers followed by one rounding.

* `Double`: a sign and a representable number of steps;
* `Double.nearest`: the double nearest to a fraction of a step count, ties to the even one, and
  `none` beyond the greatest finite double;
* `Double.ofInt`, `Double.div`: the rounded operations;
* `Double.value`: the signed number of steps, which orders doubles.
-/

namespace SchemaCompiler

/-- The number of bits below the highest one that a double keeps of its step count. -/
def Double.precision : Nat := 52

/-- Step counts of finite doubles lie below this bound. -/
def Double.limit : Nat := Nat.pow 2 2098

/-- One is this many steps. -/
def Double.one : Nat := Nat.pow 2 1074

/-- The size of the gap above a step count, as a power of two: only the highest 53 bits of a
step count are kept. -/
def Double.gap (steps : Nat) : Nat := steps.log2 - Double.precision

/-- A step count is representable if it is below the limit and its bits under the gap are zero. -/
def Double.Representable (steps : Nat) : Prop :=
  steps < Double.limit ∧ steps % Nat.pow 2 (Double.gap steps) = 0

instance (steps : Nat) : Decidable (Double.Representable steps) :=
  inferInstanceAs (Decidable (_ ∧ _))

/-- A finite double: a sign and a magnitude counted in steps of `2 ^ (-1074)`.  Zero has two
signs. -/
structure Double where
  negative : Bool
  steps : Nat
  representable : Double.Representable steps
  deriving DecidableEq

namespace Double

/-- The zero of a sign. -/
def zero (negative : Bool) : Double := ⟨negative, 0, by decide +kernel⟩

instance : Inhabited Double := ⟨zero false⟩

/-- The quotient of two natural numbers rounded to the nearest one, a tie going to the even. -/
def roundQuotient (numerator denominator : Nat) : Nat :=
  let quotient := numerator / denominator
  let twice := 2 * (numerator % denominator)
  if twice < denominator then quotient
  else if denominator < twice then quotient + 1
  else quotient + quotient % 2

/-- The step count nearest to the fraction, on the grid of the fraction's own gap. -/
def roundSteps (numerator denominator : Nat) : Nat :=
  let unit := Nat.pow 2 (gap (numerator / denominator))
  roundQuotient numerator (denominator * unit) * unit

/-- The double nearest to a fraction of steps, a tie going to the even neighbour; `none` if that
is beyond the greatest finite double. -/
def nearest (negative : Bool) (numerator denominator : Nat) : Option Double :=
  if h : Representable (roundSteps numerator denominator) then
    some ⟨negative, roundSteps numerator denominator, h⟩
  else none

/-- The signed number of steps. -/
def value (x : Double) : Int := if x.negative then -(x.steps : Int) else x.steps

/-- The greatest finite double of a sign. -/
def greatest (negative : Bool) : Double :=
  ⟨negative, (Nat.pow 2 53 - 1) * Nat.pow 2 2045, by decide +kernel⟩

/-- The double nearest to an integer; an integer beyond the range goes to the greatest finite
double of its sign. -/
def ofInt (n : Int) : Double :=
  (nearest (decide (n < 0)) (n.natAbs * one) 1).getD (greatest (decide (n < 0)))

/-- The rounded quotient; `none` for a zero divisor or a quotient beyond the finite doubles. -/
def div (x y : Double) : Option Double :=
  if y.steps = 0 then none
  else nearest (x.negative != y.negative) (x.steps * one) y.steps

/-- Numerically equal: the two zeros are, whatever their signs. -/
def sameValue (x y : Double) : Bool := decide (x.value = y.value)

/-- Numerically less. -/
def less (x y : Double) : Bool := decide (x.value < y.value)

/-- How far the magnitude is from the nearest whole number, in steps. -/
def offWhole (x : Double) : Nat :=
  let fraction := x.steps % one
  min fraction (one - fraction)

/-- Whether the fractional part is zero. -/
def isWhole (x : Double) : Bool := x.steps % one == 0

end Double

end SchemaCompiler
