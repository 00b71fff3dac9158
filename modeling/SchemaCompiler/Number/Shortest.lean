import SchemaCompiler.Number.Double

/-!
The shortest decimal text of a double.

A decimal *reads back* as a double if it lies among the real numbers that round to it.  Of the
decimals with the fewest digits that read back, the one nearest to the double is chosen.

* `Double.Readback`: the interval of reals that round to a double, in exact integers;
* `Double.shortest`: the digits and the decimal exponent of the chosen decimal;
* `DecimalStyle`, `Double.render`: how digits and exponent are laid out as text.
-/

namespace SchemaCompiler

/-- A decimal `0.d₁d₂…dₙ × 10 ^ point`: its digits as a number without trailing zeros, how many
there are, and where the point stands. -/
structure Decimal where
  digits : Nat
  point : Int
  deriving DecidableEq, Repr

namespace Double

/-- The reals that round to a double, in half steps and quarter steps: those from `low` to
`high`, both counted in quarters of a step, the ends included if `closed`. -/
structure Readback where
  low : Nat
  high : Nat
  closed : Bool

/-- The interval of the reals that round to a magnitude: half a gap to each side, but only a
quarter below a power of two, where the gap narrows. -/
def readback (steps : Nat) : Readback :=
  let unit := Nat.pow 2 (gap steps)
  let below := if steps = Nat.pow 2 steps.log2 ∧ 0 < gap steps then unit else 2 * unit
  ⟨4 * steps - below, 4 * steps + 2 * unit, steps / unit % 2 == 0⟩

/-- Whether the fraction of a quarter step lies in the interval. -/
def Readback.contains (range : Readback) (numerator denominator : Nat) : Bool :=
  let low := range.low * denominator
  let high := range.high * denominator
  if range.closed then low ≤ numerator && numerator ≤ high
  else low < numerator && numerator < high

/-- Ten to a signed power, as a fraction. -/
def tenPower (exponent : Int) : Nat × Nat :=
  if 0 ≤ exponent then (Nat.pow 10 exponent.toNat, 1) else (1, Nat.pow 10 exponent.natAbs)

/-- The multiple of `10 ^ exponent` nearest to the magnitude among those of its two neighbours
that read back. -/
def onGrid (steps : Nat) (exponent : Int) : Option Nat :=
  let (up, down) := tenPower exponent
  -- the grid's unit is `up / down` ones, which is `4 * one * up / down` quarter steps
  let quarters := 4 * one * up
  let lower := 4 * steps * down / quarters
  let upper := lower + 1
  let holds (n : Nat) : Bool := (readback steps).contains (n * quarters) down
  let rest := 4 * steps * down - lower * quarters
  match holds lower, holds upper with
  | true, true =>
    if 2 * rest < quarters then some lower
    else if quarters < 2 * rest then some upper
    else some (lower + lower % 2)
  | true, false => some lower
  | false, true => some upper
  | false, false => none

/-- An estimate from below of the position of the leading decimal digit, never more than one too
small. -/
def leadingEstimate (steps : Nat) : Int :=
  ((steps.log2 : Int) - 1074) * 30103 / 100000

/-- The position of the leading decimal digit: the greatest power of ten not above the
magnitude. -/
def leading (steps : Nat) : Int :=
  let estimate := leadingEstimate steps
  let atLeast (exponent : Int) : Bool :=
    let (up, down) := tenPower exponent
    one * up ≤ steps * down
  if atLeast (estimate + 1) then estimate + 1
  else if atLeast estimate then estimate
  else estimate - 1

/-- A number without its trailing decimal zeros, and how many there were. -/
def stripZeros : (fuel n : Nat) → Nat × Nat
  | 0, n => (n, 0)
  | fuel + 1, n =>
    if n ≠ 0 ∧ n % 10 = 0 then
      let (m, zeros) := stripZeros fuel (n / 10)
      (m, zeros + 1)
    else (n, 0)

/-- The first grid with a multiple that reads back, from `count` digits on. -/
def firstGrid (steps : Nat) (lead : Int) : (count tries : Nat) → Nat × Int
  | count, 0 => (steps / one, lead - count)
  | count, tries + 1 =>
    let exponent := lead - count
    match onGrid steps exponent with
    | some n => (n, exponent)
    | none => firstGrid steps lead (count + 1) tries

/-- The decimal with the fewest digits that reads back, nearest to the magnitude; zero has no
digits.  Seventeen digits always suffice. -/
def shortest (steps : Nat) : Decimal :=
  if steps = 0 then ⟨0, 0⟩
  else
    let (n, exponent) := firstGrid steps (leading steps) 0 17
    let (digits, zeros) := stripZeros 17 n
    ⟨digits, exponent + zeros + (Nat.toDigits 10 digits).length⟩

end Double

/-- How a decimal is laid out. -/
structure DecimalStyle where
  /-- The least position of the point that is still written out with zeros after the point. -/
  leastPoint : Int
  /-- The greatest position of the point that is still written out. -/
  mostPoint : Int
  /-- Whether a whole number ends in `.0`. -/
  pointZero : Bool
  /-- Whether a negative zero keeps its sign. -/
  signedZero : Bool

/-- The text of a decimal: positional if the point is in the style's range, otherwise one digit,
the other digits after a point, and a signed exponent. -/
def Decimal.layout (style : DecimalStyle) (d : Decimal) : String :=
  let digits := Nat.toDigits 10 d.digits
  let count : Int := digits.length
  if d.digits = 0 then (if style.pointZero then "0.0" else "0")
  else if style.leastPoint ≤ d.point ∧ d.point ≤ style.mostPoint then
    if d.point ≤ 0 then
      "0." ++ String.ofList (List.replicate d.point.natAbs '0' ++ digits)
    else if count ≤ d.point then
      String.ofList (digits ++ List.replicate (d.point - count).toNat '0') ++
        (if style.pointZero then ".0" else "")
    else
      let whole := d.point.toNat
      String.ofList (digits.take whole ++ '.' :: digits.drop whole)
  else
    let mantissa := match digits with
      | [] => "0"
      | [c] => String.ofList [c]
      | c :: rest => String.ofList (c :: '.' :: rest)
    let exponent := d.point - 1
    mantissa ++ (if exponent < 0 then "e-" else "e+") ++ toString exponent.natAbs

/-- The shortest text of a double in a style. -/
def Double.render (style : DecimalStyle) (x : Double) : String :=
  let text := (shortest x.steps).layout style
  if x.negative ∧ (x.steps ≠ 0 ∨ style.signedZero) then "-" ++ text else text

end SchemaCompiler
