import SchemaCompiler.Text.Affix
import SchemaCompiler.Text.Hex

/-!
Network addresses.

* `Address.isDotted`: four decimal numbers below 256;
* `Address.isGrouped`: eight groups of hexadecimal digits, of which `::` stands for a row of zeros
  and the last two can be a dotted address;
* `Address.isNumeric`, `Address.isNumber`: hosts that end in a number, and those of them that are
  addresses.
-/

namespace SchemaCompiler.Address

/-- The value of decimal digits. -/
def decimal (cs : List Char) : Nat := cs.foldl (fun n c => n * 10 + (c.toNat - '0'.toNat)) 0

/-- Whether a row of characters is a decimal number below 256 without leading zeros. -/
def isOctet (cs : List Char) : Bool :=
  !cs.isEmpty && decide (cs.length ≤ 3) && cs.all Char.isDigit && decide (decimal cs < 256) &&
    (cs.length == 1 || cs.head? != some '0')

/-- Whether a row of characters is an address of four numbers. -/
def isDotted (cs : List Char) : Bool :=
  let parts := Text.splitList '.' cs
  parts.length == 4 && parts.all isOctet

/-- Whether a row of characters is a group of an address. -/
def isGroup (cs : List Char) : Bool :=
  !cs.isEmpty && decide (cs.length ≤ 4) && cs.all fun c => (Text.hexValue? c).isSome

/-- The number of groups that some pieces make, the last of which may be a dotted address. -/
def groupCount? (dottedEnd : Bool) : List (List Char) → Option Nat
  | [] => some 0
  | [last] =>
    if isGroup last then some 1 else if dottedEnd && isDotted last then some 2 else none
  | piece :: rest =>
    if isGroup piece then (groupCount? dottedEnd rest).map (· + 1) else none

/-- The groups of what stands on one side of the gap. -/
def sideCount? (dottedEnd : Bool) (cs : List Char) : Option Nat :=
  if cs.isEmpty then some 0 else groupCount? dottedEnd (Text.splitList ':' cs)

/-- What stands before and after the first gap. -/
def cutGap? : List Char → Option (List Char × List Char)
  | [] => none
  | ':' :: ':' :: rest => some ([], rest)
  | c :: rest => (cutGap? rest).map fun (before, after) => (c :: before, after)

/-- Whether a row of characters is an address of eight groups. -/
def isGrouped (cs : List Char) : Bool :=
  match cutGap? cs with
  | none => groupCount? true (Text.splitList ':' cs) == some 8
  | some (before, after) =>
    match sideCount? false before, sideCount? true after with
    | some a, some b => decide (a + b ≤ 7)
    | _, _ => false

/-! ### Hosts that are numbers -/

/-- The value of digits in a base, all of which are below it. -/
def valueIn? (base : Nat) (cs : List Char) : Option Nat :=
  cs.foldl
    (fun value c => do
      let n ← value
      let digit ← Text.hexValue? c
      if digit < base then some (n * base + digit) else none)
    (some 0)

/-- A number in decimal, or in octal or hexadecimal by its beginning. -/
def numberIn? (cs : List Char) : Option Nat :=
  match cs with
  | [] => none
  | '0' :: 'x' :: rest | '0' :: 'X' :: rest => valueIn? 16 rest
  | '0' :: c :: rest => valueIn? 8 (c :: rest)
  | _ => valueIn? 10 cs

/-- The parts of a host between dots, without an empty one at the end. -/
def hostParts (cs : List Char) : List (List Char) :=
  let parts := Text.splitList '.' cs
  if parts.getLast? = some [] then parts.dropLast else parts

/-- Whether a host ends in a number, and so can only be an address. -/
def isNumeric (cs : List Char) : Bool :=
  match (hostParts cs).getLast? with
  | none => false
  | some last => (!last.isEmpty && last.all Char.isDigit) || (numberIn? last).isSome

/-- Whether a host that ends in a number is an address: up to four numbers, of which the last one
takes the bytes that are left. -/
def isNumber (cs : List Char) : Bool :=
  let parts := hostParts cs
  match parts.mapM numberIn? with
  | none => false
  | some numbers =>
    decide (numbers.length ≤ 4) && numbers.dropLast.all (· < 256) &&
      numbers.getLast?.any fun last => last < Nat.pow 256 (5 - numbers.length)

end SchemaCompiler.Address
