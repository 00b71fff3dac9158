/-!
Hexadecimal digits.

* `Text.hexValue?`: the value of a digit of either case;
* `Text.hexDigit`, `Text.upperHexDigit`: the digits of a value, in lower and in upper case;
* `Text.hexByte`: a byte as two lower-case digits.
-/

namespace SchemaCompiler.Text

/-- The value of a hexadecimal digit. -/
def hexValue? (c : Char) : Option Nat :=
  if '0' ≤ c ∧ c ≤ '9' then some (c.toNat - '0'.toNat)
  else if 'a' ≤ c ∧ c ≤ 'f' then some (c.toNat - 'a'.toNat + 10)
  else if 'A' ≤ c ∧ c ≤ 'F' then some (c.toNat - 'A'.toNat + 10)
  else none

/-- The lower-case digit of a number below sixteen. -/
def hexDigit (n : Nat) : Char := Nat.digitChar n

/-- The upper-case digit of a number below sixteen. -/
def upperHexDigit (n : Nat) : Char := (Nat.digitChar n).toUpper

/-- A number below 256 as two lower-case digits. -/
def hexByte (n : Nat) : List Char := [hexDigit (n / 16), hexDigit (n % 16)]

theorem hexValue?_upperHexDigit {n : Nat} (h : n < 16) : hexValue? (upperHexDigit n) = some n := by
  have : ∀ i : Fin 16, hexValue? (upperHexDigit i.val) = some i.val := by decide
  exact this ⟨n, h⟩

end SchemaCompiler.Text
