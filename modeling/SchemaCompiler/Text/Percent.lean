import SchemaCompiler.Text.Hex

/-!
Percent-encoding: a byte written as `%` and two hexadecimal digits.

* `Text.percentEncode`: encodes the bytes outside ASCII and those of a given set;
* `Text.percentDecode?`: the string of the decoded bytes, if these are UTF-8.  A `%` without two
  digits after it stands for itself.
-/

namespace SchemaCompiler.Text

/-- A byte as a percent triple. -/
def percentTriple (byte : UInt8) : List Char :=
  ['%', upperHexDigit (byte.toNat / 16), upperHexDigit (byte.toNat % 16)]

/-- A byte of ASCII outside the set as a character, any other as a triple. -/
def percentByte (encoded : Char → Bool) (byte : UInt8) : List Char :=
  let c := Char.ofNat byte.toNat
  if byte.toNat < 128 && !encoded c then [c] else percentTriple byte

/-- Encodes the bytes of a string. -/
def percentEncode (encoded : Char → Bool) (s : String) : String :=
  String.ofList (s.toUTF8.toList.flatMap (percentByte encoded))

/-- The bytes that a row of characters stands for. -/
def percentBytes : List Char → List UInt8
  | [] => []
  | '%' :: a :: b :: rest =>
    match hexValue? a, hexValue? b with
    | some high, some low => UInt8.ofNat (high * 16 + low) :: percentBytes rest
    | _, _ => '%'.toUInt8 :: percentBytes (a :: b :: rest)
  | c :: rest => (String.singleton c).toUTF8.toList ++ percentBytes rest

/-- The string that a row of characters stands for, if its bytes are UTF-8. -/
def percentDecode? (s : String) : Option String :=
  String.fromUTF8? ⟨(percentBytes s.toList).toArray⟩

end SchemaCompiler.Text
