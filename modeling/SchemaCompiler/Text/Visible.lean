import SchemaCompiler.Unicode.Property

/-!
Strings in messages, with the characters that cannot be seen written out.

* `Text.visible`: a string in quotation marks.
-/

namespace SchemaCompiler.Text

/-- The characters that cannot be seen: controls, separators and unassigned ones, and marks that go
onto the character before them. -/
def invisible : Unicode.PointSet :=
  .unionAll [Unicode.categories ["cc", "cf", "co", "zl", "zp", "zs"], Unicode.unassigned,
    Unicode.withProperty "graphemeextend"]

/-- A number in hexadecimal digits. -/
def hexDigits (n : Nat) : List Char := Nat.toDigits 16 n

/-- A character inside quotation marks. -/
def visibleChar (c : Char) : List Char :=
  if c = '"' then ['\\', '"']
  else if c = '\\' then ['\\', '\\']
  else if c = '\n' then ['\\', 'n']
  else if c = '\r' then ['\\', 'r']
  else if c = '\t' then ['\\', 't']
  else if c = '\x00' then ['\\', '0']
  else if c ≠ ' ' ∧ invisible.contains c.toNat then
    ['\\', 'u', '\x7b'] ++ hexDigits c.toNat ++ ['\x7d']
  else [c]

/-- A string in quotation marks. -/
def visible (s : String) : String := String.ofList ('"' :: s.toList.flatMap visibleChar ++ ['"'])

end SchemaCompiler.Text
