import SchemaCompiler.Text.Affix

/-!
Tables of spellings in rows.

* `SpellingRow`: the spellings of code points that follow one another;
* `SpellingRow.find?`: the spelling that rows have for a code point.
-/

namespace SchemaCompiler.Text

/-- The code point of the first of some spellings, and the spellings of it and those after it, with a
blank between two of them.  Between two blanks there can be nothing, and then a code point has no
spelling. -/
abbrev SpellingRow := Nat × String

namespace SpellingRow

/-- The spelling that a row has for a code point. -/
def spelling? (row : SpellingRow) (point : Nat) : Option String :=
  (splitOn ' ' row.2)[point - row.1]?.filter (· ≠ "")

/-- The spelling that rows have for a code point.  The rows are in the order of their code points, so
it is in the last one that begins early enough. -/
def find? (rows : List SpellingRow) (point : Nat) : Option String :=
  (rows.takeWhile (·.1 ≤ point)).getLast?.bind (·.spelling? point)

end SpellingRow

end SchemaCompiler.Text
