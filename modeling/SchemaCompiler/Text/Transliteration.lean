import SchemaCompiler.Text.Transliteration.Alphabets
import SchemaCompiler.Text.Transliteration.Han
import SchemaCompiler.Text.Transliteration.Hangul
import SchemaCompiler.Text.Transliteration.Latin
import SchemaCompiler.Text.Transliteration.Pictures
import SchemaCompiler.Text.Transliteration.Signs
import SchemaCompiler.Text.Transliteration.Syllables
import SchemaCompiler.Unicode.Category

/-!
Characters outside ASCII spelled in ASCII.

Letters with marks lose them; letters of other alphabets, signs of other scripts and pictures are
spelled by their sound or name.  A spelling stands for one character, whatever is around it.  A
character that is no letter and has no spelling stands for an apostrophe if it can be seen, and for
nothing if it cannot.

* `Text.spelling`: the spelling of a character;
* `Text.toAscii`: a text in ASCII.
-/

namespace SchemaCompiler.Text

/-- The spelling of a letter or of what is written like one. -/
def letterSpelling? (point : Nat) : Option String :=
  [latinRows, alphabetRows, signRows, syllableRows, indicRows].findSome? fun rows =>
    SpellingRow.find? rows point

/-- The spelling of a picture: its name between colons. -/
def pictureSpelling? (point : Nat) : Option String :=
  (SpellingRow.find? pictureRows point).map fun name => ":" ++ name ++ ":"

/-- The spelling of a sign of a word, with a capital letter. -/
def hanSpelling? (c : Char) : Option String :=
  (hanRows.find? fun (_, signs) => signs.contains c).map fun (syllable, _) => syllable.capitalize

/-- The blanks. -/
def blankPoints : Unicode.PointSet := Unicode.categories ["zs", "zl", "zp"]

/-- The hyphens and dashes. -/
def dashPoints : Unicode.PointSet := Unicode.categories ["pd"]

/-- The other marks of punctuation and signs. -/
def markPoints : Unicode.PointSet :=
  Unicode.categories ["pc", "ps", "pe", "pi", "pf", "po", "sm", "sc", "sk", "so"]

/-- The spelling of a blank, a mark of punctuation or a sign. -/
def markSpelling? (point : Nat) : Option String :=
  if blankPoints.contains point then some " "
  else if dashPoints.contains point then some "-"
  else if markPoints.contains point then some "'"
  else none

/-- The spelling of a character; nothing for one that has none. -/
def spelling (c : Char) : String :=
  let point := c.toNat
  if point < 128 then String.singleton c
  else
    ((letterSpelling? point).or ((pictureSpelling? point).or ((hangulSpelling? point).or
      ((markSpelling? point).or (hanSpelling? c))))).getD ""

/-- A text in ASCII. -/
def toAscii (s : String) : String := String.join (s.toList.map spelling)

end SchemaCompiler.Text
