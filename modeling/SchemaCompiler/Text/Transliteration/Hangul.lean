/-!
Syllables of Korean.

* `hangulSpelling?`: the spelling of a syllable, letter by letter.
-/

namespace SchemaCompiler.Text

/-- The initial consonants of Korean syllables. -/
def initials : List String :=
  ["g", "gg", "n", "d", "dd", "r", "m", "b", "bb", "s", "ss", "", "j", "jj", "ch", "k", "t", "p", "h"]

/-- The vowels of Korean syllables. -/
def vowels : List String :=
  ["a", "ae", "ya", "yae", "eo", "e", "yeo", "ye", "o", "wa", "wae", "oe", "yo", "u", "weo", "we",
    "wi", "yu", "eu", "yi", "i"]

/-- The final consonants of Korean syllables. -/
def finals : List String :=
  ["", "g", "gg", "gs", "n", "nj", "nh", "d", "l", "lg", "lm", "lb", "ls", "lt", "lp", "lh", "m", "b",
    "bs", "s", "ss", "ng", "j", "ch", "k", "t", "p", "h"]

/-- The spelling of a Korean syllable, with a capital letter. -/
def hangulSpelling? (point : Nat) : Option String :=
  if 0xAC00 ≤ point ∧ point ≤ 0xD7A3 then
    let index := point - 0xAC00
    let part := fun (parts : List String) (i : Nat) => (parts[i]?).getD ""
    some (part initials (index / 588) ++ part vowels (index / 28 % 21) ++ part finals (index % 28)
      |>.capitalize)
  else none

end SchemaCompiler.Text
