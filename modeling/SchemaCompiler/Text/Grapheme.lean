import SchemaCompiler.Text.Width.Points

/-!
Characters that readers take for one.

* `Text.isOneGrapheme`: whether a character goes on with what is before it;
* `Text.graphemes`: a row of characters in the parts that readers take for one.
-/

namespace SchemaCompiler.Text

open Unicode (PointSet)

/-- The breaks of lines and the characters that steer. -/
def controlBreaks : PointSet :=
  .unionAll [breakPoints "control", breakPoints "cr", breakPoints "lf"]

/-- The marks that go on with what is before them. -/
def extendBreaks : PointSet := breakPoints "extend"

/-- The vowels and other signs that go on with what is before them. -/
def spacingBreaks : PointSet := breakPoints "spacingmark"

/-- The signs that go on with what is after them. -/
def prependBreaks : PointSet := breakPoints "prepend"

/-- The pictures and what else can be joined like them. -/
def joinablePictures : PointSet := Unicode.withProperty "extendedpictographic"

/-- The signs that take the vowel from a consonant, so that the next one is written joined to it. -/
def linkers : PointSet :=
  .ofRows
    ["94D 9CD ACD B4D C4D D4D 1039 17D2 1A60 1B44 1BAB A9C0 AAF6 10A3F 11133 113D0 1193E 11A47",
      "11A99 11F42"]

/-- The consonants that can be written joined. -/
def linkedConsonants : PointSet :=
  .ofRows
    ["915-939 958-95F 978-97F 995-9A8 9AA-9B0 9B2 9B6-9B9 9DC-9DD 9DF 9F0-9F1 A95-AA8 AAA-AB0",
      "AB2-AB3 AB5-AB9 AF9 B15-B28 B2A-B30 B32-B33 B35-B39 B5C-B5D B5F B71 C15-C28 C2A-C39",
      "C58-C5A D15-D3A 1000-102A 103F 1050-1055 105A-105D 1061 1065-1066 106E-1070 1075-1081",
      "108E 1780-17B3 1A20-1A54 1B0B-1B0C 1B13-1B33 1B45-1B4C 1B83-1BA0 1BAE-1BAF 1BBB-1BBD",
      "A989-A98B A98F-A9B2 A9E0-A9E4 A9E7-A9EF A9FA-A9FE AA60-AA6F AA71-AA73 AA7A AA7E-AA7F",
      "AAE0-AAEA ABC0-ABDA 10A00 10A10-10A13 10A15-10A17 10A19-10A35 11103-11126 11144 11147",
      "11380-11389 1138B 1138E 11390-113B5 11900-11906 11909 1190C-11913 11915-11916 11918-1192F",
      "11A00 11A0B-11A32 11A50 11A5C-11A83 11F04-11F10 11F12-11F33"]

/-- The first letters of syllables of Hangul. -/
def hangulFirsts : PointSet := breakPoints "l"

/-- The vowels of syllables of Hangul. -/
def hangulVowels : PointSet := breakPoints "v"

/-- The last letters of syllables of Hangul. -/
def hangulLasts : PointSet := breakPoints "t"

/-- The syllables of Hangul. -/
def hangulSyllables : PointSet := .range 0xAC00 0xD7A3

/-- Whether a syllable of Hangul has no last letter. -/
def isOpen (syllable : Nat) : Bool := (syllable - 0xAC00) % 28 = 0

/-- Whether the parts of a syllable of Hangul follow one another. -/
def isHangulPair (before after : Nat) : Bool :=
  if hangulFirsts.contains before then
    hangulFirsts.contains after || hangulVowels.contains after || hangulSyllables.contains after
  else if hangulVowels.contains before || (hangulSyllables.contains before && isOpen before) then
    hangulVowels.contains after || hangulLasts.contains after
  else if hangulLasts.contains before || hangulSyllables.contains before then
    hangulLasts.contains after
  else false

/-- Whether a consonant is joined to the last one in a row that is given from its end. -/
def isConjunct (row : List Char) (c : Char) : Bool :=
  let isMark := fun (c : Char) =>
    c = joiner || linkers.contains c.toNat || extendBreaks.contains c.toNat
  linkedConsonants.contains c.toNat &&
    (row.takeWhile isMark).any (fun mark => linkers.contains mark.toNat) &&
    (row.dropWhile isMark).head?.any fun last => linkedConsonants.contains last.toNat

/-- Whether a picture is joined to the last one in a row that is given from its end. -/
def isJoinedPicture (row : List Char) (c : Char) : Bool :=
  joinablePictures.contains c.toNat &&
    match row with
    | last :: rest =>
      last = joiner &&
        (rest.dropWhile fun mark => extendBreaks.contains mark.toNat).head?.any fun picture =>
          joinablePictures.contains picture.toNat
    | [] => false

/-- Whether a sign is the second of a flag, after a row that is given from its end. -/
def isSecondIndicator (row : List Char) (c : Char) : Bool :=
  let isIndicator := fun (c : Char) => indicatorPoints.contains c.toNat
  isIndicator c && (row.takeWhile isIndicator).length % 2 = 1

/-- Whether a character goes on with a row that is given from its end. -/
def isOneGrapheme (row : List Char) (c : Char) : Bool :=
  match row with
  | [] => false
  | last :: _ =>
    if last = '\r' && c = '\n' then true
    else if controlBreaks.contains last.toNat || controlBreaks.contains c.toNat then false
    else
      c = joiner || extendBreaks.contains c.toNat || spacingBreaks.contains c.toNat ||
        prependBreaks.contains last.toNat || isHangulPair last.toNat c.toNat ||
        isConjunct row c || isJoinedPicture row c || isSecondIndicator row c

/-- The graphemes of a row after the beginning of one, which is given from its end. -/
def graphemesFrom (row : List Char) : List Char → List (List Char)
  | [] => if row.isEmpty then [] else [row.reverse]
  | c :: rest =>
    if row.isEmpty || isOneGrapheme row c then graphemesFrom (c :: row) rest
    else row.reverse :: graphemesFrom [c] rest

/-- A row of characters in the parts that readers take for one. -/
def graphemes (cs : List Char) : List (List Char) := graphemesFrom [] cs

/-- Nothing is lost between graphemes. -/
theorem flatten_graphemesFrom (row cs : List Char) :
    (graphemesFrom row cs).flatten = row.reverse ++ cs := by
  induction cs generalizing row with
  | nil => cases row <;> simp [graphemesFrom]
  | cons c rest ih =>
    simp only [graphemesFrom]
    split
    · simp [ih]
    · simp [ih]

/-- The graphemes of a row together are the row. -/
theorem flatten_graphemes (cs : List Char) : (graphemes cs).flatten = cs := by
  simp [graphemes, flatten_graphemesFrom]

end SchemaCompiler.Text
