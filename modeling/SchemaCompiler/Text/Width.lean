import SchemaCompiler.Text.Width.Points

/-!
The width of strings in the columns of a terminal.

Some characters are drawn as one: letters that melt into one another, pictures that are joined or
have a tone of skin, and characters with a sign after them that says how they are shown.  So the
width of a character hangs on what is after it, and a string is measured from its end.

* `Text.Context`: what a character has after it;
* `Text.measure`: the columns that a character adds before a context;
* `Text.width`: the number of columns that a string takes up.
-/

namespace SchemaCompiler.Text

/-- The ends of characters that are drawn as one, each up to the first of its letters. -/
inductive Ending where
  | lamed
  | subscript
  | ya
  | vowelYa
  | consonant
  | joinedConsonant
  | lowTone
  | orkhonVowel
  | vowelE
  | vowelAi
  deriving DecidableEq, Repr

/-- What a row of characters begins with. -/
inductive Beginning where
  | plain
  | lineFeed
  | picture
  | skinTone
  /-- A row of signs for letters of flags. -/
  | indicators (count : Nat)
  /-- A picture with a joiner before it. -/
  | joined
  | joinedKeycap
  /-- A row of signs for letters of flags, before a joiner and a picture. -/
  | joinedIndicators (count : Nat)
  /-- A row of letters that name a flag, before a joiner and a picture. -/
  | joinedTags (count : Nat)
  | alef
  | ligature (ending : Ending) (isJoined : Bool)
  deriving DecidableEq, Repr

/-- How a character is to be shown. -/
inductive Presentation where
  | text
  | picture
  deriving DecidableEq, Repr

/-- What a character has after it. -/
structure Context where
  beginning : Beginning
  /-- How the character is to be shown, if that is said. -/
  presentation : Option Presentation
  deriving DecidableEq, Repr

namespace Beginning

/-- The context of a beginning. -/
def context (beginning : Beginning) : Context := ⟨beginning, none⟩

/-- Whether marks can stand before a beginning that is still to be completed. -/
def isLigature : Beginning → Bool
  | alef | ligature .. => true
  | _ => false

/-- Whether a picture before a beginning is drawn as one with the picture in it. -/
def isJoined : Beginning → Bool
  | joined | joinedKeycap => true
  | _ => false

end Beginning

/-! ### Letters -/

/-- The letters alef. -/
def alefs : Unicode.PointSet := .ofRows ["622-623 625 627 671-673 675 773-774 870-882"]

/-- The letters lam. -/
def lams : Unicode.PointSet := .ofRows ["644 6B5-6B8 76A 8A6 8C7"]

/-- The letters that can be written under others. -/
def subscripts : Unicode.PointSet :=
  .ofRows
    ["1780-1782 1784-1787 1789-178C 178E-1793 1795-1798 179B-179D 17A0 17A2 17A7 17AB-17AC 17AF"]

/-- The consonants that can be joined in pairs. -/
def pairedConsonants : Unicode.PointSet := .ofRows ["2D31-2D65 2D6F"]

/-- The ending that a letter is by itself. -/
def Ending.ofChar? (c : Char) : Option Ending :=
  if c = '\u05DC' then some .lamed
  else if subscripts.contains c.toNat then some .subscript
  else if c = '\u1A10' then some .ya
  else if pairedConsonants.contains c.toNat then some .consonant
  else if c = '\uA4FC' || c = '\uA4FD' then some .lowTone
  else if c.toNat = 0x10C03 then some .orkhonVowel
  else if c.toNat = 0x16D67 then some .vowelE
  else if c.toNat = 0x16D68 then some .vowelAi
  else none

/-- The columns that a letter adds to an ending that it is drawn as one with, and what begins
then. -/
def Ending.attach? (c : Char) (isJoined : Bool) : Ending → Option (Int × Beginning)
  | lamed => if isJoined && c = '\u05D0' then some (0, .plain) else none
  | subscript => if c = '\u17D2' then some (-1, .plain) else none
  | ya => if isJoined && c = '\u1A17' then some (0, .ligature vowelYa false) else none
  | vowelYa => if c = '\u1A15' then some (0, .plain) else none
  | consonant =>
    if c = '\u2D7F' then some (1, .ligature joinedConsonant false)
    else if isJoined && pairedConsonants.contains c.toNat then some (0, .plain)
    else none
  | joinedConsonant => if pairedConsonants.contains c.toNat then some (-1, .plain) else none
  | lowTone => if '\uA4F8' ≤ c && c ≤ '\uA4FB' then some (0, .plain) else none
  | orkhonVowel => if isJoined && c.toNat = 0x10C32 then some (0, .plain) else none
  | vowelE =>
    if c.toNat = 0x16D63 || c.toNat = 0x16D69 then some (0, .plain)
    else if c.toNat = 0x16D67 then some (0, .ligature vowelAi false)
    else if c.toNat = 0x16D68 then some (1, .ligature vowelE false)
    else none
  | vowelAi => if c.toNat = 0x16D63 then some (0, .plain) else none

/-! ### Pictures -/

/-- Whether a character is one of the letters and digits that name a flag. -/
def isTag (c : Char) : Bool :=
  (0xE0030 ≤ c.toNat && c.toNat ≤ 0xE0039) || (0xE0061 ≤ c.toNat && c.toNat ≤ 0xE007A)

/-- Whether so many letters name a flag. -/
def isFlagName (count : Nat) : Bool := 3 ≤ count && count ≤ 6

namespace Beginning

/-- The columns that a character adds before a picture that is joined to what is before it. -/
def attachJoined? (c : Char) : Option (Int × Beginning) :=
  if c = '\u20E3' then some (0, .joinedKeycap)
  else if indicatorPoints.contains c.toNat then some (1, .joinedIndicators 1)
  else if skinTonePoints.contains c.toNat then some (0, .skinTone)
  else if c.toNat = 0xE007F then some (0, .joinedTags 0)
  else if picturePoints.contains c.toNat then some (0, .picture)
  else none

/-- The columns that a character adds to a beginning that it is drawn as one with, and what begins
then. -/
def attach? (c : Char) : Beginning → Option (Int × Beginning)
  | alef =>
    if lams.contains c.toNat then some (0, plain)
    else if isTransparent c then some (0, alef)
    else none
  | ligature ending isJoined =>
    if c = joiner then some (0, ligature ending true)
    else if ignoredMarks.contains c.toNat then some (0, ligature ending isJoined)
    else ending.attach? c isJoined
  | picture => if c = joiner then some (0, joined) else none
  | skinTone =>
    if peoplePoints.contains c.toNat then some (0, picture)
    else if c = joiner then some (0, joined)
    else none
  | indicators count =>
    if indicatorPoints.contains c.toNat then some (1, indicators (count + 1))
    else if c = joiner && 1 < count then some (0, joined)
    else none
  | joined => attachJoined? c
  | joinedIndicators count =>
    if indicatorPoints.contains c.toNat then
      some (if count % 2 = 1 then -1 else 3, joinedIndicators (count + 1))
    else if c = joiner && 1 < count then some (0, joined)
    else none
  | joinedTags count =>
    if isTag c then some (0, joinedTags (count + 1))
    else if c.toNat = 0x1F3F4 && isFlagName count then some (0, picture)
    else none
  | plain | lineFeed | joinedKeycap => none

/-- What a character begins by itself. -/
def ofChar (c : Char) : Beginning :=
  if alefs.contains c.toNat then alef
  else if indicatorPoints.contains c.toNat then indicators 1
  else if skinTonePoints.contains c.toNat then skinTone
  else if picturePoints.contains c.toNat then picture
  else match Ending.ofChar? c with
    | some ending => ligature ending false
    | none => plain

end Beginning

/-! ### Strings -/

/-- The sign that asks for a picture. -/
def pictureSign : Char := '\uFE0F'

/-- The sign that asks for text. -/
def textSign : Char := '\uFE0E'

/-- The columns that a character adds, if nothing after it says how to show it. -/
def measurePlain (c : Char) (next : Beginning) : Int × Context :=
  if c = '\n' then (1, Beginning.lineFeed.context)
  else if c = '\r' && next = .lineFeed then (0, Beginning.plain.context)
  else if c.toNat ≤ 0xA0 then (1, Beginning.plain.context)
  else match next.attach? c with
    | some (columns, beginning) => (columns, beginning.context)
    | none => (charWidth c, (Beginning.ofChar c).context)

/-- The columns that a character adds before a context, and the context that it makes. -/
def measure (c : Char) (next : Context) : Int × Context :=
  let kept := next.beginning
  if next.presentation = some .picture && pictureBasePoints.contains c.toNat then
    (if kept.isJoined then 0 else 2, Beginning.picture.context)
  else if c = pictureSign then
    (0, ⟨if kept.isLigature || kept.isJoined then kept else .plain, some .picture⟩)
  else if c = textSign then (0, ⟨if kept.isLigature then kept else .plain, some .text⟩)
  else if next.presentation = some .text && textPicturePoints.contains c.toNat then
    (1, Beginning.plain.context)
  else measurePlain c kept

/-- The columns that a row of characters takes up, and the context that it makes. -/
def measureAll (cs : List Char) : Int × Context :=
  cs.foldr (fun c (columns, next) =>
    let (added, context) := measure c next
    (added + columns, context)) (0, Beginning.plain.context)

/-- The number of columns that a row of characters takes up. -/
def rowWidth (cs : List Char) : Nat := (measureAll cs).1.toNat

/-- The number of columns that a string takes up. -/
def width (s : String) : Nat := rowWidth s.toList

end SchemaCompiler.Text
