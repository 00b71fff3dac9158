import SchemaCompiler.Unicode.Breaks
import SchemaCompiler.Unicode.Joining

/-!
How wide characters are by themselves, and those whose width hangs on their neighbours.

* `Text.charWidth`: the number of columns that a character takes up by itself;
* `Text.picturePoints`, `Text.textPicturePoints`, `Text.pictureBasePoints`: the characters that are
  pictures, those of them that can be shown as text, and those that can be shown as pictures;
* `Text.ignoredMarks`, `Text.transparentPoints`: the marks that can stand between the parts of a
  character that is drawn as one.
-/

namespace SchemaCompiler.Text

open Unicode (PointSet withProperty)

/-- The code points that take up two columns. -/
def widePoints : PointSet :=
  .ofRows
    ["1100-115F 231A-231B 2329-232A 23E9-23EC 23F0 23F3 25FD-25FE 2614-2615 2630-2637 2648-2653",
    "267F 268A-268F 2693 26A1 26AA-26AB 26BD-26BE 26C4-26C5 26CE 26D4 26EA 26F2-26F3 26F5 26FA",
    "26FD 2705 270A-270B 2728 274C 274E 2753-2755 2757 2795-2797 27B0 27BF 2B1B-2B1C 2B50 2B55",
    "2E80-2E99 2E9B-2EF3 2F00-2FD5 2FF0-303E 3041-3096 3099-30FF 3105-312F 3131-318E 3190-31E5",
    "31EF-321E 3220-3247 3250-A48C A490-A4C6 A960-A97C AC00-D7A3 F900-FAFF FE10-FE19 FE30-FE52",
    "FE54-FE66 FE68-FE6B FF01-FF60 FFE0-FFE6 16FE0-16FE4 16FF0-16FF6 17000-18CD5 18CFF-18D1E",
    "18D80-18DF2 1AFF0-1AFF3 1AFF5-1AFFB 1AFFD-1AFFE 1B000-1B122 1B132 1B150-1B152 1B155",
    "1B164-1B167 1B170-1B2FB 1D300-1D356 1D360-1D376 1F004 1F0CF 1F18E 1F191-1F19A 1F200-1F202",
    "1F210-1F23B 1F240-1F248 1F250-1F251 1F260-1F265 1F300-1F320 1F32D-1F335 1F337-1F37C",
    "1F37E-1F393 1F3A0-1F3CA 1F3CF-1F3D3 1F3E0-1F3F0 1F3F4 1F3F8-1F43E 1F440 1F442-1F4FC",
    "1F4FF-1F53D 1F54B-1F54E 1F550-1F567 1F57A 1F595-1F596 1F5A4 1F5FB-1F64F 1F680-1F6C5 1F6CC",
    "1F6D0-1F6D2 1F6D5-1F6D8 1F6DC-1F6DF 1F6EB-1F6EC 1F6F4-1F6FC 1F7E0-1F7EB 1F7F0 1F90C-1F93A",
    "1F93C-1F945 1F947-1F9FF 1FA70-1FA7C 1FA80-1FA8A 1FA8E-1FAC6 1FAC8 1FACD-1FADC 1FADF-1FAEA",
    "1FAEF-1FAF8 20000-2FFFD 30000-3FFFD"]

/-- The part of a text that a character can play where it is broken into graphemes. -/
def breakPoints (name : String) : PointSet :=
  (Unicode.PointRule.find? Unicode.graphemeBreaks name).getD .empty

/-- The signs that are written over, under or around those after them and take up their columns. -/
def signsAround : PointSet := .ofRows ["605 70F 890-891 8E2"]

/-- The signs that stand before others but take up columns of their own. -/
def signsBefore : PointSet := .ofRows ["600-604 6DD 110BD 110CD"]

/-- The code points that take up no column: marks, signs around others, and vowels and finals of
Hangul. -/
def flatPoints : PointSet :=
  (PointSet.unionAll
    [.ofRows ["1160-11FF A8FA D7B0-D7C6 D7CB-D7FB"], withProperty "graphemeextend",
      withProperty "defaultignorablecodepoint", signsAround,
      (breakPoints "prepend").difference signsBefore]).difference
    (.ofRows ["115F 17A4 17D8 2D7F"])

/-- The number of columns that a character takes up by itself. -/
def charWidth (c : Char) : Nat :=
  if c.toNat ≤ 0xA0 then 1
  else if c = '\u17D8' then 3
  else if c = '\u17A4' then 2
  else if flatPoints.contains c.toNat then 0
  else if widePoints.contains c.toNat then 2
  else 1

/-! ### Pictures -/

/-- The signs that stand for letters and in pairs for flags. -/
def indicatorPoints : PointSet := .range 0x1F1E6 0x1F1FF

/-- The tones of skin. -/
def skinTonePoints : PointSet := .range 0x1F3FB 0x1F3FF

/-- The pictures. -/
def picturePoints : PointSet :=
  (withProperty "emojipresentation").difference (indicatorPoints.union skinTonePoints)

/-- The characters that are text, but can be shown as pictures. -/
def pictureBasePoints : PointSet :=
  (withProperty "emoji").difference (withProperty "emojipresentation")

/-- The pictures that can be shown as text. -/
def textPicturePoints : PointSet :=
  (picturePoints.intersection (.range 0 0xFFFF)).union (.ofRows
    ["1F004 1F30D-1F30F 1F315 1F31C 1F378 1F393 1F3A7 1F3AC-1F3AE 1F3C2 1F3C4 1F3C6 1F3CA 1F3E0",
    "1F3ED 1F408 1F415 1F41F 1F426 1F442 1F446-1F449 1F44D-1F44E 1F453 1F46A 1F47D 1F4A3 1F4B0",
    "1F4B3 1F4BB 1F4BF 1F4CB 1F4DA 1F4DF 1F4E4-1F4E6 1F4EA-1F4ED 1F4F7 1F4F9-1F4FB 1F508 1F50D",
    "1F512-1F513 1F550-1F567 1F610 1F687 1F68D 1F691 1F694 1F698 1F6AD 1F6B2 1F6B9-1F6BA 1F6BC"])

/-- The pictures of people, which can have a tone of skin. -/
def peoplePoints : PointSet := withProperty "emojimodifierbase"

/-! ### Marks -/

/-- The sign that joins what is before and after it. -/
def joiner : Char := '\u200D'

/-- The marks that cannot be seen. -/
def ignoredMarks : PointSet := .ofRows ["34F 17B4-17B5 180B-180D 180F FE00-FE0F E0100-E01EF"]

/-- Whether a character takes up no column and letters are joined across it. -/
def isTransparent (c : Char) : Bool :=
  charWidth c = 0 && Unicode.joinedAcross.contains c.toNat

end SchemaCompiler.Text
