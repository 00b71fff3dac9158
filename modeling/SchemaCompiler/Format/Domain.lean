import SchemaCompiler.Format.Domain.Flow
import SchemaCompiler.Format.Domain.Joining
import SchemaCompiler.Format.Domain.Mapping
import SchemaCompiler.Format.Punycode

/-!
Domain names and their form in ASCII.

* `Domain.mapped?`: a name with the characters that its own stand for;
* `Domain.unfolded?`: a label that may be written in ASCII with the characters that it writes;
* `Domain.isSound`: the labels that a name can have;
* `Domain.ofText?`: a name in ASCII.
-/

namespace SchemaCompiler.Domain

/-- What a character stands for in a name, none if names cannot have it. -/
def points? (c : Char) : Option (List Nat) :=
  match meaning c.toNat with
  | .kept => some [c.toNat]
  | .dropped => some []
  | .replaced points => some points
  | .refused => none

/-- A name with the characters that its own stand for, in composed form. -/
def mapped? (text : List Char) : Option (List Char) :=
  (text.mapM points?).map fun points => (Unicode.composed points.flatten).map Char.ofNat

/-- Whether a row of characters is in ASCII. -/
def isAscii (cs : List Char) : Bool := cs.all fun c => decide (c.toNat < 128)

/-- How a label in ASCII begins that writes other characters. -/
def encodedPrefix : List Char := "xn--".toList

/-- A label in ASCII writes no more characters than this. -/
def longestEncoded : Nat := 2000

/-- A label has no more characters than this, if some of them are not in ASCII. -/
def longestLabel : Nat := 1000

/-- A label with the characters that it writes, if it is the form in ASCII of another one.  That one
is not in ASCII, and its characters stand for themselves. -/
def unfolded? (label : List Char) : Option (List Char) :=
  match encodedPrefix.isPrefixOf? label with
  | none => some label
  | some encoded =>
    if encoded.length ≤ longestEncoded then
      (Punycode.decode? encoded).filter fun decoded =>
        !isAscii decoded && mapped? decoded == some decoded &&
          decoded.all fun c => meaning c.toNat = .kept
    else none

/-- The marks, which begin no label. -/
def marks : Unicode.PointSet :=
  (Unicode.categories ["mn", "mc", "me"]).union
    (.ofRows ["1ACF-1ADD 1AE0-1AEB 10EFA-10EFB 11B60-11B67 1E6E3 1E6E6 1E6EE-1E6EF 1E6F5"])

/-- Whether a label is one that a name can have. -/
def isSound (label : List Char) : Bool :=
  isAscii label ||
    (!label.head?.any (fun c => marks.contains c.toNat) && joinersFit (label.map Char.toNat))

/-- Whether the labels of a name can be written next to each other: all of them keep to one direction
if there is a character that turns it. -/
def isReadable (labels : List (List Char)) : Bool :=
  let flows := labels.map fun label => label.map fun c => flow c.toNat
  !flows.flatten.any Flow.turns || flows.all Flow.agree

/-- A label in ASCII. -/
def encoded? (label : List Char) : Option (List Char) :=
  if isAscii label then some label
  else if label.length ≤ longestLabel then some (encodedPrefix ++ Punycode.encode label)
  else none

/-- A name in ASCII. -/
def ofText? (text : List Char) : Option (List Char) := do
  let labels := Text.splitList '.' (← mapped? text)
  let unfolded ← labels.mapM unfolded?
  if unfolded.all isSound && isReadable unfolded then
    return ((← labels.mapM encoded?).intersperse ['.']).flatten
  else none

end SchemaCompiler.Domain
