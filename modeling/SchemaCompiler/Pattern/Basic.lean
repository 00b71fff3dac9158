import SchemaCompiler.Unicode.Property

/-!
Patterns and where they occur in a text.

A set of places in a text, the gaps between its characters, is a number whose bits stand for the
places.  A pattern takes a set of places to the places at which an occurrence from one of them can
end.

* `Assertion`: conditions on the characters around a gap;
* `Pattern`: the patterns, with the constructors that keep them small;
* `Pattern.Moves`: a pattern on one text, with the places where its parts apply;
* `Pattern.occursIn`: whether a pattern occurs anywhere in a text.
-/

namespace SchemaCompiler

/-- The places about words. -/
inductive WordPlace where
  | edge
  | notEdge
  | start
  | stop
  | startHalf
  | stopHalf
  deriving DecidableEq, Repr

/-- A condition on a gap between characters. -/
inductive Assertion where
  | textStart
  | textEnd
  | lineStart
  | lineEnd
  /-- A line start where a carriage return, a line feed or both end a line. -/
  | anyLineStart
  /-- A line end where a carriage return, a line feed or both end a line. -/
  | anyLineEnd
  | word (place : WordPlace) (ascii : Bool)

/-- A pattern for parts of a text. -/
inductive Pattern where
  | empty
  | chars (points : Unicode.PointSet)
  | assertion (condition : Assertion)
  | sequence (first second : Pattern)
  | choice (first second : Pattern)
  | repeated (inner : Pattern) (least : Nat) (most : Option Nat)
  /-- A part whose occurrence is recorded. -/
  | group (inner : Pattern)

/-! ### Words -/

/-- The characters of words. -/
def wordPoints : Unicode.PointSet :=
  .unionAll [Unicode.withProperty "alphabetic", Unicode.withProperty "joincontrol",
    Unicode.categories ["mn", "mc", "me", "nd", "pc"]]

/-- The characters of words in ASCII. -/
def asciiWordPoints : Unicode.PointSet := ⟨[⟨0x30, 0x39⟩, ⟨0x41, 0x5A⟩, ⟨0x5F, 0x5F⟩, ⟨0x61, 0x7A⟩]⟩

/-- The blank characters in ASCII. -/
def asciiBlanks : Unicode.PointSet := ⟨[⟨9, 13⟩, ⟨0x20, 0x20⟩]⟩

/-! ### Gaps -/

/-- A gap in a text: the characters before and after it, as far as there are any. -/
structure Gap where
  before : Option Char
  after : Option Char

/-- The gaps of a text after a character. -/
def gapsAfter (before : Option Char) : List Char → List Gap
  | [] => [⟨before, none⟩]
  | c :: rest => ⟨before, some c⟩ :: gapsAfter (some c) rest

/-- The gaps of a text, one more than it has characters. -/
def gaps (text : List Char) : List Gap := gapsAfter none text

/-- Whether a condition about words holds between two sides that are or are not in a word. -/
def WordPlace.holds (before after : Bool) : WordPlace → Bool
  | .edge => before != after
  | .notEdge => before == after
  | .start => !before && after
  | .stop => before && !after
  | .startHalf => !before
  | .stopHalf => !after

/-- Whether a condition holds at a gap. -/
def Assertion.holds (gap : Gap) : Assertion → Bool
  | textStart => gap.before.isNone
  | textEnd => gap.after.isNone
  | lineStart => gap.before.all (· = '\n')
  | lineEnd => gap.after.all (· = '\n')
  | anyLineStart =>
    gap.before.all (· = '\n') || (gap.before == some '\r' && gap.after != some '\n')
  | anyLineEnd =>
    gap.after.all (· = '\r') || (gap.after == some '\n' && gap.before != some '\r')
  | word place ascii =>
    let points := if ascii then asciiWordPoints else wordPoints
    let inWord := fun side : Option Char => side.any fun c => points.contains c.toNat
    place.holds (inWord gap.before) (inWord gap.after)

namespace Pattern

/-! ### Constructors -/

/-- Whether a pattern has no occurrence with a character in it, whatever the text. -/
def takesNothing : Pattern → Bool
  | empty | assertion _ => true
  | chars _ => false
  | sequence first second | choice first second => first.takesNothing && second.takesNothing
  | repeated inner _ most => inner.takesNothing || most == some 0
  | group inner => inner.takesNothing

/-- One pattern after another. -/
def followedBy : Pattern → Pattern → Pattern
  | empty, second => second
  | first, empty => first
  | first, second => sequence first second

/-- A pattern a number of times.  Of a pattern that takes nothing one occurrence is as good as
several. -/
def times (inner : Pattern) (least : Nat) (most : Option Nat) : Pattern :=
  let flat := inner.takesNothing
  let least := if flat then min least 1 else least
  let most := if flat then some (min (most.getD 1) 1) else most
  if most = some 0 then empty
  else if least = 1 ∧ most = some 1 then inner
  else repeated inner least most

/-- The patterns between which a pattern is a choice. -/
def alternatives : Pattern → List Pattern
  | choice first second => first.alternatives ++ second.alternatives
  | pattern => [pattern]

/-- The characters of a pattern for one character. -/
def points? : Pattern → Option Unicode.PointSet
  | chars points => some points
  | _ => none

/-- One of several patterns.  Patterns for one character are put together. -/
def oneOf (members : List Pattern) : Pattern :=
  let members := members.flatMap alternatives
  match members.mapM points? with
  | some sets => chars (.unionAll sets)
  | none =>
    match members.reverse with
    | [] => chars .empty
    | last :: before => before.foldl (fun rest member => choice member rest) last

/-! ### Occurrences -/

/-- A set of places in a text: bit `i` stands for the gap after `i` characters. -/
abbrev Places := Nat

/-- The places that are marked in a list of all places. -/
def Places.ofList (marks : List Bool) : Places :=
  marks.foldr (fun mark places => 2 * places + mark.toNat) 0

/-- A pattern on one text. -/
inductive Moves where
  | stay
  /-- From the places before some characters to those after them. -/
  | step (before : Places)
  /-- Only from some places on. -/
  | only (places : Places)
  | sequence (first second : Moves)
  | choice (first second : Moves)
  | repeated (inner : Moves) (least rounds : Nat)

/-- A pattern on a text.  Repetition without limit needs no more rounds than there are gaps, as each
round but the last adds a place. -/
def moves (text : List Char) : Pattern → Moves
  | empty => .stay
  | chars points => .step (.ofList (text.map fun c => points.contains c.toNat))
  | assertion condition => .only (.ofList ((gaps text).map fun gap => condition.holds gap))
  | sequence first second => .sequence (first.moves text) (second.moves text)
  | choice first second => .choice (first.moves text) (second.moves text)
  | repeated inner least most =>
    let rounds := match most with
      | some most => most - least
      | none => text.length + 1
    .repeated (inner.moves text) least rounds
  | group inner => inner.moves text

/-- A number of rounds, or as many as there are places left. -/
def Places.exactly (round : Places → Places) : Nat → Places → Places
  | 0, places => places
  | n + 1, places => if places = 0 then 0 else Places.exactly round n (round places)

/-- The places that some have been reached from, and what any number of rounds up to a limit adds
from those that are new. -/
def Places.upTo (round : Places → Places) : Nat → Places → Places → Places
  | 0, reached, _ => reached
  | n + 1, reached, new =>
    let next := round new
    let added := next ^^^ (next &&& reached)
    if added = 0 then reached else Places.upTo round n (reached ||| added) added

/-- The places at which occurrences from the given places end. -/
def Moves.reach : Moves → Places → Places
  | stay, places => places
  | step before, places => (places &&& before) <<< 1
  | only allowed, places => places &&& allowed
  | sequence first second, places => second.reach (first.reach places)
  | choice first second, places => first.reach places ||| second.reach places
  | repeated inner least rounds, places =>
    let entered := Places.exactly inner.reach least places
    Places.upTo inner.reach rounds entered entered

/-- Whether a pattern occurs somewhere in a text. -/
def occursIn (pattern : Pattern) (text : String) : Bool :=
  let everywhere := .ofList ((gaps text.toList).map fun _ => true)
  (pattern.moves text.toList).reach everywhere != 0

end Pattern

end SchemaCompiler
