import SchemaCompiler.Json.Value

/-!
JSON text as a located tree.

A reader that looks for a document of a given shape stops at whichever comes first in the text: a
value of the wrong shape or a fault in the text itself.  So reading is done in two steps.  Text
becomes a `Source`, which keeps a fault in the place where it stands; a walk over the source then
meets shapes and faults in their order.  Limits that only concern values that are used (the nesting
depth, the range of numbers, paired surrogates) are left to the walk, and a fault that ends the tree
is kept in the two forms in which a reader meets it that uses the values and one that passes over
them.

* `Json.Position`, `Json.Fault`: places in the text, and what can be wrong there;
* `Json.Breach`: a fault at which the tree ends;
* `Json.Source`: the tree;
* `Json.Source.ofJson`: a value that has already been read, as a tree without faults.
-/

namespace SchemaCompiler.Json

/-- A place in a text: the line, counted from one, and the number of bytes before it in the line. -/
structure Position where
  line : Nat
  column : Nat
  deriving DecidableEq, Repr

namespace Position

/-- The beginning of a text. -/
def start : Position := ⟨1, 0⟩

/-- The place after a character. -/
def after (p : Position) (c : Char) : Position :=
  if c = '\n' then ⟨p.line + 1, 0⟩ else ⟨p.line, p.column + c.utf8Size⟩

/-- The place one byte on, where a fault in the next character is reported. -/
def ahead (p : Position) : List Char → Position
  | [] => p
  | c :: _ => if c = '\n' then ⟨p.line + 1, 0⟩ else ⟨p.line, p.column + 1⟩

/-- How a place is named at the end of a message. -/
def describe (p : Position) : String := s!"at line {p.line} column {p.column}"

end Position

/-- What can be wrong with a JSON text. -/
inductive FaultKind where
  | endInList
  | endInObject
  | endInString
  | endInValue
  | expectedColon
  | expectedListCommaOrEnd
  | expectedObjectCommaOrEnd
  | expectedLiteral
  | expectedValue
  | invalidEscape
  | invalidNumber
  | numberOutOfRange
  | controlCharacter
  | keyNotString
  | loneSurrogate
  | trailingComma
  | trailingCharacters
  | unfinishedSurrogatePair
  | tooDeep
  deriving DecidableEq, Repr

/-- The wording of a fault. -/
def FaultKind.message : FaultKind → String
  | endInList => "EOF while parsing a list"
  | endInObject => "EOF while parsing an object"
  | endInString => "EOF while parsing a string"
  | endInValue => "EOF while parsing a value"
  | expectedColon => "expected `:`"
  | expectedListCommaOrEnd => "expected `,` or `]`"
  | expectedObjectCommaOrEnd => "expected `,` or `\x7d`"
  | expectedLiteral => "expected ident"
  | expectedValue => "expected value"
  | invalidEscape => "invalid escape"
  | invalidNumber => "invalid number"
  | numberOutOfRange => "number out of range"
  | controlCharacter => "control character (\\u0000-\\u001F) found while parsing a string"
  | keyNotString => "key must be a string"
  | loneSurrogate => "lone leading surrogate in hex escape"
  | trailingComma => "trailing comma"
  | trailingCharacters => "trailing characters"
  | unfinishedSurrogatePair => "unexpected end of hex escape"
  | tooDeep => "recursion limit exceeded"

/-- A fault and where it is reported. -/
structure Fault where
  kind : FaultKind
  position : Position
  deriving DecidableEq, Repr

/-- The wording of a fault with its place. -/
def Fault.message (fault : Fault) : String :=
  fault.kind.message ++ " " ++ fault.position.describe

/-- A fault at which a tree ends, as it is met by a reader that uses what stands there and by one that
passes over it. -/
structure Breach where
  used : Fault
  skipped : Fault
  deriving DecidableEq, Repr

/-- A fault that all readers meet alike. -/
def Breach.plain (fault : Fault) : Breach := ⟨fault, fault⟩

/-- How a list or an object ends. -/
inductive Closing where
  /-- Without a place, as in a value that was read before. -/
  | complete
  /-- With its bracket. -/
  | closed (stop : Position)
  /-- With a fault where the next item, name or bracket should stand. -/
  | broken (breach : Breach)
  deriving DecidableEq, Repr

/-- An item of a list, and where the reader stands when it gives up the list after it. -/
structure SourceItem (α : Type) where
  value : α
  resume : Position

/-- A member of an object, and where the reader stands when it gives up the object after the name
and after the value. -/
structure SourceMember (α : Type) where
  /-- The name, or the fault for which no value has it. -/
  name : Except Fault String
  resumeName : Position
  value : α
  resume : Position

/-- A JSON text as a tree.  Scalars carry the place after them, lists and objects the place before
them. -/
inductive Source where
  | null (stop : Position)
  | bool (value : Bool) (stop : Position)
  | number (value : Except Fault Number) (stop : Position)
  | string (value : Except Fault String) (stop : Position)
  | array (start : Position) (items : List (SourceItem Source)) (closing : Closing)
  | object (start : Position) (members : List (SourceMember Source)) (closing : Closing)
  /-- A fault where a value should stand. -/
  | fault (breach : Breach)
  /-- A fault between a member's name and its value. -/
  | noColon (fault : Fault)

instance : Inhabited Source := ⟨.null .start⟩

namespace Source

mutual

/-- A value that has been read, as a source. -/
def ofJson : Json → Source
  | .null => null .start
  | .bool value => bool value .start
  | .number value => number (.ok value) .start
  | .string value => string (.ok value) .start
  | .array items => array .start (ofItems items) .complete
  | .object members => object .start (ofMembers members) .complete

/-- The items of a list that has been read. -/
def ofItems : List Json → List (SourceItem Source)
  | [] => []
  | item :: rest => ⟨ofJson item, .start⟩ :: ofItems rest

/-- The members of an object that has been read. -/
def ofMembers : List (String × Json) → List (SourceMember Source)
  | [] => []
  | (name, value) :: rest => ⟨.ok name, .start, ofJson value, .start⟩ :: ofMembers rest

end

end Source

end SchemaCompiler.Json
