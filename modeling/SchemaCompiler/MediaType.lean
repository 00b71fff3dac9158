import SchemaCompiler.Text.Affix

/-!
Media types such as `application/problem+json; charset=utf-8`.

* `MediaType.ofText?`: the type, the subtype and the suffix of a text, if it is a media type;
* `MediaType.isJson`, `MediaType.isStructuredJson`: JSON itself, and formats that are written as JSON.
-/

namespace SchemaCompiler

/-- A media type without its parameters. -/
structure MediaType where
  type : String
  subtype : String
  suffix : Option String
  deriving DecidableEq, Repr

namespace MediaType

/-! ### Characters -/

/-- A name can hold this character. -/
def isNameChar (c : Char) : Bool :=
  c.isAlphanum || ['!', '#', '$', '%', '&', '\x27', '*', '+', '-', '.', '^', '_'].contains c

/-- A name has no more characters than this. -/
def longestName : Nat := 127

/-- Whether a row of characters is a name. -/
def isName : List Char → Bool
  | [] => false
  | c :: rest =>
    (c.isAlphanum || c = '*') && rest.all isNameChar && decide (rest.length < longestName)

/-- Blanks that may stand around a semicolon. -/
def isBlank (c : Char) : Bool := c = ' ' || c = '\t'

/-! ### Parameters -/

/-- What follows a value in quotation marks, which is on one line. -/
def afterQuoted? : List Char → Option (List Char)
  | [] | '\n' :: _ => none
  | '"' :: rest => some rest
  | '\\' :: _ :: rest => afterQuoted? rest
  | _ :: rest => afterQuoted? rest

/-- What follows a value, which may be empty. -/
def afterValue? : List Char → Option (List Char)
  | '"' :: rest => afterQuoted? rest
  | cs => some (cs.dropWhile isNameChar)

/-- What follows a parameter. -/
def afterParameter? (cs : List Char) : Option (List Char) :=
  let name := cs.takeWhile isNameChar
  match cs.drop name.length with
  | '=' :: rest => if isName name then afterValue? rest else none
  | _ => none

/-- Whether a row of characters is a row of parameters, each after a semicolon.  Nothing need follow
the last semicolon. -/
def areParameters : (fuel : Nat) → List Char → Bool
  | 0, cs => cs.isEmpty
  | fuel + 1, cs =>
    match cs.dropWhile isBlank with
    | [] => true
    | ';' :: rest =>
      match rest.dropWhile isBlank with
      | [] => true
      | parameter =>
        match afterParameter? parameter with
        | some rest => areParameters fuel rest
        | none => false
    | _ => false

/-! ### Types -/

/-- The place of the last plus sign. -/
def lastPlus? (cs : List Char) : Option Nat :=
  match cs.reverse.idxOf? '+' with
  | some fromEnd => some (cs.length - 1 - fromEnd)
  | none => none

/-- The media type of a text. -/
def ofText? (text : String) : Option MediaType :=
  let cs := text.toList
  let type := cs.takeWhile (· ≠ '/')
  let rest := cs.drop (type.length + 1)
  let full := rest.takeWhile fun c => c ≠ ';' && !isBlank c
  let parameters := rest.drop full.length
  let (subtype, suffix) := match lastPlus? full with
    | some place => (full.take place, some (full.drop (place + 1)))
    | none => (full, none)
  if isName type && isName subtype && suffix.all isName &&
      areParameters parameters.length parameters then
    some ⟨String.ofList type, String.ofList subtype, suffix.map String.ofList⟩
  else none

/-- JSON itself. -/
def isJson (media : MediaType) : Bool := media = ⟨"application", "json", none⟩

/-- A format that is written as JSON. -/
def isStructuredJson (media : MediaType) : Bool := media.suffix = some "json"

end MediaType

end SchemaCompiler
