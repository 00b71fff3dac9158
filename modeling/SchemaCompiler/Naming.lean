import SchemaCompiler.Text.Identifier
import SchemaCompiler.Text.Transliteration
import SchemaCompiler.Unicode.Uppercase

/-!
Names for what is written out.

* `Naming.words`, `Naming.pascalCase`: the words of a text, and a text as one capitalised word;
* `Naming.typeName`: the type that a component is written as;
* `Naming.unique`: the first of a name and its numbered forms that is free;
* `Naming.routeSchema`: the schema for a part of an operation;
* `Naming.errorSchema?`: the schema for an error of a code.
-/

namespace SchemaCompiler.Naming

/-- The names that a schema cannot have, as written modules rely on them. -/
def reservedTypes : List String :=
  ["Array", "Record", "Partial", "Required", "Readonly", "Pick", "Omit", "Request", "Response",
    "Types"]

/-! ### Words -/

/-- The rows of letters and digits in a row of characters, from one that has begun. -/
def wordsFrom (word : List Char) : List Char → List (List Char)
  | [] => if word.isEmpty then [] else [word]
  | c :: rest =>
    if c.isAlphanum then wordsFrom (word ++ [c]) rest
    else if word.isEmpty then wordsFrom [] rest
    else word :: wordsFrom [] rest

/-- The rows of letters and digits in a text in ASCII. -/
def words (s : String) : List (List Char) := wordsFrom [] (Text.toAscii s).toList

/-- A word with capital letters where it begins and after small letters alone. -/
def capitalizeAfter (lower first : Bool) : List Char → List Char
  | [] => []
  | c :: rest =>
    let begins := first || (lower && c.isUpper)
    (if begins then c.toUpper else c.toLower) :: capitalizeAfter c.isLower false rest

/-- A text as one word, each of its words with a capital letter.  A capital letter after a small one
begins a word too. -/
def pascalCase (s : String) : String :=
  String.ofList ((words s).flatMap (capitalizeAfter false true))

/-- Whether a text begins with a digit. -/
def beginsWithDigit (s : String) : Bool := s.toList.head?.any Char.isDigit

/-! ### Names of types -/

/-- The type that a component of a name is written as.  Identifiers stay as they are, unless the name
is reserved. -/
def typeName (name : String) : String :=
  let word := if Text.isIdentifier name then name else pascalCase name
  if word.isEmpty then "Unnamed"
  else
    let word := if beginsWithDigit word then "T" ++ word else word
    if reservedTypes.contains word then word ++ "Model" else word

/-- The first free one of the numbered forms of a name from a number on.  A form that is in use is
not met again, so the names left to look at become fewer. -/
def numbered (used : List String) (base : String) (number : Nat) : String :=
  let candidate := base ++ toString number
  if _ : candidate ∈ used then numbered (used.erase candidate) base (number + 1) else candidate
termination_by used.length
decreasing_by
  rw [List.length_erase_of_mem ‹_›]
  exact Nat.sub_lt (List.length_pos_of_mem ‹_›) Nat.one_pos

/-- A name that is free: the name itself, or the name with the least number from 2 on. -/
def unique (used : List String) (base : String) : String :=
  if used.contains base then numbered used base 2 else base

/-! ### Names of schemas for operations -/

/-- A part of an operation that has a schema of its own. -/
inductive RouteSlot where
  | params
  | query
  | headers
  | body
  | response (status : String)
  deriving DecidableEq, Repr

/-- What a part adds to the name of an operation. -/
def RouteSlot.ending : RouteSlot → String
  | params => "Params"
  | query => "Query"
  | headers => "Headers"
  | body => "Body"
  | response status =>
    if Text.hasPrefix "2" status then Text.uppercase status ++ "Response"
    else pascalCase status ++ "ErrorResponse"

/-- The schema for a part of the operation of a method on a path. -/
def routeSchema (method path : String) (slot : RouteSlot) : String :=
  pascalCase method ++ String.join ((Text.splitOn '/' path).map pascalCase) ++ slot.ending

/-- The schema for an error of a code, such as `NotFoundError` for `not_found`. -/
def errorSchema? (code : String) : Option String :=
  let base := pascalCase code
  if base.isEmpty || beginsWithDigit base then none else some (base ++ "Error")

end SchemaCompiler.Naming
