/-!
Prefixes, pieces and joints of strings.

* `Text.stripPrefix?`: what follows a given beginning;
* `Text.splitOn`: the pieces between the occurrences of a character;
* `Text.join`: strings with a separator between them.
-/

namespace SchemaCompiler.Text

/-- Whether a string begins with another. -/
def hasPrefix (start s : String) : Bool := start.toList.isPrefixOf s.toList

/-- The rest of a string after a beginning that it has. -/
def stripPrefix? (start s : String) : Option String :=
  (start.toList.isPrefixOf? s.toList).map String.ofList

/-- The pieces of a row of characters between the occurrences of one character. -/
def splitList (separator : Char) : List Char → List (List Char)
  | [] => [[]]
  | c :: rest =>
    if c = separator then [] :: splitList separator rest
    else
      match splitList separator rest with
      | piece :: pieces => (c :: piece) :: pieces
      | [] => [[c]]

/-- The pieces of a string between the occurrences of a character. -/
def splitOn (separator : Char) (s : String) : List String :=
  (splitList separator s.toList).map String.ofList

/-- The strings one after another with a separator between them. -/
def join (separator : String) : List String → String
  | [] => ""
  | [s] => s
  | s :: rest => s ++ separator ++ join separator rest

end SchemaCompiler.Text
