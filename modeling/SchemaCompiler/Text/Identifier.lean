import SchemaCompiler.Json.Value

/-!
TypeScript identifiers.

* `Text.keywords`: the words that cannot be declared as names;
* `Text.isIdentifier`: the ASCII names that can;
* `Text.propertyKey`: a property name as it stands in an object literal or type.
-/

namespace SchemaCompiler.Text

/-- The words that the language reserves. -/
def keywords : List String :=
  ["break", "case", "catch", "class", "const", "continue", "debugger", "default", "delete", "do",
    "else", "enum", "export", "extends", "false", "finally", "for", "function", "if", "import", "in",
    "instanceof", "new", "null", "return", "super", "switch", "this", "throw", "true", "try",
    "typeof", "var", "void", "while", "with", "let", "static", "yield", "await", "implements",
    "interface", "package", "private", "protected", "public", "type"]

/-- A name can begin with this character. -/
def startsIdentifier (c : Char) : Bool := c.isAlpha || c = '_' || c = '$'

/-- A name can go on with this character. -/
def continuesIdentifier (c : Char) : Bool := c.isAlphanum || c = '_' || c = '$'

/-- Whether a row of characters is made up like a name. -/
def isBare : List Char → Bool
  | [] => false
  | c :: rest => startsIdentifier c && rest.all continuesIdentifier

/-- Whether a string can be declared as a name. -/
def isIdentifier (name : String) : Bool := isBare name.toList && !keywords.contains name

/-- A property name: bare if it is made up like a name, quoted otherwise. -/
def propertyKey (name : String) : String :=
  if isBare name.toList then name else Json.quote name

end SchemaCompiler.Text
