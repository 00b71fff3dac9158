/-!
Pieces of source text that validators and types have in common.

* `Code.indentation`, `Code.braced`: lines in braces, two spaces for each level;
* `Code.call`: the call of a method;
* `Code.operand`: an expression as an operand.
-/

namespace SchemaCompiler.Code

/-- Two spaces for each level. -/
def indentation (level : Nat) : String := String.ofList (List.replicate (2 * level) ' ')

/-- Some lines in braces, at a level. -/
def braced (level : Nat) (lines : List String) : String :=
  "\x7b\n" ++ String.join lines ++ indentation level ++ "\x7d"

/-- A call of a method. -/
def call (method argument : String) : String := "." ++ method ++ "(" ++ argument ++ ")"

/-- An expression as an operand, in parentheses if it is made up of several. -/
def operand (compound : Bool) (text : String) : String :=
  if compound then "(" ++ text ++ ")" else text

end SchemaCompiler.Code
