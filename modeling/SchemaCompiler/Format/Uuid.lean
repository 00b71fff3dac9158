import SchemaCompiler.Text.Affix
import SchemaCompiler.Text.Hex

/-!
Universally unique identifiers.

* `Uuid.isUuid`: 32 hexadecimal digits, or these in five groups, which may stand in braces or after
  `urn:uuid:` in either case.
-/

namespace SchemaCompiler.Uuid

/-- Whether a row of characters consists of so many hexadecimal digits. -/
def isHexGroup (length : Nat) (cs : List Char) : Bool :=
  cs.length == length && cs.all fun c => (Text.hexValue? c).isSome

/-- Whether a row of characters is an identifier in five groups. -/
def isGrouped (cs : List Char) : Bool :=
  match Text.splitList '-' cs with
  | [a, b, c, d, e] =>
    isHexGroup 8 a && isHexGroup 4 b && isHexGroup 4 c && isHexGroup 4 d && isHexGroup 12 e
  | _ => false

/-- What stands in the braces or after the name of the scheme, if there is either. -/
def unwrapped (cs : List Char) : List Char :=
  let scheme := "urn:uuid:".toList
  if (cs.take scheme.length).map Char.toLower = scheme then cs.drop scheme.length
  else
    match cs with
    | '\x7b' :: rest => if rest.getLast? = some '\x7d' then rest.dropLast else cs
    | _ => cs

/-- Whether a text is an identifier. -/
def isUuid (text : String) : Bool :=
  isHexGroup 32 text.toList || isGrouped (unwrapped text.toList)

end SchemaCompiler.Uuid
