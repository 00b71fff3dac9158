import SchemaCompiler.Format.Address
import SchemaCompiler.Format.Domain

/-!
Addresses of mail.

* `Email.isHost`: a name of labels, or what ends in a network address in brackets;
* `Email.isEmail`: a local part and a host with `@` between them.
-/

namespace SchemaCompiler.Email

/-- Whether a character can stand before the `@`. -/
def isLocal (c : Char) : Bool := c.isAlphanum || ".!#$%&'*+/=?^_`\x7b|\x7d~-".contains c

/-- Whether a row of characters is a label of a name. -/
def isLabel (cs : List Char) : Bool :=
  decide (cs.length ≤ 63) && cs.all (fun c => c.isAlphanum || c = '-') &&
    cs.head?.any Char.isAlphanum && cs.getLast?.any Char.isAlphanum

/-- Whether a row of characters ends in a network address in brackets. -/
def isLiteral (cs : List Char) : Bool :=
  match cs.reverse with
  | ']' :: inside =>
    let address := (inside.takeWhile (· ≠ '[')).reverse
    inside.contains '[' && (Address.isDotted address || Address.isGrouped address)
  | _ => false

/-- Whether a row of characters is a host as it stands. -/
def isHost (cs : List Char) : Bool := (Text.splitList '.' cs).all isLabel || isLiteral cs

/-- Whether a text is an address of mail.  The last `@` begins the host, which may have to be put
into ASCII first. -/
def isEmail (text : String) : Bool :=
  let cs := text.toList
  let host := (cs.reverse.takeWhile (· ≠ '@')).reverse
  let before := (cs.take (cs.length - host.length)).dropLast
  cs.contains '@' && decide (before.length ≤ 64) && decide (host.length ≤ 255) &&
    !before.isEmpty && before.all isLocal &&
    (isHost host || (Domain.ofText? host).any isHost)

end SchemaCompiler.Email
