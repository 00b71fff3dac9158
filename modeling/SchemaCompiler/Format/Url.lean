import SchemaCompiler.Format.Address
import SchemaCompiler.Format.Domain
import SchemaCompiler.Text.Percent

/-!
Absolute addresses of the web.

A text is one if a scheme stands first and the host that the scheme asks for can be read.

* `Url.isSpecial`: the schemes whose addresses have a host;
* `Url.isSpecialHost`, `Url.isOpaqueHost`: hosts that are looked up, and others;
* `Url.isUrl`: the texts that are addresses.
-/

namespace SchemaCompiler.Url

/-- Whether addresses of a scheme have a host, and a backslash in them is as good as a slash. -/
def isSpecial (scheme : String) : Bool := ["http", "https", "ws", "wss", "ftp"].contains scheme

/-- The characters that no host has. -/
def isForbidden (c : Char) : Bool :=
  c.toNat ≤ 0x20 || c.toNat = 0x7F || "#/:<>?@[\\]^|%".contains c

/-- The scheme and what follows it. -/
def scheme? (text : List Char) : Option (String × List Char) :=
  let scheme := text.takeWhile fun c => c.isAlphanum || c = '+' || c = '-' || c = '.'
  match scheme.head?, text.drop scheme.length with
  | some first, ':' :: rest =>
    if first.isAlpha then some (String.ofList (scheme.map Char.toLower), rest) else none
  | _, _ => none

/-- Whether a host in brackets is an address; none if it has no brackets. -/
def bracketed? (host : List Char) : Option Bool :=
  match host with
  | '[' :: rest => some (rest.getLast? == some ']' && Address.isGrouped rest.dropLast)
  | _ => none

/-- Whether a host can be looked up: an address in brackets, a name, or an address in numbers. -/
def isSpecialHost (host : List Char) : Bool :=
  match bracketed? host with
  | some isAddress => isAddress
  | none =>
    match (Text.percentDecode? (String.ofList host)).bind fun s => Domain.ofText? s.toList with
    | none => false
    | some name =>
      !name.isEmpty && !name.any isForbidden && (!Address.isNumeric name || Address.isNumber name)

/-- Whether a host that is not looked up can be written. -/
def isOpaqueHost (host : List Char) : Bool :=
  match bracketed? host with
  | some isAddress => isAddress
  | none => !host.any fun c => c = '\x00' || "\t\n\r #/:<>?@[\\]^|".contains c

/-- The host at the beginning of a text, which ends at a colon outside of brackets. -/
def hostOf (inBrackets : Bool) : List Char → List Char
  | [] => []
  | c :: rest =>
    if c = ':' ∧ !inBrackets then []
    else c :: hostOf (if c = '[' then true else if c = ']' then false else inBrackets) rest

/-- Whether a text is the number of a socket, which has sixteen bits and may be left out. -/
def isSocketNumber (digits : List Char) : Bool :=
  digits.all Char.isDigit && decide (Address.decimal digits < 65536)

/-- Whether what stands between the slashes and the path can be read: names of users before the
last `@`, a host, and the number of a socket after a colon.  A host that is not looked up can be
left out, but not after a user or before a number. -/
def isAuthority (special : Bool) (text : List Char) : Bool :=
  let ends := fun c : Char => c = '/' || c = '?' || c = '#' || (special && c = '\\')
  let authority := text.takeWhile fun c => !ends c
  let afterAt := (authority.reverse.takeWhile (· ≠ '@')).reverse
  let user := (authority.take (authority.length - afterAt.length)).dropLast
  let host := hostOf false afterAt
  let rest := afterAt.drop host.length
  let socket := (rest.drop 1).takeWhile (· ≠ '\\')
  if host.isEmpty then
    !special && rest.isEmpty &&
      (!authority.contains '@' || user == [':'] ||
        (user.isEmpty && text.length == authority.length))
  else
    (if special then isSpecialHost host else isOpaqueHost host) && isSocketNumber socket

/-- Whether the host of an address of a file can be read.  It may be left out, and the letter of a
drive is none. -/
def isFileRest (text : List Char) : Bool :=
  let isSlash := fun c : Char => c = '/' || c = '\\'
  match text with
  | a :: b :: rest =>
    if isSlash a ∧ isSlash b then
      let host := rest.takeWhile fun c => !(isSlash c || c = '?' || c = '#')
      match host with
      | [] => true
      | [letter, mark] =>
        (letter.isAlpha && (mark = ':' || mark = '|')) || isSpecialHost host
      | _ => isSpecialHost host
    else true
  | _ => true

/-- Whether a text is an absolute address.  Controls and blanks around it do not count, nor do tabs
and ends of lines within it. -/
def isUrl (text : String) : Bool :=
  let isOuter := fun c : Char => decide (c.toNat ≤ 0x20)
  let trimmed := ((text.toList.dropWhile isOuter).reverse.dropWhile isOuter).reverse
  match scheme? (trimmed.filter fun c => c ≠ '\t' && c ≠ '\n' && c ≠ '\r') with
  | none => false
  | some (scheme, rest) =>
    if scheme = "file" then isFileRest rest
    else if isSpecial scheme then
      isAuthority true (rest.dropWhile fun c => c = '/' || c = '\\')
    else
      match rest with
      | '/' :: '/' :: authority => isAuthority false authority
      | _ => true

end SchemaCompiler.Url
