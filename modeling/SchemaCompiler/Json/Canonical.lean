import SchemaCompiler.Json.Value
import SchemaCompiler.Text.Units

/-!
Canonical JSON text: members in the order of their names' UTF-16 code units, no spaces, and every
number as the shortest decimal of its double.

Integers beyond `2 ^ 53 - 1` have no canonical text, because the double nearest to one may be
another integer's as well.

* `Json.firstUnsafe?`: the first integer of a value that is out of range;
* `Json.sortMembers`: the same value with its members in order;
* `Json.canonicalText`: the text of a value as it stands, with canonical numbers.
-/

namespace SchemaCompiler.Json

/-- The greatest integer below which every integer is a double of its own. -/
def safeLimit : Nat := Nat.pow 2 53 - 1

mutual

/-- The first integer that lies out of range, in the order of the value's parts. -/
def firstUnsafe? : Json → Option Int
  | number (.integer value) => if value.natAbs ≤ safeLimit then none else some value
  | array items => firstUnsafeItem? items
  | object members => firstUnsafeMember? members
  | _ => none

/-- The first integer out of range among the items. -/
def firstUnsafeItem? : List Json → Option Int
  | [] => none
  | item :: rest => (firstUnsafe? item).or (firstUnsafeItem? rest)

/-- The first integer out of range among the members. -/
def firstUnsafeMember? : List (String × Json) → Option Int
  | [] => none
  | (_, value) :: rest => (firstUnsafe? value).or (firstUnsafeMember? rest)

end

mutual

/-- The value with the members of every object in the order of their names. -/
def sortMembers : Json → Json
  | array items => array (sortMembersOfItems items)
  | object members =>
    object ((sortMembersOfMembers members).mergeSort fun a b => Text.unitsLe a.1 b.1)
  | value => value

/-- Sorts the members within each item. -/
def sortMembersOfItems : List Json → List Json
  | [] => []
  | item :: rest => sortMembers item :: sortMembersOfItems rest

/-- Sorts the members within each member's value. -/
def sortMembersOfMembers : List (String × Json) → List (String × Json)
  | [] => []
  | (name, value) :: rest => (name, sortMembers value) :: sortMembersOfMembers rest

end

/-- Canonical numbers are positional from `0.000001` up to twenty-one digits before the point; whole
numbers have no point, and zero has no sign. -/
def canonicalStyle : DecimalStyle := ⟨-5, 21, false, false⟩

mutual

/-- The text of a value with canonical numbers. -/
def canonicalText : Json → String
  | null => "null"
  | bool value => if value then "true" else "false"
  | number value => value.toDouble.render canonicalStyle
  | string value => quote value
  | array items => "[" ++ canonicalItems items ++ "]"
  | object members => "\x7b" ++ canonicalMembers members ++ "\x7d"

/-- The texts of the items, with commas between them. -/
def canonicalItems : List Json → String
  | [] => ""
  | [item] => canonicalText item
  | item :: rest => canonicalText item ++ "," ++ canonicalItems rest

/-- The texts of the members, with commas between them. -/
def canonicalMembers : List (String × Json) → String
  | [] => ""
  | [(name, value)] => quote name ++ ":" ++ canonicalText value
  | (name, value) :: rest =>
    quote name ++ ":" ++ canonicalText value ++ "," ++ canonicalMembers rest

end

end SchemaCompiler.Json
