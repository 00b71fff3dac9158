import SchemaCompiler.Json.Number
import SchemaCompiler.Table
import SchemaCompiler.Text.Hex

/-!
JSON values and their compact text.

An object is an ordered list of members.  `Json.WellFormed` says that no object of a value names a
member twice, which holds of every value that is read from text.

* `Json`: the values;
* `Json.same`: equality that looks at objects as maps;
* `Json.quote`, `Json.text`: the text of a string and of a value, without spaces.
-/

namespace SchemaCompiler

/-- A JSON value. -/
inductive Json where
  | null
  | bool (value : Bool)
  | number (value : Json.Number)
  | string (value : String)
  | array (items : List Json)
  | object (members : List (String × Json))

namespace Json

instance : Inhabited Json := ⟨.null⟩

/-- The member of an object under a name; nothing else has members. -/
def get? : Json → String → Option Json
  | object members, name => Table.get? members name
  | _, _ => none

/-- The members of an object; no other value has any. -/
def members : Json → Table Json
  | object members => members
  | _ => []

/-- The items of an array; no other value has any. -/
def items : Json → List Json
  | array items => items
  | _ => []

/-- The string that a value is. -/
def string? : Json → Option String
  | string value => some value
  | _ => none

/-- The truth value that a value is. -/
def bool? : Json → Option Bool
  | bool value => some value
  | _ => none

/-- Whether a value is `null`. -/
def isNull : Json → Bool
  | null => true
  | _ => false

/-- An exact natural number. -/
def natural? : Json → Option Nat
  | number (.integer value) => if 0 ≤ value then some value.toNat else none
  | _ => none

mutual

/-- No object within the value names a member twice. -/
def WellFormed : Json → Prop
  | array items => WellFormedItems items
  | object members => (members.map Prod.fst).Nodup ∧ WellFormedMembers members
  | _ => True

/-- Every item is well formed. -/
def WellFormedItems : List Json → Prop
  | [] => True
  | item :: rest => WellFormed item ∧ WellFormedItems rest

/-- Every member's value is well formed. -/
def WellFormedMembers : List (String × Json) → Prop
  | [] => True
  | (_, value) :: rest => WellFormed value ∧ WellFormedMembers rest

end

mutual

/-- Equality of values, objects being compared as maps. -/
def same : Json → Json → Bool
  | null, null => true
  | bool a, bool b => a == b
  | number a, number b => a.same b
  | string a, string b => a == b
  | array as, array bs => sameItems as bs
  | object as, object bs => as.length == bs.length && sameMembers as bs
  | _, _ => false

/-- Equality item by item. -/
def sameItems : List Json → List Json → Bool
  | [], [] => true
  | a :: as, b :: bs => same a b && sameItems as bs
  | _, _ => false

/-- Every member has an equal one of its name in the other object. -/
def sameMembers : List (String × Json) → List (String × Json) → Bool
  | [], _ => true
  | (key, a) :: as, bs =>
    (match Table.get? bs key with
      | some b => same a b
      | none => false) && sameMembers as bs

end

/-! ### Text -/

/-- A character inside a quoted string. -/
def escapeChar (c : Char) : List Char :=
  if c = '"' then ['\\', '"']
  else if c = '\\' then ['\\', '\\']
  else if c = '\n' then ['\\', 'n']
  else if c = '\r' then ['\\', 'r']
  else if c = '\t' then ['\\', 't']
  else if c = '\x08' then ['\\', 'b']
  else if c = '\x0c' then ['\\', 'f']
  else if c.toNat < 32 then ['\\', 'u', '0', '0'] ++ Text.hexByte c.toNat
  else [c]

/-- A string in quotation marks; only quotes, backslashes and control characters are escaped. -/
def quote (s : String) : String :=
  String.ofList ('"' :: s.toList.flatMap escapeChar ++ ['"'])

mutual

/-- The text of a value, without spaces. -/
def text : Json → String
  | null => "null"
  | bool value => if value then "true" else "false"
  | number value => value.text
  | string value => quote value
  | array items => "[" ++ textItems items ++ "]"
  | object members => "\x7b" ++ textMembers members ++ "\x7d"

/-- The texts of the items, with commas between them. -/
def textItems : List Json → String
  | [] => ""
  | [item] => text item
  | item :: rest => text item ++ "," ++ textItems rest

/-- The texts of the members, with commas between them. -/
def textMembers : List (String × Json) → String
  | [] => ""
  | [(key, value)] => quote key ++ ":" ++ text value
  | (key, value) :: rest => quote key ++ ":" ++ text value ++ "," ++ textMembers rest

end

/-- The word for the kind of a value. -/
def kindName : Json → String
  | null => "null"
  | bool _ => "boolean"
  | number _ => "number"
  | string _ => "string"
  | array _ => "array"
  | object _ => "object"

end Json

end SchemaCompiler
