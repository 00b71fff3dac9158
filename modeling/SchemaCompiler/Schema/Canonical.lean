import SchemaCompiler.Blake3
import SchemaCompiler.Json.Canonical
import SchemaCompiler.Schema.Fragment

/-!
Canonical forms of schemas.

Two fragments have the same canonical form if they differ only in the order of members, in the order
of the `required` and `enum` lists that are made of strings alone or of numbers alone, in the places
of `null` in such lists, and in the spelling of numbers.

* `Json.arrange`: a value with its order-free lists sorted;
* `Canonical`: the canonical text of a value, which stands for the value's structure;
* `Canonical.ofJson`, `Canonical.ofSchema`: the canonical form of a value and of a schema.
-/

namespace SchemaCompiler

/-! ### Order-free lists -/

/-- The lists whose order carries no meaning. -/
def orderFree (keyword : String) : Bool := keyword = "required" || keyword = "enum"

/-- The order of the strings and numbers of a list: strings by their characters, numbers by their
doubles. -/
def scalarLe : Json → Json → Bool
  | .string a, .string b => decide (a ≤ b)
  | .number a, .number b => decide (a.toDouble.value ≤ b.toDouble.value)
  | _, _ => true

/-- Whether a value is a string. -/
def Json.isString : Json → Bool
  | .string _ => true
  | _ => false

/-- Whether a value is a number. -/
def Json.isNumber : Json → Bool
  | .number _ => true
  | _ => false

/-- A list with its nulls at the end and the other values sorted, if these are all strings or all
numbers. -/
def sortScalars (items : List Json) : List Json :=
  let values := items.filter (!·.isNull)
  let nulls := items.filter (·.isNull)
  if values.all Json.isString || values.all Json.isNumber then values.mergeSort scalarLe ++ nulls
  else values ++ nulls

/-- The value of a keyword, sorted if it is a list whose order carries no meaning. -/
def arrangeKeyword (keyword : String) (value : Json) : Json :=
  match value with
  | .array items => if orderFree keyword then .array (sortScalars items) else value
  | _ => value

mutual

/-- The value with its order-free lists sorted, at every depth. -/
def Json.arrange : Json → Json
  | .array items => .array (Json.arrangeItems items)
  | .object members => .object (Json.arrangeMembers members)
  | value => value

/-- Arranges each item. -/
def Json.arrangeItems : List Json → List Json
  | [] => []
  | item :: rest => Json.arrange item :: Json.arrangeItems rest

/-- Arranges each member. -/
def Json.arrangeMembers : List (String × Json) → List (String × Json)
  | [] => []
  | (keyword, value) :: rest =>
    (keyword, arrangeKeyword keyword (Json.arrange value)) :: Json.arrangeMembers rest

end

/-! ### Canonical forms -/

/-- A canonical form, given by its text. -/
structure Canonical where
  text : String
  deriving DecidableEq

namespace Canonical

/-- The canonical form of a value; an integer out of range has none. -/
def ofJson (value : Json) : Except CanonicalFault Canonical :=
  let arranged := value.arrange
  match arranged.firstUnsafe? with
  | some n => .error (if 0 ≤ n then .tooGreat else .tooSmall)
  | none => .ok ⟨arranged.sortMembers.canonicalText⟩

/-- The canonical form of a schema, as an error of the document if there is none. -/
def ofSchema (s : Schema) : Except CompileError Canonical :=
  (ofJson s.fragment).mapError .canonicalization

/-- A short digest for messages. -/
def digest (c : Canonical) : String := String.ofList ((Blake3.hexDigest c.text).toList.take 16)

/-- The order of the texts. -/
def le (a b : Canonical) : Bool := decide (a.text ≤ b.text)

end Canonical

end SchemaCompiler
