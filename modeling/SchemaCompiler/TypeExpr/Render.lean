import SchemaCompiler.Code
import SchemaCompiler.Text.Identifier
import SchemaCompiler.TypeExpr.Basic

/-!
The source text of a type.

* `TypeExpr.isCompound`: the types that need parentheses as an operand of `|` or `&`;
* `TypeExpr.render`: the text.
-/

namespace SchemaCompiler

/-- Whether the text of a type is made up of several operands. -/
def TypeExpr.isCompound : TypeExpr → Bool
  | .union _ | .intersection _ | .nullable _ => true
  | .strings values => 1 < values.length
  | .numbers values => 1 < values.length
  | .object fields index => !fields.isEmpty && index.isSome
  | _ => false

mutual

/-- The text of a type at a level. -/
def TypeExpr.renderAt (level : Nat) : TypeExpr → String
  | .string => "string"
  | .number => "number"
  | .boolean => "boolean"
  | .null => "null"
  | .unknown => "unknown"
  | .strings values => Text.join " | " (values.map Json.quote)
  | .numbers values => Text.join " | " (values.map Json.Number.text)
  | .array item => "Array<" ++ TypeExpr.renderAt level item ++ ">"
  | .object fields index =>
    let record := TypeExpr.renderIndex level index
    if fields.isEmpty then record.getD "\x7b\x7d"
    else
      let object := Code.braced level (TypeExpr.renderFields (level + 1) fields)
      match record with
      | some record => object ++ " & " ++ record
      | none => object
  | .union members => Text.join " | " (TypeExpr.renderOperands level members)
  | .intersection members => Text.join " & " (TypeExpr.renderOperands level members)
  | .reference name => name
  | .external name => name
  | .nullable inner => Code.operand inner.isCompound (TypeExpr.renderAt level inner) ++ " | null"

/-- A line for each field. -/
def TypeExpr.renderFields (level : Nat) : List (Field TypeExpr) → List String
  | [] => []
  | ⟨name, rule, isOptional⟩ :: rest =>
    (Code.indentation level ++ Text.propertyKey name ++ (if isOptional then "?" else "") ++ ": " ++
      TypeExpr.renderAt level rule ++ ";\n") :: TypeExpr.renderFields level rest

/-- The record of further members. -/
def TypeExpr.renderIndex (level : Nat) : Option TypeExpr → Option String
  | some type => some ("Record<string, " ++ TypeExpr.renderAt level type ++ ">")
  | none => none

/-- The texts of several operands. -/
def TypeExpr.renderOperands (level : Nat) : List TypeExpr → List String
  | [] => []
  | t :: rest =>
    Code.operand t.isCompound (TypeExpr.renderAt level t) :: TypeExpr.renderOperands level rest

end

/-- The text of a type. -/
def TypeExpr.render (t : TypeExpr) : String := t.renderAt 0

end SchemaCompiler
