import SchemaCompiler.Schema.Fragment
import SchemaCompiler.Validator.Basic

/-!
The schema that a validator stands for.

External names are read through their base, so the schema does not depend on what was registered.

* `Validator.schema`: the schema;
* `Validator.fragment`: its JSON fragment.
-/

namespace SchemaCompiler

/-- A schema that admits `null`. -/
def Schema.orNull : Schema → Schema
  | .mk kind _ => .mk kind true

/-- The names of the fields that are not optional. -/
def requiredNames {α : Type} (fields : List (Field α)) : List String :=
  ((fields.filter (!·.optional)).map Field.name).eraseDups

/-- The kind of an intersection: the last member, if it was inlined, goes back beside the others. -/
def intersectionKind (members : List Schema) (inlined objectTyped : Bool) : SchemaKind :=
  match inlined, members.getLast? with
  | true, some (.mk (.object rules) false) => .intersection members.dropLast (some rules) objectTyped
  | _, _ => .intersection members none objectTyped

mutual

/-- The schema of a validator. -/
def Validator.schema : Validator → Schema
  | .string checks => .mk (.string ⟨checks, none⟩) false
  | .number checks => .mk (.number ⟨checks, none⟩) false
  | .boolean => .mk .boolean false
  | .null => .mk .null false
  | .unknown => .mk .any false
  | .strings listed checks => .mk (.string ⟨checks, some listed⟩) false
  | .numbers listed checks => .mk (.number ⟨checks, some listed⟩) false
  | .array item bounds => .mk (.array (Validator.schema item) bounds) false
  | .object fields extras =>
    .mk (.object ⟨Validator.fieldSchemas fields, requiredNames fields, Validator.extrasSchema extras⟩)
      false
  | .union keyword members discriminator objectTyped =>
    .mk (.union keyword (Validator.schemas members) discriminator objectTyped) false
  | .intersection members inlined objectTyped =>
    .mk (intersectionKind (Validator.schemas members) inlined objectTyped) false
  | .reference name => .mk (.reference name) false
  | .external _ base => Validator.schema base
  | .nullable inner => (Validator.schema inner).orNull

/-- The properties of fields. -/
def Validator.fieldSchemas : List (Field Validator) → List (String × Schema)
  | [] => []
  | ⟨name, rule, _⟩ :: rest => (name, Validator.schema rule) :: Validator.fieldSchemas rest

/-- The rule for further members. -/
def Validator.extrasSchema : Extras Validator → Extras Schema
  | .unspecified => .unspecified
  | .allow => .allow
  | .forbid => .forbid
  | .schema rule => .schema (Validator.schema rule)

/-- The schemas of several validators. -/
def Validator.schemas : List Validator → List Schema
  | [] => []
  | v :: rest => Validator.schema v :: Validator.schemas rest

end

/-- The JSON fragment of a validator. -/
def Validator.fragment (v : Validator) : Json := v.schema.fragment

end SchemaCompiler
