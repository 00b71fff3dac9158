import SchemaCompiler.Schema.Basic
import SchemaCompiler.Error

/-!
The component names in a schema.

* `Schema.mentions`: the names that references give, in order, as often as they occur;
* `Schema.references`: each of these names once;
* `Renaming`, `Schema.rename`: a partial renaming, and the schema with its references renamed.  The
  targets of a discriminator mapping that are written as references follow.
-/

namespace SchemaCompiler

/-- A partial renaming of components. -/
abbrev Renaming := String → Option String

namespace Renaming

/-- The new name, or the old one if there is none. -/
def apply (f : Renaming) (name : String) : String := (f name).getD name

/-- The renaming by one and then by another. -/
def andThen (f g : Renaming) : Renaming := fun name =>
  match f name with
  | some renamed => some (g.apply renamed)
  | none => g name

/-- The renaming that a table gives. -/
def ofTable (table : Table String) : Renaming := Table.get? table

end Renaming

/-- The target of a mapping entry, renamed if it is the component prefix followed by a name that is
renamed. -/
def renameTarget (f : Renaming) (target : String) : String :=
  match Text.stripPrefix? componentPrefix target with
  | none => target
  | some name =>
    match f name with
    | none => target
    | some renamed => componentPrefix ++ renamed

/-- The discriminator with the targets of its mapping renamed. -/
def Discriminator.rename (f : Renaming) (d : Discriminator) : Discriminator :=
  { d with mapping := Table.mapValues (renameTarget f) d.mapping }

mutual

/-- The names that references give, in order. -/
def Schema.mentions : Schema → List String
  | .mk kind _ => SchemaKind.mentions kind

/-- The names in a kind. -/
def SchemaKind.mentions : SchemaKind → List String
  | .array items _ => Schema.mentions items
  | .object rules => ObjectRules.mentions rules
  | .union _ members _ _ => Schema.mentionsAll members
  | .intersection members inline _ => Schema.mentionsAll members ++ ObjectRules.mentionsInline inline
  | .reference name => [name]
  | _ => []

/-- The names in the rules that there may be. -/
def ObjectRules.mentionsInline : Option (ObjectRules Schema) → List String
  | none => []
  | some rules => ObjectRules.mentions rules

/-- The names in the rules of an object. -/
def ObjectRules.mentions : ObjectRules Schema → List String
  | ⟨properties, _, extras⟩ => ObjectRules.mentionsProperties properties ++ Extras.mentions extras

/-- The names in named properties. -/
def ObjectRules.mentionsProperties : List (String × Schema) → List String
  | [] => []
  | (_, property) :: rest => Schema.mentions property ++ ObjectRules.mentionsProperties rest

/-- The names in the rule for further members. -/
def Extras.mentions : Extras Schema → List String
  | .schema rule => Schema.mentions rule
  | _ => []

/-- The names in several schemas. -/
def Schema.mentionsAll : List Schema → List String
  | [] => []
  | s :: rest => Schema.mentions s ++ Schema.mentionsAll rest

end

/-- The names of the components that a schema references, each once, in order. -/
def Schema.references (s : Schema) : List String := s.mentions.eraseDups

mutual

/-- The schema with its references renamed. -/
def Schema.rename (f : Renaming) : Schema → Schema
  | .mk kind nullable => .mk (SchemaKind.rename f kind) nullable

/-- The kind with its references renamed. -/
def SchemaKind.rename (f : Renaming) : SchemaKind → SchemaKind
  | .array items bounds => .array (Schema.rename f items) bounds
  | .object rules => .object (ObjectRules.rename f rules)
  | .union keyword members discriminator objectTyped =>
    .union keyword (Schema.renameAll f members) (discriminator.map (Discriminator.rename f))
      objectTyped
  | .intersection members inline objectTyped =>
    .intersection (Schema.renameAll f members) (ObjectRules.renameInline f inline) objectTyped
  | .reference name => .reference (f.apply name)
  | .string rules => .string rules
  | .number rules => .number rules
  | .boolean => .boolean
  | .null => .null
  | .any => .any

/-- The rules that there may be, renamed. -/
def ObjectRules.renameInline (f : Renaming) :
    Option (ObjectRules Schema) → Option (ObjectRules Schema)
  | none => none
  | some rules => some (ObjectRules.rename f rules)

/-- The rules of an object, renamed. -/
def ObjectRules.rename (f : Renaming) : ObjectRules Schema → ObjectRules Schema
  | ⟨properties, required, extras⟩ =>
    ⟨ObjectRules.renameProperties f properties, required, Extras.rename f extras⟩

/-- Named properties, renamed. -/
def ObjectRules.renameProperties (f : Renaming) : List (String × Schema) → List (String × Schema)
  | [] => []
  | (name, property) :: rest =>
    (name, Schema.rename f property) :: ObjectRules.renameProperties f rest

/-- The rule for further members, renamed. -/
def Extras.rename (f : Renaming) : Extras Schema → Extras Schema
  | .schema rule => .schema (Schema.rename f rule)
  | .unspecified => .unspecified
  | .allow => .allow
  | .forbid => .forbid

/-- Several schemas, renamed. -/
def Schema.renameAll (f : Renaming) : List Schema → List Schema
  | [] => []
  | s :: rest => Schema.rename f s :: Schema.renameAll f rest

end

end SchemaCompiler
