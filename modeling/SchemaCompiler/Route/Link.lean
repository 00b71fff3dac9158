import SchemaCompiler.Document.Basic
import SchemaCompiler.Schema.Reference

/-!
References between the components of a document.

* `ComponentSection`: the components of one kind;
* `ComponentSection.follow?`: the component that a chain of references leads to, if it leads to one;
* `ComponentSection.locate`: the value of a part of an operation, and the pointer to it.
-/

namespace SchemaCompiler

/-- The operation of a method on a path. -/
structure Site where
  method : Method
  path : String
  deriving DecidableEq, Repr

/-- A part of a document, and the pointer to it. -/
structure Located (α : Type) where
  value : α
  pointer : String

/-- The components of one kind. -/
structure ComponentSection (α : Type) where
  name : String
  entries : Table (Linked α)

namespace Components

/-- The parameters. -/
def parameterSection (components : Components) : ComponentSection Parameter :=
  ⟨"parameters", components.parameters⟩

/-- The bodies of requests. -/
def bodySection (components : Components) : ComponentSection RequestBody :=
  ⟨"requestBodies", components.requestBodies⟩

/-- The responses. -/
def responseSection (components : Components) : ComponentSection Response :=
  ⟨"responses", components.responses⟩

end Components

namespace ComponentSection

variable {α : Type}

/-- The pointer to a component. -/
def pointer (kind : ComponentSection α) (name : String) : String :=
  "#" ++ Json.Pointer.render ["components", kind.name, name]

/-- The component that a reference leads to, by way of references between components none of which
is met twice. -/
def follow? (kind : ComponentSection α) (visited : List String) (reference : String) :
    Option (Located α) :=
  match Reference.nameIn? kind.name reference with
  | none => none
  | some name =>
    if _new : name ∈ visited then none
    else
      match _found : Table.get? kind.entries name with
      | none => none
      | some (.inline value) => some ⟨value, kind.pointer name⟩
      | some (.reference target) => follow? kind (name :: visited) target
termination_by unvisited (Table.keys kind.entries) visited
decreasing_by exact unvisited_cons_lt (Table.mem_keys_of_get? ‹_›) ‹_›

/-- The value of a part of an operation, which stands at a pointer unless it is a reference. -/
def locate (kind : ComponentSection α) (site : Site) (pointer : String) :
    Linked α → Except CompileError (Located α)
  | .inline value => .ok ⟨value, pointer⟩
  | .reference target =>
    match kind.follow? [] target with
    | some located => .ok located
    | none => .error (.unresolvedComponent site.method.name site.path target)

end ComponentSection

end SchemaCompiler
