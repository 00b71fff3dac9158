import SchemaCompiler.Error
import SchemaCompiler.Text.Identifier

/-!
The registry of external names.

A registry says which string formats and which primitives are to be written as names that are
defined elsewhere.

* `RegistryKey`: what can be registered, and `RegistryKey.ofText`, the notation for it;
* `Registry`: the registered names in order;
* `Registry.register`, `Registry.extend`: registration of one name and of the members of an object;
* `Registry.perform`: a registration of either kind, or the removal of everything, whether it is refused
  or not.
-/

namespace SchemaCompiler

/-- What a registered name stands for: a string format or a primitive. -/
inductive RegistryKey where
  | format (name : String)
  | boolean
  | number
  | integer
  deriving DecidableEq, Repr

namespace RegistryKey

/-- The key of a text: the name of a primitive, or a format, to whose name `format:` may be
prefixed. -/
def ofText : String → RegistryKey
  | "boolean" => boolean
  | "number" => number
  | "integer" => integer
  | text => format ((Text.stripPrefix? "format:" text).getD text)

/-- The wording of a key. -/
def describe : RegistryKey → String
  | format name => s!"format '{name}'"
  | boolean => "primitive 'boolean'"
  | number => "primitive 'number'"
  | integer => "primitive 'integer'"

end RegistryKey

/-- Registered names in the order of registration. -/
structure Registry where
  entries : List (RegistryKey × String)
  deriving DecidableEq, Repr

namespace Registry

/-- Nothing is registered. -/
def empty : Registry := ⟨[]⟩

/-- The name that is registered for a key. -/
def lookup? (registry : Registry) (key : RegistryKey) : Option String := registry.entries.lookup key

/-- Registers a name for a key.  It must be an identifier; registering the same name again changes
nothing, and another name for the same key is refused. -/
def register (registry : Registry) (key : RegistryKey) (name : String) :
    Except CompileError Registry :=
  if !Text.isIdentifier name then .error (.invalidAlias name)
  else
    match registry.lookup? key with
    | some existing =>
      if existing = name then .ok registry
      else .error (.conflictingRegistration key.describe existing name)
    | none => .ok ⟨registry.entries ++ [(key, name)]⟩

/-- Registers pairs up to the first that is refused: the registry reached, and the error if there
was one. -/
def registerAll (registry : Registry) : List (String × String) → Registry × Option CompileError
  | [] => (registry, none)
  | (key, name) :: rest =>
    match registry.register (.ofText key) name with
    | .ok next => registerAll next rest
    | .error error => (registry, some error)

/-- Registers the members of an object up to the first that is refused. -/
def extendMembers (registry : Registry) :
    List (String × Json) → Registry × Option CompileError
  | [] => (registry, none)
  | (key, .string name) :: rest =>
    match registry.register (.ofText key) name with
    | .ok next => extendMembers next rest
    | .error error => (registry, some error)
  | (key, _) :: _ => (registry, some (.unsupported s!"#/{key}" .registryAliasNotString))

/-- Registers the members of an object. -/
def extend (registry : Registry) : Json → Registry × Option CompileError
  | .object members => registry.extendMembers members
  | _ => (registry, some (.unsupported "#" .registryNotObject))

/-- The registry of some pairs, or the first error. -/
def ofPairs (pairs : List (String × String)) : Except CompileError Registry :=
  match registerAll empty pairs with
  | (registry, none) => .ok registry
  | (_, some error) => .error error

/-- What can be done to a registry. -/
inductive Operation where
  | register (key : RegistryKey) (name : String)
  | extend (value : Json)
  | clear

/-- The registry after an operation, and the error if it was refused. -/
def perform (registry : Registry) : Operation → Registry × Option CompileError
  | .register key name =>
    match registry.register key name with
    | .ok next => (next, none)
    | .error error => (registry, some error)
  | .extend value => registry.extend value
  | .clear => (empty, none)

/-- The registry after some operations, whichever of them are refused. -/
def performAll (registry : Registry) (operations : List Operation) : Registry :=
  operations.foldl (fun registry operation => (registry.perform operation).1) registry

end Registry

end SchemaCompiler
