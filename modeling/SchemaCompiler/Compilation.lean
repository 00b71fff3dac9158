import SchemaCompiler.Document.Basic
import SchemaCompiler.Route.Basic
import SchemaCompiler.Text.Sorted
import SchemaCompiler.TypeExpr.Basic
import SchemaCompiler.Validator.Store

/-!
The compilation of a document into named validators and types.

* `Options`: what can be chosen about the output;
* `Components.sanitized`: new names for the components whose names cannot be declared;
* `Compilation`: all that a document is compiled to;
* `Document.compile`: the compilation, which fails if the document has a fault outside its routes.
-/

namespace SchemaCompiler

/-- What can be chosen about the output. -/
structure Options where
  /-- What is added to the name of a schema to make that of its validator. -/
  suffix : String
  /-- The module of the validation library. -/
  libraryModule : String
  /-- The module of the external names. -/
  registryModule : String
  /-- The module of the types. -/
  typesModule : String
  includeRoutes : Bool
  /-- The vendor whose extension gives examples. -/
  vendor : String
  deriving DecidableEq, Repr

/-- The usual choices. -/
def Options.standard : Options := ⟨"Schema", "zod", "./registry", "./types", true, "fixture"⟩

/-- The extension that gives examples. -/
def Options.examplesKeyword (options : Options) : String := s!"x-{options.vendor}-examples"

/-! ### Components -/

/-- New names for those of some names that are not taken.  Each is taken from then on. -/
def sanitizeNames (taken : List String) : List String → Table String
  | [] => []
  | name :: rest =>
    if taken.contains name then sanitizeNames taken rest
    else
      let renamed := Naming.unique taken (Naming.typeName name)
      (name, renamed) :: sanitizeNames (renamed :: taken) rest

namespace Components

/-- The components that cannot go by their own name, each with its new name. -/
def sanitized (components : Components) : Table String :=
  let names := Table.keys components.schemas
  sanitizeNames (names.filter fun name => Naming.typeName name == name) names

/-- The schema of a component, with references to the new names. -/
def parseSchema (sanitized : Renaming) (name : String) (value : Json) :
    Except CompileError Schema :=
  (Schema.parse value ("#" ++ Json.Pointer.render ["components", "schemas", name])).map
    (Schema.rename sanitized)

/-- The schemas of the components under the names that they go by. -/
def parseSchemas (components : Components) : Except CompileError (Table Schema) := do
  let sanitized := Renaming.ofTable components.sanitized
  let schemas ← components.schemas.mapM fun (name, value) => do
    return (sanitized.apply name, ← parseSchema sanitized name value)
  return Table.ofEntries schemas

end Components

/-! ### Documents -/

/-- All that a document is compiled to. -/
structure Compilation where
  /-- The schemas in order of emission. -/
  table : Table Schema
  routes : List Route
  validators : Validator.Store
  types : Table TypeExpr
  /-- The names that did not survive, each with the entry that took its place. -/
  renames : Table String
  /-- The components that do not go by their own name. -/
  sanitized : Table String
  cycles : List (List String)
  /-- Why operations were dropped. -/
  routeErrors : List CompileError
  warnings : List Warning
  /-- The external names that the output relies on, in order. -/
  externals : List String
  /-- The entries of the table that components stand for. -/
  componentNames : List String

namespace Compilation

/-- The entry that the name of a component or of a schema of a route stands for. -/
def canonicalName (compilation : Compilation) (name : String) : String :=
  (Renaming.ofTable compilation.renames).apply
    ((Renaming.ofTable compilation.sanitized).apply name)

/-- The names that did not survive but can still be declared. -/
def aliases (compilation : Compilation) : Table String :=
  compilation.renames.filter fun (name, _) =>
    Text.isIdentifier name && !Table.contains compilation.table name

end Compilation

namespace Document

/-- The routes of a document, or only its components if routes are left out. -/
def routeTable (document : Document) (options : Options) (components : Table Schema)
    (sanitized : Renaming) : Except CompileError RouteTable :=
  if options.includeRoutes then RouteTable.build document components sanitized
  else do return ⟨← Resolution.resolve components [], [], [], []⟩

/-- Compiles a document. -/
def compile (document : Document) (registry : Registry) (options : Options) :
    Except CompileError Compilation := do
  if !Text.hasPrefix "3.0" document.openapi then
    throw (.unsupported "#/openapi" (.version document.openapi))
  let sanitized := document.components.sanitized
  let components ← document.components.parseSchemas
  let ⟨⟨table, renames, cycles⟩, routes, errors, warnings⟩ ←
    document.routeTable options components (.ofTable sanitized)
  return {
    table
    routes
    validators := .ofSchemas registry table renames
    types := Table.mapValues (TypeExpr.ofSchema registry) table
    renames
    sanitized
    cycles
    routeErrors := errors
    warnings := warnings ++ sanitized.map (fun (old, new) => .componentRenamed old new) ++
      errors.map .routeDropped
    externals := Text.sortedSet (table.flatMap fun (_, s) => registry.used s)
    componentNames :=
      ((Table.keys components).map (Renaming.ofTable renames).apply).eraseDups.filter
        (Table.contains table) }

end Document

end SchemaCompiler
