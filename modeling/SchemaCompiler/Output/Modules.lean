import SchemaCompiler.Compilation
import SchemaCompiler.Output.Header
import SchemaCompiler.TypeExpr.Render
import SchemaCompiler.Validator.Render

/-!
The modules that a compilation is written as.

One module declares the validators, the other one the types.  Where a validator refers to one that is
declared after it, it is annotated with its type, which then comes from the module of types.

* `Compilation.validatorModule`, `Compilation.typeModule`: the texts of the modules;
* `requestLookup`, `responseLookup`: the validators of routes by path and method.
-/

namespace SchemaCompiler

/-! ### Imports -/

/-- The import of some names, if there are any. -/
def namedImport (keyword : String) (names : List String) (module : String) : String :=
  if names.isEmpty then ""
  else
    keyword ++ " \x7b " ++ Text.join ", " names ++ " \x7d from " ++ Json.quote module ++ ";\n"

/-- The text of a module: what goes before its declarations, and these. -/
def moduleText (start : String) (declarations : List String) : String :=
  start ++ Text.join "\n\n" declarations ++ "\n"

/-! ### Routes -/

/-- The routes of each path. -/
def routesByPath (routes : List Route) : Table (List Route) :=
  routes.foldl (fun table route =>
    let others := (Table.get? table route.site.path).getD []
    Table.insert table route.site.path (others ++ [route])) []

/-- The validator of a part of an operation, which is the name of a schema. -/
def slotText (suffix : String) (s : Schema) : String :=
  (Validator.ofSchema .empty s).render (.complete suffix)

/-- A member of an object literal at a level, itself a literal of some lines. -/
def literalMember (level : Nat) (key : String) (lines : List String) : String :=
  Code.indentation level ++ key ++ ": " ++
    (if lines.isEmpty then "\x7b\x7d" else Code.braced level lines) ++ ",\n"

/-- The lines for a request. -/
def requestLines (suffix : String) (route : Route) : List String :=
  route.request.map fun (slot, s) =>
    let isOptional := slot = .body ∧ !route.bodyRequired
    Code.indentation 3 ++ slot.label ++ ": " ++ slotText suffix s ++
      (if isOptional then ".optional()" else "") ++ ",\n"

/-- The lines for responses. -/
def responseLines (suffix : String) (route : Route) : List String :=
  route.responses.map fun (status, s) =>
    Code.indentation 3 ++ Json.quote status ++ ": " ++ slotText suffix s ++ ",\n"

/-- A lookup by path and method. -/
def lookup (name : String) (lines : Route → List String) (routes : List Route) : String :=
  let members := (routesByPath routes).map fun (path, routes) =>
    literalMember 1 (Json.quote path)
      (routes.map fun route => literalMember 2 route.site.method.name (lines route))
  "export const " ++ name ++ " = " ++ Code.braced 0 members ++ " as const;"

/-- The validators of requests. -/
def requestLookup (suffix : String) (routes : List Route) : String :=
  lookup "Request" (requestLines suffix) routes

/-- The validators of responses. -/
def responseLookup (suffix : String) (routes : List Route) : String :=
  lookup "Response" (responseLines suffix) routes

/-! ### Validators -/

/-- The declaration of a validator, which is annotated if it puts references off. -/
def validatorDeclaration (scope : Scope) (name : String) (v : Validator) : String :=
  "export const " ++ scope.constant name ++
    (if v.needsLazy scope then ": z.ZodType<Types." ++ name ++ ">" else "") ++ " = " ++
    v.render scope ++ ";"

/-- The declarations of validators, each in the scope of those before it, and whether one of them is
annotated. -/
def validatorDeclarations (scope : Scope) : List (String × Validator) → List String × Bool
  | [] => ([], false)
  | (name, v) :: rest =>
    let (declarations, annotated) := validatorDeclarations (scope.declare name) rest
    (validatorDeclaration scope name v :: declarations, v.needsLazy scope || annotated)

namespace Compilation

/-- The module of validators. -/
def validatorModule (compilation : Compilation) (options : Options) (header : FileHeader) :
    String :=
  let scope := Scope.start options.suffix
  let (declarations, annotated) := validatorDeclarations scope compilation.validators.entries
  let others := compilation.aliases.map fun (name, target) =>
    "export const " ++ scope.constant name ++ " = " ++ scope.constant target ++ ";"
  let lookups :=
    if options.includeRoutes then
      [requestLookup options.suffix compilation.routes,
        responseLookup options.suffix compilation.routes]
    else []
  moduleText
    (header.render ++ "import \x7b z \x7d from " ++ Json.quote options.libraryModule ++ ";\n" ++
      namedImport "import" compilation.externals options.registryModule ++
      (if annotated then "import type * as Types from " ++ Json.quote options.typesModule ++ ";\n"
        else "") ++ "\n")
    (declarations ++ others ++ lookups)

/-- The module of types. -/
def typeModule (compilation : Compilation) (options : Options) (header : FileHeader) : String :=
  let imports := namedImport "import type" compilation.externals options.registryModule
  let declarations := compilation.types.map fun (name, type) =>
    "export type " ++ name ++ " = " ++ type.render ++ ";"
  let others := compilation.aliases.map fun (name, target) =>
    "export type " ++ name ++ " = " ++ target ++ ";"
  moduleText (header.render ++ imports ++ (if imports.isEmpty then "" else "\n"))
    (declarations ++ others)

end Compilation

end SchemaCompiler
