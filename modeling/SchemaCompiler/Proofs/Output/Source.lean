import SchemaCompiler.Output.Generation
import SchemaCompiler.Proofs.Except
import SchemaCompiler.Proofs.Table

/-!
The statements of written modules.

A module is a comment, some imports and some declarations, each of which binds names.

* `Statement`: an import or a declaration, with its text and the names that it binds;
* `Source`: a module as statements;
* `Compilation.validatorSource`, `Compilation.typeSource`: the statements of the two modules, with
  `text_validatorSource` and `text_typeSource`.
-/

namespace SchemaCompiler

/-- An import of some names, the import of a module under a name, or a declaration. -/
inductive Statement where
  | imports (keyword : String) (names : List String) (module : String)
  | importAll (keyword name module : String)
  | declaration (keyword name annotation value : String)

namespace Statement

/-- The text of a statement. -/
def text : Statement → String
  | imports keyword names module =>
    keyword ++ " \x7b " ++ Text.join ", " names ++ " \x7d from " ++ Json.quote module ++ ";"
  | importAll keyword name module => keyword ++ " * as " ++ name ++ " from " ++ Json.quote module ++ ";"
  | declaration keyword name annotation value =>
    keyword ++ " " ++ name ++ annotation ++ " = " ++ value ++ ";"

/-- The names that a statement binds. -/
def names : Statement → List String
  | imports _ names _ => names
  | importAll _ name _ => [name]
  | declaration _ name _ _ => [name]

end Statement

/-- A module as statements under a comment. -/
structure Source where
  header : String
  imports : List Statement
  declarations : List Statement

namespace Source

/-- The text of a module. -/
def text (source : Source) : String :=
  moduleText
    (source.header ++ String.join (source.imports.map fun statement => statement.text ++ "\n") ++
      if source.imports.isEmpty then "" else "\n")
    (source.declarations.map Statement.text)

/-- The names that a module binds. -/
def names (source : Source) : List String :=
  (source.imports ++ source.declarations).flatMap Statement.names

end Source

/-! ### Statements -/

/-- The import of some names, if there are any. -/
def importsOf (keyword : String) (names : List String) (module : String) : List Statement :=
  if names.isEmpty then [] else [.imports keyword names module]

lemma join_importsOf (keyword : String) (names : List String) (module : String) :
    String.join ((importsOf keyword names module).map fun statement => statement.text ++ "\n") =
      namedImport keyword names module := by
  rw [importsOf, namedImport]
  split
  · rfl
  · simp [Statement.text, String.append_assoc]

lemma isEmpty_importsOf (keyword : String) (names : List String) (module : String) :
    (importsOf keyword names module).isEmpty = (namedImport keyword names module).isEmpty := by
  rw [importsOf, namedImport]
  split
  · rfl
  · simp

lemma names_importsOf (keyword : String) (names : List String) (module : String) :
    (importsOf keyword names module).flatMap Statement.names = names := by
  rw [importsOf]
  split
  · next none => rw [List.flatMap_nil, List.isEmpty_iff.1 none]
  · exact List.append_nil names

/-- Declarations bind their names. -/
lemma names_declarations {α : Type} (keyword : String) (name value : α → String) (entries : List α) :
    (entries.map fun entry => Statement.declaration keyword (name entry) "" (value entry)).flatMap
      Statement.names = entries.map name := by
  rw [List.flatMap_map, List.map_eq_flatMap]
  rfl

/-- The declarations of validators, each in the scope of those before it. -/
def validatorStatements (scope : Scope) : List (String × Validator) → List Statement
  | [] => []
  | (name, v) :: rest =>
    .declaration "export const" (scope.constant name)
      (if v.needsLazy scope then ": z.ZodType<Types." ++ name ++ ">" else "") (v.render scope) ::
      validatorStatements (scope.declare name) rest

lemma text_validatorStatements (scope : Scope) (entries : List (String × Validator)) :
    (validatorStatements scope entries).map Statement.text =
      (validatorDeclarations scope entries).1 := by
  induction entries generalizing scope with
  | nil => rfl
  | cons entry rest ih =>
      rw [validatorStatements, validatorDeclarations, List.map_cons, ih]
      rfl

lemma names_validatorStatements (scope : Scope) (entries : List (String × Validator)) :
    (validatorStatements scope entries).flatMap Statement.names =
      (Table.keys entries).map (· ++ scope.suffix) := by
  induction entries generalizing scope with
  | nil => rfl
  | cons entry rest ih =>
      rw [validatorStatements, List.flatMap_cons, ih]
      rfl

/-- The declaration of a lookup by path and method. -/
def lookupStatement (name : String) (lines : Route → List String) (routes : List Route) : Statement :=
  .declaration "export const" name ""
    (Code.braced 0 ((routesByPath routes).map fun (path, routes) =>
      literalMember 1 (Json.quote path)
        (routes.map fun route => literalMember 2 route.site.method.name (lines route))) ++ " as const")

lemma text_lookupStatement (name : String) (lines : Route → List String) (routes : List Route) :
    (lookupStatement name lines routes).text = lookup name lines routes := by
  simp [lookupStatement, lookup, Statement.text, String.append_assoc]

/-! ### Modules -/

namespace Compilation

variable (compilation : Compilation) (options : Options) (header : FileHeader)

/-- Whether a validator is annotated with its type. -/
def isAnnotated : Bool :=
  (validatorDeclarations (.start options.suffix) compilation.validators.entries).2

/-- The module of validators as statements. -/
def validatorSource : Source where
  header := header.render
  imports := .imports "import" ["z"] options.libraryModule ::
    importsOf "import" compilation.externals options.registryModule ++
      if compilation.isAnnotated options then
        [.importAll "import type" "Types" options.typesModule]
      else []
  declarations :=
    let scope := Scope.start options.suffix
    validatorStatements scope compilation.validators.entries ++
      compilation.aliases.map (fun (name, target) =>
        .declaration "export const" (scope.constant name) "" (scope.constant target)) ++
      if options.includeRoutes then
        [lookupStatement "Request" (requestLines options.suffix) compilation.routes,
          lookupStatement "Response" (responseLines options.suffix) compilation.routes]
      else []

/-- The module of types as statements. -/
def typeSource : Source where
  header := header.render
  imports := importsOf "import type" compilation.externals options.registryModule
  declarations :=
    compilation.types.map (fun (name, type) => .declaration "export type" name "" type.render) ++
      compilation.aliases.map fun (name, target) => .declaration "export type" name "" target

lemma text_validatorSource :
    (compilation.validatorSource options header).text = compilation.validatorModule options header := by
  have start : (Statement.imports "import" ["z"] options.libraryModule).text ++ "\n" =
      "import \x7b z \x7d from " ++ Json.quote options.libraryModule ++ ";\n" := by
    simp [Statement.text, Text.join, String.append_assoc]
  have types : (Statement.importAll "import type" "Types" options.typesModule).text ++ "\n" =
      "import type * as Types from " ++ Json.quote options.typesModule ++ ";\n" := by
    simp [Statement.text, String.append_assoc]
  refine congrArg₂ moduleText ?_ ?_
  · simp only [validatorSource, List.map_cons, List.map_append, String.join_cons, String.join_append,
      join_importsOf, isAnnotated, start]
    by_cases annotated :
        (validatorDeclarations (.start options.suffix) compilation.validators.entries).2 = true
    · simp [annotated, types, String.append_assoc]
    · simp [annotated, String.append_assoc]
  · simp only [validatorSource, List.map_append, text_validatorStatements, List.map_map]
    congr 1
    · congr 1
      exact List.map_congr_left fun entry _ => by simp [Statement.text, String.append_assoc]
    · split
      · simp [text_lookupStatement, requestLookup, responseLookup]
      · rfl

lemma text_typeSource :
    (compilation.typeSource options header).text = compilation.typeModule options header := by
  refine congrArg₂ moduleText ?_ ?_
  · simp only [typeSource, join_importsOf, isEmpty_importsOf]
  · simp only [typeSource, List.map_append, List.map_map]
    congr 1 <;> exact List.map_congr_left fun entry _ => by simp [Statement.text, String.append_assoc]

end Compilation

end SchemaCompiler
