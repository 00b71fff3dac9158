import SchemaCompiler.Output.Modules

/-!
What is written for a document.

* `Statistics`: the numbers of what was generated;
* `Generation`: the two modules and the statistics;
* `Document.generate`: the generation for a document, under a given comment or under one that names
  the document's source.
-/

namespace SchemaCompiler

/-- The numbers of what was generated. -/
structure Statistics where
  schemas : Nat
  /-- The schemas that do not stand for a component. -/
  routeSchemas : Nat
  aliases : Nat
  routes : Nat
  responses : Nat
  externals : Nat
  cycles : List (List String)
  warnings : List Warning

/-- The statistics of a compilation. -/
def Compilation.statistics (compilation : Compilation) : Statistics where
  schemas := compilation.table.length
  routeSchemas :=
    (Table.keys compilation.table).countP fun name => !compilation.componentNames.contains name
  aliases := compilation.aliases.length
  routes := compilation.routes.length
  responses := (compilation.routes.flatMap Route.responses).length
  externals := compilation.externals.length
  cycles := compilation.cycles
  warnings := compilation.warnings

/-- What is written for a document. -/
structure Generation where
  validators : String
  types : String
  statistics : Statistics

namespace Document

/-- The comment that names the source of a document and says what the document says about itself. -/
def header (document : Document) (source : String) : FileHeader where
  title := some document.info.title |>.filter (!·.isEmpty)
  version := some document.info.version |>.filter (!·.isEmpty)
  description := document.info.description
  source := some source

/-- What is written for a document under a comment. -/
def generate (document : Document) (registry : Registry) (options : Options)
    (header : FileHeader) : Except CompileError Generation := do
  let compilation ← document.compile registry options
  return {
    validators := compilation.validatorModule options header
    types := compilation.typeModule options header
    statistics := compilation.statistics }

end Document

end SchemaCompiler
