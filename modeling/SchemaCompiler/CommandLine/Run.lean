import SchemaCompiler.CommandLine.Arguments
import SchemaCompiler.CommandLine.Host
import SchemaCompiler.CommandLine.Layout
import SchemaCompiler.Output.Generation
import SchemaCompiler.RoundTrip

/-!
The commands.

A command runs on a `Host` and ends with a status, which is zero unless something stopped it.  What
stopped it is reported on the output for errors.

* `Report`: why a command stops, from the outside to the cause;
* `Console`: a host, and the colors in use;
* `Console.generate`, `Console.verify`, `Console.listRoutes`: the commands;
* `runCommandLine`: the command of some arguments.
-/

namespace SchemaCompiler

/-! ### Reports -/

/-- Why a command stops, from the outside to the cause. -/
structure Report where
  messages : List String

namespace Report

/-- A report of one message. -/
def ofMessage (message : String) : Report := ⟨[message]⟩

/-- The report of an input that is of no use. -/
def ofLoadError (error : LoadError) : Report := ⟨error.chain⟩

/-- The report of a document that does not compile. -/
def ofCompileError (error : CompileError) : Report := ⟨[error.message]⟩

/-- A number at the right of five columns. -/
def numberColumn (n : Nat) : String :=
  let digits := toString n
  String.ofList (List.replicate (5 - digits.length) ' ') ++ digits ++ ": "

/-- A cause, each line indented; several causes are numbered. -/
def cause (number : Option Nat) (message : String) : String :=
  let (first, others) := match number with
    | some n => (numberColumn n, "       ")
    | none => ("    ", "    ")
  first ++ Text.join ("\n" ++ others) (Text.splitOn '\n' message)

/-- The text of a report. -/
def text (report : Report) : String :=
  match report.messages with
  | [] => "Error: \n"
  | [message] => s!"Error: {message}\n"
  | [message, single] => s!"Error: {message}\n\nCaused by:\n{cause none single}\n"
  | message :: several =>
    let causes := several.zipIdx.map fun (message, n) => cause (some n) message
    s!"Error: {message}\n\nCaused by:\n" ++ Text.join "\n" causes ++ "\n"

end Report

/-! ### Consoles -/

/-- A host, and the colors in use. -/
structure Console (m : Type → Type) where
  host : Host m
  paint : Paint

/-- A part of a command, which may stop it. -/
abbrev Stopping (m : Type → Type) (α : Type) := ExceptT Report m α

/-- A result, or a stop with the report of its error. -/
def orStop {m : Type → Type} [Monad m] {ε α : Type} (report : ε → Report)
    (result : Except ε α) : Stopping m α :=
  ExceptT.mk (return result.mapError report)

namespace Console

variable {m : Type → Type} [Monad m]

/-- Writes a line. -/
def line (console : Console m) (text : String) : m Unit := console.host.print (text ++ "\n")

/-- Writes a line with the time before it. -/
def timedLine (console : Console m) (text : String) : m Unit := do
  let time ← console.host.time
  console.line (console.paint.apply .time s!"[{time}]" ++ " " ++ text)

/-- Writes a line with a remark on the output for errors. -/
def remark (console : Console m) (label text : String) : m Unit :=
  console.host.printError
    (console.paint.apply .accent label ++ " " ++ console.paint.apply .primary text ++ "\n")

/-- The document of a file. -/
def document (console : Console m) (path : String) : Stopping m Document := do
  let content ← console.host.read path
  orStop .ofLoadError (Document.load path content)

/-- A registry entry, with a sign of equality between key and name. -/
def entry (written : String) : Except Report (String × String) :=
  let key := written.toList.takeWhile (· ≠ '=')
  match written.toList.drop key.length with
  | _ :: name => .ok (String.ofList key, String.ofList name)
  | [] =>
    .error (.ofMessage
      s!"Invalid register format '{written}': expected KEY=ALIAS (e.g., email=Email)")

/-- The registry of a file, if one is given, and of further entries. -/
def registry (console : Console m) (path : Option String) (entries : List (String × String)) :
    Stopping m Registry := do
  let file ← match path with
    | some path => do pure (some (path, ← (console.host.read path : m FileContent)))
    | none => pure none
  orStop .ofLoadError (Registry.load file entries)

end Console

/-! ### Generation -/

/-- A console on which a generation is reported. -/
structure GenerateLog (m : Type → Type) where
  console : Console m
  request : GenerateRequest

namespace GenerateLog

variable {m : Type → Type} [Monad m]

/-- Writes what is going on, unless nothing is to be said. -/
def progress (log : GenerateLog m) (text : String) : m Unit :=
  if log.request.quiet then pure ()
  else log.console.timedLine (log.console.paint.apply .primary text)

/-- Writes a figure. -/
def figure (log : GenerateLog m) (label value : String) : m Unit :=
  if log.request.quiet then pure ()
  else
    let paint := log.console.paint
    log.console.line
      ("            " ++ paint.apply .label label ++ " " ++ paint.apply .value value)

/-- Writes a figure unless it is zero. -/
def figureUnlessZero (log : GenerateLog m) (label : String) (n : Nat) (unit : String) : m Unit :=
  if n = 0 then pure () else log.figure label (toString n ++ unit)

/-- Writes the entries of the registry, if details are wanted. -/
def registry (log : GenerateLog m) (registry : Registry) : m Unit := do
  if log.request.verbose && !registry.entries.isEmpty then
    log.progress s!"Registry has {registry.entries.length} aliases"
    registry.entries.forM fun (key, name) => log.figure "" s!"{key.describe} -> {name}"

/-- Writes the cycles, one by one if details are wanted. -/
def cycles (log : GenerateLog m) (cycles : List (List String)) : m Unit := do
  log.figureUnlessZero "Cycles:" cycles.length ""
  if log.request.verbose then
    let paint := log.console.paint
    cycles.zipIdx.forM fun (cycle, i) =>
      log.console.line ("              " ++ paint.apply .accent s!"Cycle {i + 1}" ++ ": " ++
        paint.apply .info (Text.join " -> " cycle))

/-- Writes the warnings: what was dropped, and the others if details are wanted. -/
def warnings (log : GenerateLog m) (warnings : List Warning) : m Unit := do
  let shown := warnings.filter fun warning => warning.isDropped || log.request.verbose
  if !shown.isEmpty then
    log.console.line ""
    shown.forM fun warning =>
      log.console.remark (if warning.isDropped then "Skipped:" else "Warning:") warning.message

/-- Writes the statistics. -/
def statistics (log : GenerateLog m) (statistics : Statistics) : m Unit :=
  if log.request.quiet then pure ()
  else do
    log.figure "Schemas generated:" (toString statistics.schemas)
    log.figureUnlessZero "" statistics.routeSchemas " from routes"
    log.figureUnlessZero "" statistics.aliases " aliases"
    if log.request.includeRoutes then
      log.figure "Routes converted:" (toString statistics.routes)
      log.figure "" s!"{statistics.responses} responses"
    log.figureUnlessZero "Registry aliases used:" statistics.externals ""
    log.figureUnlessZero "Warnings:" statistics.warnings.length ""
    log.cycles statistics.cycles
    log.warnings statistics.warnings

end GenerateLog

/-- The path of a name in a directory. -/
def pathIn (directory name : String) : String :=
  if directory.toList.getLast? = some '/' then directory ++ name else directory ++ "/" ++ name

/-- The options of a generation. -/
def GenerateRequest.options (request : GenerateRequest) : Options :=
  { Options.standard with
    suffix := request.suffix
    registryModule := request.registryModule
    includeRoutes := request.includeRoutes }

/-- The options of a verification, which needs no routes. -/
def VerifyRequest.options (request : VerifyRequest) : Options :=
  { Options.standard with
    vendor := request.vendor
    includeRoutes := false }

namespace Console

variable {m : Type → Type} [Monad m]

/-- Writes the two modules into a directory. -/
def writeModules (console : Console m) (directory : String) (generation : Generation) :
    Stopping m Unit := do
  let made ← console.host.makeDirectory directory
  orStop (fun fault => ⟨[s!"failed to create {directory}", fault.message]⟩) made
  let write := fun name text => do
    let written ← (console.host.write (pathIn directory name) text : m (Except FileFault Unit))
    orStop (fun fault => .ofMessage fault.message) written
  write "schemas.ts" generation.validators
  write "types.ts" generation.types

/-- Generates the modules of a document. -/
def generate (console : Console m) (request : GenerateRequest) : Stopping m Unit := do
  let log : GenerateLog m := ⟨console, request⟩
  let entries ← orStop id (request.entries.mapM entry)
  log.progress s!"Loading OpenAPI document from: {request.input}"
  let document ← console.document request.input
  let registry ← console.registry request.registry entries
  log.registry registry
  log.progress "Compiling zod validators and TypeScript types..."
  let generation ← orStop
    (fun error => ⟨[s!"failed to compile {request.input}", CompileError.message error]⟩)
    (document.generate registry request.options (document.header request.input))
  log.statistics generation.statistics
  log.progress s!"Writing to: {request.output}"
  console.writeModules request.output generation
  if !request.quiet then
    console.line ""
    console.timedLine
      (console.paint.apply .success "Successfully generated schemas.ts and types.ts")

/-! ### Verification -/

/-- Verifies the components of a document that have examples. -/
def verify (console : Console m) (request : VerifyRequest) : Stopping m Unit := do
  let document ← console.document request.input
  let entries ← orStop id (request.entries.mapM entry)
  let registry ← console.registry request.registry entries
  let compilation ← orStop .ofCompileError (document.compile registry request.options)
  let report := compilation.verify document registry request.options
  report.failures.forM fun failure => console.remark "Mismatch:" failure.message
  let failed := report.failures.length
  console.timedLine (console.paint.apply (if report.isSuccess then .success else .accent)
    s!"Verified {report.checked.length} components, {failed} failed")
  if !report.isSuccess then
    throw (.ofMessage s!"round trip verification failed for {failed} components")

/-! ### Listing -/

/-- The schema of a part of an operation, in a list. -/
def listed (label : String) (s : Schema) : String := label ++ ": " ++ s.reference?.getD "inline"

/-- The routes as a table. -/
def routeTable (routes : List Route) : Layout.TextTable where
  heading := ["METHOD", "PATH", "OPERATION ID", "REQUEST", "RESPONSES"].map .ofText
  rows := routes.map fun route =>
    [.atRightOfText route.site.method.name, .ofText route.site.path,
      .ofText (route.operationId.getD "-"),
      .ofText (Text.join "\n" (route.request.map fun (slot, s) => listed slot.label s)),
      .ofText (Text.join "\n" (route.responses.map fun (status, s) => listed status s))]

/-- Lists the routes of a document. -/
def listRoutes (console : Console m) (path : String) : Stopping m Unit := do
  let document ← console.document path
  let compilation ← orStop .ofCompileError (document.compile .empty .standard)
  console.line ((routeTable compilation.routes).render 80)
  compilation.routeErrors.forM fun error => console.remark "Skipped:" error.message

/-! ### Commands -/

/-- Runs a command. -/
def run (console : Console m) : Command → Stopping m Unit
  | .version => console.line "oas-zod-gen 0.4.0"
  | .listRoutes path => console.listRoutes path
  | .generate request => console.generate request
  | .verify request => console.verify request

end Console

/-- Runs the command of some arguments.  The status is zero unless it is stopped. -/
def runCommandLine {m : Type → Type} [Monad m] (host : Host m) (arguments : List String) :
    m UInt32 := do
  match Invocation.ofArguments arguments with
  | .error error =>
    host.printError s!"error: {error.message}\n"
    return 2
  | .ok invocation =>
    let declared ← host.environment? "COLORFGBG"
    let isTerminal ← host.isTerminal
    let paint := Paint.ofMode isTerminal (.ofMode declared invocation.theme) invocation.color
    match ← (Console.run ⟨host, paint⟩ invocation.command).run with
    | .ok _ => return 0
    | .error report =>
      host.printError report.text
      return 1

end SchemaCompiler
