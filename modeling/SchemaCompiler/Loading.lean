import SchemaCompiler.Document.Reader
import SchemaCompiler.Registry

/-!
Documents and registries from the contents of files.

* `FileFault`: why a file cannot be read or written;
* `LoadError`: why a file is of no use, with `LoadError.chain`, from the outside to the cause;
* `Document.load`, `Registry.load`: the document and the registry of a file.
-/

namespace SchemaCompiler

/-- Why a file cannot be read or written. -/
inductive FileFault where
  | missing
  | taken
  | notDirectory
  | isDirectory
  | nameTooLong
  | other (message : String)
  deriving DecidableEq, Repr

namespace FileFault

/-- The wording of a fault. -/
def message : FileFault → String
  | missing => "No such file or directory (os error 2)"
  | taken => "File exists (os error 17)"
  | notDirectory => "Not a directory (os error 20)"
  | isDirectory => "Is a directory (os error 21)"
  | nameTooLong => "File name too long (os error 36)"
  | other message => message

/-- The wording, from the outside to the cause, of the fault of a file that is to be mapped into
memory.  A directory is opened like a file, and only its mapping fails. -/
def mappingChain (path : String) : FileFault → List String
  | isDirectory => ["No such device (os error 19): mmap failed", "No such device (os error 19)"]
  | fault =>
    [s!"{path}: unable to open file: {fault.message}: IO error", s!"{fault.message}: IO error",
      fault.message]

end FileFault

/-- What a file holds, or why it cannot be read. -/
abbrev FileContent := Except FileFault String

/-- Why an input is of no use.  Each kind but the last names the file. -/
inductive LoadError where
  | documentNotOpened (path : String) (cause : FileFault)
  | documentMalformed (path : String) (cause : Json.DecodeError)
  | registryNotRead (path : String) (cause : FileFault)
  | registryMalformed (path : String) (cause : Json.DecodeError)
  | registryRefused (path : String) (cause : CompileError)
  | entryRefused (cause : CompileError)

namespace LoadError

/-- What an error is about. -/
def context : LoadError → String
  | documentNotOpened path _ => s!"failed to open {path}"
  | documentMalformed path _ => s!"failed to parse OpenAPI document {path}"
  | registryNotRead path _ => s!"failed to read registry file {path}"
  | registryMalformed path _ => s!"registry file {path} is not valid JSON"
  | registryRefused path _ => s!"invalid registry file {path}"
  | entryRefused cause => cause.message

/-- A cause with the steps to its place, if there are any that are known. -/
def located (cause : Json.DecodeError) : String :=
  if cause.steps.all (· = .unknown) then cause.message
  else Json.describeSteps cause.steps ++ ": " ++ cause.message

/-- The wording of an error from the outside to its cause. -/
def chain (error : LoadError) : List String :=
  error.context :: match error with
    | documentNotOpened path cause => cause.mappingChain path
    | registryNotRead _ cause => [cause.message]
    | documentMalformed _ cause => [located cause]
    | registryMalformed _ cause => [cause.message]
    | registryRefused _ cause => [cause.message]
    | entryRefused _ => []

end LoadError

/-- The document of a file. -/
def Document.load (path : String) : FileContent → Except LoadError Document
  | .ok text => (Document.ofText text).mapError (.documentMalformed path)
  | .error fault => .error (.documentNotOpened path fault)

namespace Registry

/-- The registry of a file: an object from keys to names. -/
def ofFile (path : String) : FileContent → Except LoadError Registry
  | .error fault => .error (.registryNotRead path fault)
  | .ok text =>
    match Json.read text with
    | .error cause => .error (.registryMalformed path cause)
    | .ok value =>
      match Registry.empty.extend value with
      | (registry, none) => .ok registry
      | (_, some cause) => .error (.registryRefused path cause)

/-- The registry of a file, if one is given, and of further entries. -/
def load (file : Option (String × FileContent)) (entries : List (String × String)) :
    Except LoadError Registry := do
  let registry ← match file with
    | some (path, content) => ofFile path content
    | none => .ok .empty
  match registry.registerAll entries with
  | (registry, none) => return registry
  | (_, some cause) => throw (.entryRefused cause)

end Registry

end SchemaCompiler
