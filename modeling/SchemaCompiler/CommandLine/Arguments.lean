import SchemaCompiler.CommandLine.Palette

/-!
The arguments of the command line.

Options are written `--name value`, `--name=value`, `-n value` or `-nvalue`; several short options
without a value can be written as one.  The options for colors can stand anywhere.

* `OptionRule`, `readOptions`: options, and what is given for them;
* `Invocation`: a command and the colors asked for;
* `Invocation.ofArguments`: the invocation that arguments write.
-/

namespace SchemaCompiler

/-! ### Options -/

/-- An option that a command knows. -/
structure OptionRule where
  name : String
  short : Option Char
  takesValue : Bool
  isRepeatable : Bool

namespace OptionRule

/-- An option with one value. -/
def single (name : String) (short : Option Char) : OptionRule := ⟨name, short, true, false⟩

/-- An option that can be given any number of values. -/
def repeated (name : String) : OptionRule := ⟨name, none, true, true⟩

/-- An option without a value. -/
def flag (name : String) (short : Option Char) : OptionRule := ⟨name, short, false, false⟩

end OptionRule

/-- Why arguments are not understood. -/
inductive UsageError where
  | unexpected (argument : String)
  | unknownCommand (argument : String)
  | noCommand
  | noValue (name : String)
  | surplusValue (name : String)
  | repeated (name : String)
  | invalidValue (name value : String)
  | missing (name : String)
  deriving DecidableEq, Repr

/-- A long option as it is written. -/
def longOption (name : String) : String := "--" ++ name

/-- The wording of a usage error. -/
def UsageError.message : UsageError → String
  | unexpected argument => s!"unexpected argument '{argument}' found"
  | unknownCommand argument => s!"unrecognized subcommand '{argument}'"
  | noCommand => "a subcommand is required but one was not provided"
  | noValue name => s!"a value is required for '{longOption name}' but none was supplied"
  | surplusValue name => s!"unexpected value for '{longOption name}' found; no more were expected"
  | repeated name => s!"the argument '{longOption name}' cannot be used multiple times"
  | invalidValue name value => s!"invalid value '{value}' for '{longOption name}'"
  | missing name => s!"the required argument '{longOption name}' was not provided"

/-- What is given for options, in order, and the arguments after them. -/
structure GivenOptions where
  values : List (String × String)
  rest : List String

/-- Whether an argument is written like an option. -/
def isOptionLike (argument : String) : Bool :=
  Text.hasPrefix "-" argument && 1 < argument.length

/-- What a row of short options in one argument gives: the values, and the option whose value is to
follow, if there is one. -/
def readShort (rules : List OptionRule) :
    List Char → Except UsageError (List (String × String) × Option String)
  | [] => .ok ([], none)
  | c :: rest =>
    match rules.find? fun rule => rule.short = some c with
    | none => .error (.unexpected ("-" ++ c.toString))
    | some rule =>
      if !rule.takesValue then do
        let (values, open?) ← readShort rules rest
        return ((rule.name, "") :: values, open?)
      else
        match rest with
        | [] => .ok ([], some rule.name)
        | '=' :: value => .ok ([(rule.name, String.ofList value)], none)
        | value => .ok ([(rule.name, String.ofList value)], none)

/-- What a long option gives, without the hyphens before it. -/
def readLong (rules : List OptionRule) (written : List Char) :
    Except UsageError (List (String × String) × Option String) :=
  let name := String.ofList (written.takeWhile (· ≠ '='))
  let value := written.drop name.length
  match rules.find? fun rule => rule.name = name, value with
  | none, _ => .error (.unexpected (longOption name))
  | some rule, [] => if rule.takesValue then .ok ([], some name) else .ok ([(name, "")], none)
  | some rule, _ :: value =>
    if rule.takesValue then .ok ([(name, String.ofList value)], none) else .error (.surplusValue name)

/-- The options at the beginning of some arguments.  Two hyphens end them, and after these nothing
is left to give. -/
def readOptions (rules : List OptionRule) : List String → Except UsageError GivenOptions
  | [] => .ok ⟨[], []⟩
  | ["--"] => .ok ⟨[], []⟩
  | "--" :: argument :: _ => .error (.unexpected argument)
  | argument :: rest => do
    if !isOptionLike argument then return ⟨[], argument :: rest⟩
    else
      let (values, pending) ← match argument.toList with
        | '-' :: '-' :: name => readLong rules name
        | _ :: names => readShort rules names
        | [] => .ok ([], none)
      match pending, rest with
      | none, rest =>
        let given ← readOptions rules rest
        return { given with values := values ++ given.values }
      | some name, value :: rest =>
        if isOptionLike value then throw (.noValue name)
        else
          let given ← readOptions rules rest
          return { given with values := values ++ (name, value) :: given.values }
      | some name, [] => throw (.noValue name)

namespace GivenOptions

/-- All that is given for an option. -/
def all (given : GivenOptions) (name : String) : List String :=
  given.values.filterMap fun (other, value) => if other = name then some value else none

/-- What is given for an option last. -/
def last? (given : GivenOptions) (name : String) : Option String := (given.all name).getLast?

/-- Whether an option is given. -/
def has (given : GivenOptions) (name : String) : Bool := !(given.all name).isEmpty

/-- The path that has to be given for an option. -/
def path (given : GivenOptions) (name : String) : Except UsageError String :=
  match given.last? name with
  | none => .error (.missing name)
  | some "" => .error (.invalidValue name "")
  | some path => .ok path

/-- The path that can be given for an option. -/
def path? (given : GivenOptions) (name : String) : Except UsageError (Option String) :=
  match given.last? name with
  | none => .ok none
  | some "" => .error (.invalidValue name "")
  | some path => .ok (some path)

/-- Checks that no option is given more often than it can be. -/
def check (given : GivenOptions) (rules : List OptionRule) : Except UsageError Unit :=
  match rules.find? fun rule => !rule.isRepeatable && 1 < (given.all rule.name).length with
  | some rule => .error (.repeated rule.name)
  | none => .ok ()

end GivenOptions

/-! ### Commands -/

/-- What is asked of a generation. -/
structure GenerateRequest where
  input : String
  output : String
  /-- Registry entries as they are written. -/
  entries : List String
  registry : Option String
  registryModule : String
  suffix : String
  includeRoutes : Bool
  verbose : Bool
  quiet : Bool
  deriving DecidableEq, Repr

/-- What is asked of a verification. -/
structure VerifyRequest where
  input : String
  vendor : String
  /-- Registry entries as they are written. -/
  entries : List String
  registry : Option String
  deriving DecidableEq, Repr

/-- A command. -/
inductive Command where
  | version
  | listRoutes (input : String)
  | generate (request : GenerateRequest)
  | verify (request : VerifyRequest)
  deriving DecidableEq, Repr

/-- A command, and the colors asked for. -/
structure Invocation where
  command : Command
  color : ColorMode
  theme : ThemeMode
  deriving DecidableEq, Repr

/-- The options for colors. -/
def colorRules : List OptionRule := [.single "color" none, .single "theme" none]

/-- The options before a command. -/
def mainRules : List OptionRule := colorRules ++ [.flag "version" (some 'V')]

/-- The options of a listing. -/
def listRules : List OptionRule := colorRules ++ [.single "input" (some 'i')]

/-- The options of a generation. -/
def generateRules : List OptionRule :=
  colorRules ++
    [.single "input" (some 'i'), .single "output" (some 'o'), .repeated "register",
      .single "registry" none, .single "registry-module" none, .single "schema-suffix" none,
      .flag "no-routes" none, .flag "verbose" (some 'v'), .flag "quiet" (some 'q')]

/-- The options of a verification. -/
def verifyRules : List OptionRule :=
  colorRules ++
    [.single "input" (some 'i'), .single "examples-vendor" none, .repeated "register",
      .single "registry" none]

namespace ColorMode

/-- The mode of a name. -/
def ofText? : String → Option ColorMode
  | "always" => some always
  | "auto" => some auto
  | "never" => some never
  | _ => none

end ColorMode

namespace ThemeMode

/-- The mode of a name. -/
def ofText? : String → Option ThemeMode
  | "dark" => some dark
  | "light" => some light
  | "auto" => some auto
  | _ => none

end ThemeMode

/-- The choice that is given for an option, or a default one. -/
def GivenOptions.choice {α : Type} (given : GivenOptions) (name : String)
    (ofText? : String → Option α) (default : α) : Except UsageError α :=
  match given.last? name with
  | none => .ok default
  | some text =>
    match ofText? text with
    | some value => .ok value
    | none => .error (.invalidValue name text)

namespace GenerateRequest

/-- The request that options make. -/
def ofOptions (given : GivenOptions) : Except UsageError GenerateRequest := do
  return {
    input := ← given.path "input"
    output := ← given.path "output"
    entries := given.all "register"
    registry := ← given.path? "registry"
    registryModule := (given.last? "registry-module").getD "./registry"
    suffix := (given.last? "schema-suffix").getD "Schema"
    includeRoutes := !given.has "no-routes"
    verbose := given.has "verbose"
    quiet := given.has "quiet" }

end GenerateRequest

namespace VerifyRequest

/-- The request that options make. -/
def ofOptions (given : GivenOptions) : Except UsageError VerifyRequest := do
  return {
    input := ← given.path "input"
    vendor := (given.last? "examples-vendor").getD "fixture"
    entries := given.all "register"
    registry := ← given.path? "registry" }

end VerifyRequest

namespace Invocation

/-- The options of a command, which all arguments have to be. -/
def commandOptions (rules : List OptionRule) (arguments : List String) :
    Except UsageError GivenOptions := do
  let given ← readOptions rules arguments
  given.check rules
  match given.rest with
  | [] => return given
  | argument :: _ => throw (.unexpected argument)

/-- The command of some arguments, and the options that it is given. -/
def readCommand : List String → Except UsageError (Command × GivenOptions)
  | [] => .error .noCommand
  | "generate" :: arguments => do
    let given ← commandOptions generateRules arguments
    return (.generate (← GenerateRequest.ofOptions given), given)
  | "verify" :: arguments => do
    let given ← commandOptions verifyRules arguments
    return (.verify (← VerifyRequest.ofOptions given), given)
  | "list" :: arguments => do
    let before ← readOptions colorRules arguments
    before.check colorRules
    match before.rest with
    | "routes" :: arguments =>
      let given ← commandOptions listRules arguments
      let input ← given.path "input"
      return (.listRoutes input, ⟨before.values ++ given.values, []⟩)
    | [] => throw .noCommand
    | argument :: _ => throw (.unknownCommand argument)
  | argument :: _ => .error (.unknownCommand argument)

/-- The invocation that arguments write. -/
def ofArguments (arguments : List String) : Except UsageError Invocation := do
  let before ← readOptions mainRules arguments
  before.check mainRules
  if before.has "version" then return ⟨.version, .auto, .auto⟩
  let (command, after) ← readCommand before.rest
  let given : GivenOptions := ⟨before.values ++ after.values, []⟩
  return {
    command
    color := ← given.choice "color" ColorMode.ofText? .auto
    theme := ← given.choice "theme" ThemeMode.ofText? .auto }

end Invocation

end SchemaCompiler
