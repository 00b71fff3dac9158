import SchemaCompiler.CommandLine.FileTree

/-!
What a command needs of the machine that it runs on.

* `Host`: the operations of a machine, in any monad;
* `MemoryHost`: a machine whose files are in memory, so that runs of commands can be looked at as
  values.
-/

namespace SchemaCompiler

/-- The operations of a machine. -/
structure Host (m : Type → Type) where
  /-- Reads a file. -/
  read : String → m FileContent
  /-- Makes a directory and those that it lies in, where they are not there. -/
  makeDirectory : String → m (Except FileFault Unit)
  /-- Writes a file. -/
  write : String → String → m (Except FileFault Unit)
  /-- Writes to the standard output. -/
  print : String → m Unit
  /-- Writes to the standard output for errors. -/
  printError : String → m Unit
  /-- The time of day as hours, minutes and seconds. -/
  time : m String
  /-- The value of a variable of the environment. -/
  environment? : String → m (Option String)
  /-- Whether the standard output is a terminal. -/
  isTerminal : m Bool

/-! ### Files in memory -/

/-- The state of a machine in memory. -/
structure MemoryState where
  tree : FileTree
  output : String
  errors : String

namespace MemoryState

/-- A machine on which nothing has run. -/
def ofFiles (files : Table String) : MemoryState := ⟨⟨files, []⟩, "", ""⟩

/-- Changes the files, unless that fails. -/
def update (change : FileTree → Except FileFault FileTree) :
    StateM MemoryState (Except FileFault Unit) :=
  modifyGet fun state =>
    match change state.tree with
    | .ok tree => (.ok (), { state with tree })
    | .error fault => (.error fault, state)

end MemoryState

/-- A machine with files in memory.  Its clock stands still, and it has no terminal. -/
def MemoryHost (time : String) (environment : Table String) : Host (StateM MemoryState) where
  read name := return (← get).tree.read name
  makeDirectory name := MemoryState.update (·.makeAll name)
  write name content := MemoryState.update (·.write name content)
  print text := modify fun state => { state with output := state.output ++ text }
  printError text := modify fun state => { state with errors := state.errors ++ text }
  time := return time
  environment? name := return Table.get? environment name
  isTerminal := return false

end SchemaCompiler
