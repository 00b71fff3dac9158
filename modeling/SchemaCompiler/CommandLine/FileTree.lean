import SchemaCompiler.Loading
import SchemaCompiler.Table

/-!
Files and directories in memory.

A path is the list of the steps from the directory in which a command works.  A path that leads out
of this directory starts with steps `..`, and one from the root starts with an empty step.  The
name of a file is followed step by step, and each step has to start at a directory.

* `FileTree`: files and directories, with `FileTree.node` for what is at a path;
* `FileTree.locate`: the path of a name, or the fault on the way to it;
* `FileTree.read`, `FileTree.write`, `FileTree.makeAll`: the operations of commands.
-/

namespace SchemaCompiler

/-- The steps to a file or a directory. -/
abbrev Path := List String

namespace Path

/-- The name of a path. -/
def name (path : Path) : String := Text.join "/" path

/-- Whether a path lies in the directory in which a command works. -/
def isInside (path : Path) : Bool := path.head?.all fun step => step ≠ "" && step ≠ ".."

/-- The path one step from a directory. -/
def follow (path : Path) (step : String) : Path :=
  if step = "" || step = "." then path
  else if step ≠ ".." then path ++ [step]
  else if path = [""] then path
  else if path.all (· = "..") then path ++ [step]
  else path.dropLast

end Path

/-- What is at a path. -/
inductive FileNode where
  | nothing
  | directory
  | file (content : String)
  deriving DecidableEq, Repr

/-- Files under the names of their paths, and directories besides those that files lie in. -/
structure FileTree where
  files : Table String
  directories : List Path

namespace FileTree

/-- Whether a path leads to a directory.  The directory in which a command works, those that it
lies in and the root are always there. -/
def hasDirectory (tree : FileTree) (path : Path) : Bool :=
  path.all (· = "..") || path = [""] || path ∈ tree.directories ||
    (Table.keys tree.files).any (Text.hasPrefix (path.name ++ "/"))

/-- What is at a path. -/
def node (tree : FileTree) (path : Path) : FileNode :=
  match Table.get? tree.files path.name with
  | some content => .file content
  | none => if tree.hasDirectory path then .directory else .nothing

/-- The most bytes in a step. -/
def longestStep : Nat := 255

/-- Takes a step from a path, which has to lead to a directory. -/
def enter (tree : FileTree) (path : Path) (step : String) : Except FileFault Path :=
  match tree.node path with
  | .nothing => .error .missing
  | .file _ => .error .notDirectory
  | .directory =>
    if longestStep < step.utf8ByteSize then .error .nameTooLong else .ok (path.follow step)

/-- The path of a name.  A slash at the end is a step that stays, so that what is before it has to
be a directory. -/
def locate (tree : FileTree) (name : String) : Except FileFault Path :=
  match Text.splitOn '/' name with
  | "" :: step :: steps => (step :: steps).foldlM tree.enter [""]
  | steps => steps.foldlM tree.enter []

/-- The content of a file. -/
def read (tree : FileTree) (name : String) : FileContent := do
  match tree.node (← tree.locate name) with
  | .file content => return content
  | .directory => throw .isDirectory
  | .nothing => throw .missing

/-- Writes a file, in a directory that is there. -/
def write (tree : FileTree) (name content : String) : Except FileFault FileTree := do
  let path ← tree.locate name
  if tree.node path = .directory then throw .isDirectory
  else return { tree with files := Table.insert tree.files path.name content }

/-! ### Making directories -/

/-- A name without the slashes at its end. -/
def bareName (name : String) : String :=
  String.ofList (name.toList.reverse.dropWhile (· = '/')).reverse

/-- Makes a directory in one that is there. -/
def make (tree : FileTree) (name : String) : Except FileFault FileTree := do
  let path ← tree.locate (bareName name)
  if tree.node path = .nothing then
    return { tree with directories := path :: tree.directories }
  else throw .taken

/-- Whether a name leads to a directory. -/
def isDirectory (tree : FileTree) (name : String) : Bool :=
  match tree.locate name with
  | .ok path => tree.node path = .directory
  | .error _ => false

/-- Makes a directory unless it is there. -/
def ensure (tree : FileTree) (name : String) : Except FileFault FileTree :=
  match tree.make name with
  | .ok made => .ok made
  | .error fault => if tree.isDirectory name then .ok tree else .error fault

/-- Makes the first of some directories, and before it those of the others that it needs. -/
def makeEach (tree : FileTree) : List String → Except FileFault FileTree
  | [] => .ok tree
  | name :: outer =>
    match tree.ensure name with
    | .error .missing => do (← tree.makeEach outer).ensure name
    | result => result

/-- The names of the directories on the way to a name, from the last to the first.  Steps that stay
are left out. -/
def outerNames (name : String) : List String :=
  let root := if Text.hasPrefix "/" name then "/" else ""
  let steps := (Text.splitOn '/' name).filter fun step => step ≠ "" && step ≠ "."
  (List.range (steps.length - 1)).reverse.map fun n => root ++ Text.join "/" (steps.take (n + 1))

/-- Makes a directory and those that it lies in, unless they are there. -/
def makeAll (tree : FileTree) (name : String) : Except FileFault FileTree :=
  tree.makeEach (name :: outerNames name)

/-- The files in the directory in which a command works. -/
def ownFiles (tree : FileTree) : Table String :=
  tree.files.filter fun (name, _) => Path.isInside (Text.splitOn '/' name)

end FileTree

end SchemaCompiler
