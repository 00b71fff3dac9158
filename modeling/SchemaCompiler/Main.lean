import SchemaCompiler.CommandLine.Run
import Std.Time.Format

/-!
The command line: `list routes`, `generate` and `verify` on the machine itself.
-/

namespace SchemaCompiler

/-- The fault of a failed operation on files. -/
def FileFault.ofError : IO.Error → FileFault
  | .noFileOrDirectory .. => .missing
  | .alreadyExists .. => .taken
  | .inappropriateType _ 20 _ => .notDirectory
  | .inappropriateType _ 21 _ => .isDirectory
  | error => .other error.toString

/-- A number of two digits. -/
def twoDigits (n : Nat) : String := (if n < 10 then "0" else "") ++ toString n

/-- The time of day. -/
def timeOfDay : IO String := do
  let now ← Std.Time.PlainTime.now
  return Text.join ":"
    ([now.hour.val, now.minute.val, now.second.val].map fun part => twoDigits part.toNat)

/-- The machine itself. -/
def machine : Host IO where
  read name := do
    try
      let bytes ← IO.FS.readBinFile name
      match String.fromUTF8? bytes with
      | some text => return .ok text
      | none => return .error (.other "stream did not contain valid UTF-8")
    catch error => return .error (.ofError error)
  makeDirectory name := do
    try
      IO.FS.createDirAll name
      return .ok ()
    catch error => return .error (.ofError error)
  write name content := do
    try
      IO.FS.writeFile name content
      return .ok ()
    catch error => return .error (.ofError error)
  print text := do (← IO.getStdout).putStr text
  printError text := do (← IO.getStderr).putStr text
  time := timeOfDay
  environment? name := IO.getEnv name
  isTerminal := do (← IO.getStdout).isTty

end SchemaCompiler

/-- Runs the command of the arguments. -/
def main (arguments : List String) : IO UInt32 :=
  SchemaCompiler.runCommandLine SchemaCompiler.machine arguments
