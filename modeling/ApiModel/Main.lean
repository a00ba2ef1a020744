import ApiModel.CommandLine.Run

/-!
# The program

Reads the files that a command asks for, prints what it prints and writes new settings.
-/

namespace ApiModel

/-- Reads a file. -/
def readFile : FileReader IO := fun path => do
  match ← (IO.FS.readFile path).toBaseIO with
  | .ok text => return text
  | .error (.noFileOrDirectory _ _ _) => throw .notFound
  | .error (.inappropriateType _ _ _) => throw .isDirectory
  | .error e => throw (.other (toString e))

end ApiModel

open ApiModel in
/-- Runs a command. -/
def main (arguments : List String) : IO UInt32 := do
  let ending ← runCommand readFile arguments
  let outcome := ending.outcome
  if let some text := outcome.settings then IO.FS.writeFile Settings.fileName text
  (← IO.getStdout).putStr outcome.output
  (← IO.getStderr).putStr outcome.messages
  return outcome.exitCode.toUInt32
