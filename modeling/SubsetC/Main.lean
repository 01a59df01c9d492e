import SubsetC.CommandLine

/-!
# The program

Reads the arguments and the file, and prints what the command line asks for.
-/

namespace SubsetC

/-- The text of a file, if it can be read and is valid UTF-8. -/
def readText (path : String) : IO (Option String) := do
  try
    return some (← IO.FS.readFile path)
  catch _ => return none

end SubsetC

open SubsetC

def main (arguments : List String) : IO UInt32 := do
  let command := Command.ofArguments {} arguments
  let text ← match command with
    | .check request => readText request.path
    | _ => pure none
  let outcome := CommandLine.run command fun _ => text
  (← IO.getStdout).putStr outcome.printed
  return outcome.exitCode.toUInt32
