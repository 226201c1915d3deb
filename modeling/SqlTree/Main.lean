-- The program: reads the configuration file and a query document, and prints the statement.
import SqlTree.CommandLine.Run

namespace SqlTree.Main

/-- The text of a file, if it can be read. -/
def readText (path : String) : IO (Option String) := do
  try
    return some (← IO.FS.readFile path)
  catch _ =>
    return none

/-- All that is left to read of a stream. -/
partial def readRest (input : IO.FS.Stream) (sofar : String) : IO String := do
  let line ← input.getLine
  if line.isEmpty then return sofar
  readRest input (sofar ++ line)

/-- All of a stream, if it can be read. -/
def readInput (input : IO.FS.Stream) : IO (Option String) := do
  try
    return some (← readRest input "")
  catch _ =>
    return none

/-- Where the configuration file of the user is. A directory for such files counts only if it is
given from the root. -/
def configFile : IO String := do
  let given := (← IO.getEnv "XDG_CONFIG_HOME").filter (·.startsWith "/")
  let home := (← IO.getEnv "HOME").map (· ++ "/.config")
  return (given <|> home).getD "." ++ "/pgrel/config.toml"

/-- Runs the program on its arguments. -/
def run (args : List String) : IO CommandLine.Outcome := do
  match CommandLine.parse args with
  | none => return CommandLine.usageError
  | some arguments =>
    let path ← configFile
    let config ← readText path
    let document ← match arguments.file with
      | some file => readText file
      | none => readInput (← IO.getStdin)
    return CommandLine.run arguments path config document

end SqlTree.Main

/-- Runs the program and leaves its output and exit code. -/
def main (args : List String) : IO UInt32 := do
  let outcome ← SqlTree.Main.run args
  IO.print outcome.stdout
  unless outcome.stderr.isEmpty do IO.eprintln outcome.stderr
  return outcome.code.toUInt32
