-- A run of the program: from arguments, settings and a document to output.
import SqlTree.CommandLine.Arguments
import SqlTree.Document.Resolve
import SqlTree.Render.Statement

namespace SqlTree.CommandLine

/-- What a run leaves: an exit code, output, and a message if it failed. -/
structure Outcome where
  code : Nat
  stdout : String
  stderr : String
deriving DecidableEq, Repr

/-- The outcome of arguments that are not used as they should be. -/
def usageError : Outcome := { code := 2, stdout := "", stderr := "" }

/-- The outcome of a run that fails after some output. -/
def failed (stdout message : String) : Outcome :=
  { code := 1, stdout, stderr := "Error: " ++ message }

/-- The outcome of a run that does not fail. -/
def succeeded (stdout : String) : Outcome := { code := 0, stdout, stderr := "" }

/-- The settings with what the arguments change about them. -/
def Arguments.apply (a : Arguments) (s : Settings) : Settings :=
  { dialect := a.dialect.getD s.dialect
    substituteBinds := s.substituteBinds || a.substitute
    check := s.check || a.check }

/-- The settings in the text of a configuration file, if there is one. -/
def loadSettings (config : Option String) : Option Settings :=
  match config with
  | none => some .default
  | some text => Settings.read? text

/-- Prints a query. A statement is printed before its binds are cast. -/
def print (s : Settings) (q : Query) : Outcome :=
  let d := s.dialect.dialect
  if s.substituteBinds then
    match q.toSql d with
    | .error e => failed "" e.message
    | .ok sql => succeeded (sql ++ "\n")
  else
    match q.compile d with
    | .error e => failed "" e.message
    | .ok statement =>
      match statement.bound with
      | .error e => failed (statement.sql ++ "\n") e.message
      | .ok j => succeeded (statement.sql ++ "\n" ++ j.indented ++ "\n")

/-- Runs the program on the configuration file at a path, if there is one, and on the text of the
document, if it can be read. -/
def run (a : Arguments) (configPath : String) (config document : Option String) : Outcome :=
  match loadSettings config with
  | none => failed "" ("Invalid config in " ++ configPath)
  | some settings =>
    match document with
    | none =>
      failed "" (match a.file with
        | some path => "Failed to read " ++ path
        | none => "Failed to read query document from stdin")
    | some text =>
      match Query.read .postgres text with
      | .error e => failed "" e.headline
      | .ok q => print (a.apply settings) q

end SqlTree.CommandLine
