-- The arguments of the program.
import SqlTree.Settings

namespace SqlTree.CommandLine

/-- What the arguments of a run ask for. -/
structure Arguments where
  dialect : Option DialectChoice
  substitute : Bool
  check : Bool
  /-- How often more output was asked for. -/
  verbosity : Nat
  /-- The document to read; without one it comes from standard input. -/
  file : Option String
deriving DecidableEq, Repr

namespace Arguments

/-- What no arguments ask for. -/
def none : Arguments :=
  { dialect := .none, substitute := false, check := false, verbosity := 0, file := .none }

/-- Each option can be given once. -/
def setDialect? (a : Arguments) (name : String) : Option Arguments := do
  let choice ← DialectChoice.ofName? name
  if a.dialect.isSome then failure else return { a with dialect := some choice }

/-- Asks for the values to be written into the statement. -/
def setSubstitute? (a : Arguments) : Option Arguments :=
  if a.substitute then failure else some { a with substitute := true }

/-- Asks for the statement to be checked. -/
def setCheck? (a : Arguments) : Option Arguments :=
  if a.check then failure else some { a with check := true }

/-- There is one file at most, and it has a name. -/
def setFile? (a : Arguments) (name : String) : Option Arguments :=
  if a.file.isSome || name.isEmpty then failure else some { a with file := some name }

/-- Asks for more output, so many times. -/
def addVerbosity (a : Arguments) (n : Nat) : Arguments := { a with verbosity := a.verbosity + n }

end Arguments

/-- What a long option with a value written to it asks for. -/
def afterEquals? (option argument : String) : Option String :=
  let lead := option.toList ++ ['=']
  if lead.isPrefixOf argument.toList then
    some (String.ofList (argument.toList.drop lead.length))
  else none

/-- The number of letters of a cluster of short options, all of which ask for more output. -/
def verbosityOf? (argument : String) : Option Nat :=
  match argument.toList with
  | '-' :: 'v' :: rest => if rest.all (· == 'v') then some (rest.length + 1) else none
  | _ => none

/-- Reads arguments; after `--` all are files. -/
def parseFrom (a : Arguments) (onlyFiles : Bool) : List String → Option Arguments
  | [] => some a
  | arg :: rest =>
    if onlyFiles then do parseFrom (← a.setFile? arg) true rest
    else if arg == "--" then parseFrom a true rest
    else if arg == "--dialect" then
      match rest with
      | [] => none
      | name :: rest => do parseFrom (← a.setDialect? name) false rest
    else if arg == "--substitute" then do parseFrom (← a.setSubstitute?) false rest
    else if arg == "--check" then do parseFrom (← a.setCheck?) false rest
    else if arg == "--verbose" then parseFrom (a.addVerbosity 1) false rest
    else
      match afterEquals? "--dialect" arg, verbosityOf? arg with
      | some name, _ => do parseFrom (← a.setDialect? name) false rest
      | _, some n => parseFrom (a.addVerbosity n) false rest
      | _, _ =>
        if arg.startsWith "-" && arg != "-" then none
        else do parseFrom (← a.setFile? arg) false rest

/-- Reads the arguments of the program; none if they are not used as they should be. -/
def parse (args : List String) : Option Arguments := parseFrom .none false args

end SqlTree.CommandLine
