import Optimum.Answer.Outcome
import Optimum.CommandLine.Arguments
import Optimum.CommandLine.Report
import Optimum.Outline

namespace Optimum
namespace CommandLine

open Optimum.Language Model
open Files (ReadFailure)

/-!
# Running commands

A command is a function from the contents of its file to what is printed and
the exit code.  It is zero if the command did what it should, one if the file,
the text or the model has a fault, and two if the arguments fit no command.
-/

structure Output where
  code : Nat
  stdout : String
  stderr : String
  deriving DecidableEq, Repr

namespace Output

def lines (texts : List String) : String :=
  String.join (texts.map (· ++ "\n"))

def success (texts : List String) : Output :=
  ⟨0, lines texts, ""⟩

/-- A failure with its reason, after the lines that were printed before. -/
def failure (reason : String) (printed : List String) : Output :=
  ⟨1, lines printed, reason ++ "\n"⟩

/-- The output for arguments that fit no command. -/
def misuse : Output :=
  ⟨2, "", ""⟩

end Output

/-- The text of a file, or the output that says that there is none. -/
def sourceOf (contents : Except ReadFailure String) : Except Output String :=
  contents.mapError fun failure => .failure ("Error reading file: " ++ failure.message) []

/-- The program of a text, or the output that names its fault. -/
def programOf (source : String) : Except Output (Program Float) :=
  (parse source).mapError fun cause => .failure ("Parse error: " ++ cause.message) []

/-- The registered models of a file.  The faults of reading, parsing and
registering are told apart by the words before them. -/
def registryOf (contents : Except ReadFailure String) : Except Output (Registry Float) := do
  let program ← programOf (← sourceOf contents)
  (Registry.ofProgram program).mapError fun cause =>
    .failure ("Compile error: " ++ cause.message) []

/-- Show the program of a file. -/
def runParse (contents : Except ReadFailure String) (format : String) : Except Output Output := do
  let program ← programOf (← sourceOf contents)
  return .success [if format = "json" then program.document.json else program.outline.text]

/-- The line about a model in a check, and whether it compiles. -/
def checkLine (registry : Registry Float) (name : String) : String × Bool :=
  match registry.compile name with
  | .ok compiled => ("✓ " ++ compiled.kind.keyword ++ " " ++ name, true)
  | .error cause => ("✗ " ++ cause.message, false)

/-- Say for each model of a file whether it compiles.  All models are tried, and
the faults are counted at the end. -/
def runCheck (contents : Except ReadFailure String) : Except Output Output := do
  let registry ← registryOf contents
  let results := registry.names.map (checkLine registry)
  let faults := results.countP fun result => !result.2
  if faults = 0 then return .success (results.map Prod.fst)
  else return .failure (toString faults ++ " model(s) failed to compile") (results.map Prod.fst)

/-- Solve a model of a file. -/
def runSolve (contents : Except ReadFailure String) (model : String) (method : Option Method)
    (steps : Bool) (format : String) (balance : Bool) : Except Output Output := do
  let registry ← registryOf contents
  let compiled ← (registry.compile model).mapError fun cause =>
    .failure ("Compile error: " ++ cause.message) []
  let outcome ← (solve compiled method balance).mapError fun cause =>
    .failure ("Solve error: " ++ cause.message) []
  return .success (if format = "json" then [outcome.document.json]
    else outcomeLines compiled.kind steps outcome)

/-- Run a command, where `read` gives the contents of files.  A command reads
one file and nothing else. -/
def runCommand (read : String → Except ReadFailure String) : Command → Output
  | .parse file format => merged (runParse (read file) format)
  | .check file => merged (runCheck (read file))
  | .solve file model method steps format balance =>
    merged (runSolve (read file) model method steps format balance)
where
  merged : Except Output Output → Output
    | .ok output => output
    | .error output => output

def Command.file : Command → String
  | .parse file _ => file
  | .check file => file
  | .solve file .. => file

/-- Run the command of some arguments. -/
def run (read : String → Except ReadFailure String) (arguments : List String) : Output :=
  match commandOfArguments arguments with
  | .ok command => runCommand read command
  | .error .help => .success []
  | .error .misfit => .misuse

end CommandLine
end Optimum
