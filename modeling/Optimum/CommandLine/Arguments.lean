import Optimum.Model.Method

namespace Optimum
namespace CommandLine

/-!
# Command-line arguments

A command is named first, followed by its file and perhaps a model, with
options anywhere between them.  A short option may carry its value in the same
argument and may follow other short options there; a long one may carry it
after an equals sign.  Everything after a double dash is no option.

Each option may be given once, apart from the one for verbosity, which every
command accepts, before its name as well.

Arguments are read from left to right, and the first one that fits no command
or asks for usage information decides: what comes after it is not looked at.
Only what is missing is noticed at the end.
-/

inductive Command
  | parse (file format : String)
  | check (file : String)
  | solve (file model : String) (method : Option Model.Method) (steps : Bool) (format : String)
      (balance : Bool)
  deriving DecidableEq, Repr

/-- Why arguments lead to no command: they fit none, or they ask for usage
information. -/
inductive Refusal
  | misfit
  | help
  deriving DecidableEq, Repr

inductive CommandName
  | parse
  | check
  | solve
  deriving DecidableEq, Repr

def CommandName.ofText? : String → Option CommandName
  | "parse" => some .parse
  | "check" => some .check
  | "solve" => some .solve
  | _ => none

/-- How many operands a command takes.  There are none before its name. -/
def operandCount : Option CommandName → Nat
  | none => 0
  | some .parse => 1
  | some .check => 1
  | some .solve => 2

/-- The options.  Those for the method and the format take a value; the others
are flags. -/
inductive OptionName
  | verbose
  | steps
  | balance
  | method
  | format
  | help
  deriving DecidableEq, Repr

namespace OptionName

def ofLong? : String → Option OptionName
  | "verbose" => some .verbose
  | "steps" => some .steps
  | "balance" => some .balance
  | "method" => some .method
  | "format" => some .format
  | "help" => some .help
  | _ => none

def ofShort? : Char → Option OptionName
  | 'v' => some .verbose
  | 's' => some .steps
  | 'b' => some .balance
  | 'm' => some .method
  | 'f' => some .format
  | 'h' => some .help
  | _ => none

def takesValue : OptionName → Bool
  | .method => true
  | .format => true
  | _ => false

/-- Whether a command, or the place before its name, accepts an option. -/
def isAccepted (option : OptionName) : Option CommandName → Bool
  | none => option = .verbose || option = .help
  | some .parse => option = .verbose || option = .help || option = .format
  | some .check => option = .verbose || option = .help
  | some .solve => true

def accepted (place : Option CommandName) (option : Option OptionName) :
    Except Refusal OptionName :=
  match option with
  | some option => if option.isAccepted place then .ok option else .error .misfit
  | none => .error .misfit

end OptionName

/-! ## What was given -/

/-- The operands and options that were read. -/
structure Given where
  operands : List String
  steps : Bool
  balance : Bool
  method : Option Model.Method
  format : Option String
  deriving DecidableEq, Repr

namespace Given

def nothing : Given :=
  ⟨[], false, false, none, none⟩

/-- Take one more operand.  The first one names a file, so it is not empty. -/
def addOperand (place : Option CommandName) (given : Given) (text : String) :
    Except Refusal Given :=
  if operandCount place ≤ given.operands.length then .error .misfit
  else if given.operands.isEmpty && text.isEmpty then .error .misfit
  else .ok { given with operands := given.operands ++ [text] }

/-- Take a flag.  A flag that ends the reading never reaches the answer, and one
that changes the answer may be given once. -/
def addFlag (given : Given) : OptionName → Except Refusal Given
  | .verbose => .ok given
  | .steps => if given.steps then .error .misfit else .ok { given with steps := true }
  | .balance => if given.balance then .error .misfit else .ok { given with balance := true }
  | .help => .error .help
  | .method => .error .misfit
  | .format => .error .misfit

def addValue (given : Given) (option : OptionName) (value : String) : Except Refusal Given :=
  match option with
  | .format =>
    if given.format.isSome then .error .misfit else .ok { given with format := some value }
  | .method =>
    match given.method, Model.Method.ofName? value with
    | none, some method => .ok { given with method := some method }
    | _, _ => .error .misfit
  | _ => .error .misfit

/-- The command with a name, if nothing that it needs is missing. -/
def command (given : Given) (name : CommandName) : Except Refusal Command :=
  let format := given.format.getD "pretty"
  match name, given.operands with
  | .parse, [file] => .ok (.parse file format)
  | .check, [file] => .ok (.check file)
  | .solve, [file, model] =>
    .ok (.solve file model given.method given.steps format given.balance)
  | _, _ => .error .misfit

end Given

/-! ## One argument

Reading an argument leads to what is given then, and perhaps to an option that
waits for its value in the next argument. -/

/-- Read the letters of an argument of short options.  The first one that takes
a value takes the other letters as that, or the next argument. -/
def readShort (place : Option CommandName) (given : Given) :
    List Char → Except Refusal (Given × Option OptionName)
  | [] => .ok (given, none)
  | letter :: rest => do
    let option ← OptionName.accepted place (OptionName.ofShort? letter)
    if option.takesValue then
      match rest with
      | [] => return (given, some option)
      | first :: others =>
        let value := if first = '=' then others else first :: others
        return (← given.addValue option (String.ofList value), none)
    else readShort place (← given.addFlag option) rest

/-- Read an argument of a long option, without its dashes. -/
def readLong (place : Option CommandName) (given : Given) (text : List Char) :
    Except Refusal (Given × Option OptionName) := do
  let name := text.takeWhile (· ≠ '=')
  let option ← OptionName.accepted place (OptionName.ofLong? (String.ofList name))
  match text.dropWhile (· ≠ '='), option.takesValue with
  | [], true => return (given, some option)
  | [], false => return (← given.addFlag option, none)
  | _ :: value, true => return (← given.addValue option (String.ofList value), none)
  | _ :: _, false => .error .misfit

/-- Whether an argument is no value by itself because it begins with a dash.  A
lone dash is a value. -/
def isDashed (argument : String) : Bool :=
  match argument.toList with
  | '-' :: _ :: _ => true
  | _ => false

/-- Read one argument that is not a double dash. -/
def readArgument (place : Option CommandName) (given : Given) (argument : String) :
    Except Refusal (Given × Option OptionName) :=
  match argument.toList with
  | '-' :: '-' :: text => readLong place given text
  | '-' :: letter :: rest => readShort place given (letter :: rest)
  | _ => do return (← given.addOperand place argument, none)

/-! ## All arguments -/

/-- Read the arguments after the name of a command, where `awaiting` is an
option whose value comes next. -/
def readArguments (name : CommandName) (given : Given) (awaiting : Option OptionName) :
    List String → Except Refusal Given
  | [] => if awaiting.isSome then .error .misfit else .ok given
  | argument :: others =>
    match awaiting with
    | some option =>
      if isDashed argument then .error .misfit
      else do readArguments name (← given.addValue option argument) none others
    | none =>
      if argument = "--" then others.foldlM (Given.addOperand (some name)) given
      else do
        let (given, awaiting) ← readArgument (some name) given argument
        readArguments name given awaiting others

/-- What the arguments after the word `help` lead to: it may be followed by one
name, of a command or its own. -/
def helpRefusal : List String → Refusal
  | [] => .help
  | [topic] => if topic = "help" ∨ (CommandName.ofText? topic).isSome then .help else .misfit
  | _ => .misfit

/-- The command of all arguments.  Only flags may stand before its name.  They
have to be accepted there, but they say nothing about the command. -/
def commandOfArguments : List String → Except Refusal Command
  | [] => .error .misfit
  | argument :: others =>
    if argument = "help" then .error (helpRefusal others)
    else match CommandName.ofText? argument with
    | some name => do
      let given ← readArguments name .nothing none others
      given.command name
    | none =>
      if argument = "--" then .error .misfit
      else do
        let _ ← readArgument none .nothing argument
        commandOfArguments others

end CommandLine
end Optimum
