import Optimum.CommandLine.Run

namespace Optimum

/-!
# The program

Reads the file of a command, runs the command and prints its output.
-/

/-- The cause behind a fault of the machine. -/
def readFailure (error : IO.Error) : Files.ReadFailure :=
  match error with
  | .noFileOrDirectory .. => .missing
  | .inappropriateType _ 20 _ => .notDirectory
  | .inappropriateType _ 21 _ => .directory
  | .invalidArgument _ 36 _ => .nameTooLong
  | .permissionDenied .. => .other "Permission denied (os error 13)"
  | _ => .other (toString error)

/-- What reading a file has led to. -/
def readContents (path : String) : IO (Except Files.ReadFailure String) := do
  match Files.checkPath path with
  | .error failure => return .error failure
  | .ok () =>
    try return Files.textOf (← IO.FS.withFile path .read IO.FS.Handle.readBinToEnd)
    catch error => return .error (readFailure error)

end Optimum

def main (arguments : List String) : IO UInt32 := do
  let contents ← match Optimum.CommandLine.commandOfArguments arguments with
    | .ok command => Optimum.readContents command.file
    | .error _ => pure (.error .missing)
  let output := Optimum.CommandLine.run (fun _ => contents) arguments
  IO.print output.stdout
  IO.eprint output.stderr
  return UInt32.ofNat output.code
