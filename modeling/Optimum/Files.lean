namespace Optimum
namespace Files

/-!
# Files

What reading a file leads to, and a picture of the files of a machine on which
reading is a function.  A path is followed from directory to directory, name by
name, so of several faults the one that is met first is the answer.
-/

/-- Why a file gives no text.  The cases are those that a machine tells apart in
its messages. -/
inductive ReadFailure
  | missing
  | notDirectory
  | directory
  | nameTooLong
  | zeroInPath
  | notText
  | other (reason : String)
  deriving DecidableEq, Repr

def ReadFailure.message : ReadFailure → String
  | .missing => "No such file or directory (os error 2)"
  | .notDirectory => "Not a directory (os error 20)"
  | .directory => "Is a directory (os error 21)"
  | .nameTooLong => "File name too long (os error 36)"
  | .zeroInPath => "file name contained an unexpected NUL byte"
  | .notText => "stream did not contain valid UTF-8"
  | .other reason => reason

def nameLimit : Nat := 255

def pathLimit : Nat := 4095

/-- The fault of a path that no machine follows, if it has one.  It is found
before any directory is looked at. -/
def checkPath (path : String) : Except ReadFailure Unit :=
  if path.toList.contains (Char.ofNat 0) then .error .zeroInPath
  else if path.isEmpty then .error .missing
  else if pathLimit < path.utf8ByteSize then .error .nameTooLong
  else .ok ()

/-- The text that bytes stand for. -/
def textOf (bytes : ByteArray) : Except ReadFailure String :=
  match String.fromUTF8? bytes with
  | some text => .ok text
  | none => .error .notText

/-! ## A tree of files -/

/-- What a name stands for.  A directory lists its entries by name. -/
inductive Entry
  | file (contents : ByteArray)
  | directory (entries : List (String × Entry))

/-- An entry with the directories that it lies in, the nearest one first, so
that two dots can be followed. -/
structure Place where
  entry : Entry
  above : List Entry

namespace Place

/-- The directory that a place lies in.  The topmost one lies in itself. -/
def parent (place : Place) : Place :=
  match place.above with
  | [] => place
  | entry :: above => ⟨entry, above⟩

def top (place : Place) : Place :=
  ⟨place.above.getLast?.getD place.entry, []⟩

/-- Follow one name of a path.  No name at all leads nowhere else, as one dot
does, but it asks for a directory too. -/
def follow (place : Place) (name : String) : Except ReadFailure Place :=
  match place.entry with
  | .file _ => .error .notDirectory
  | .directory entries =>
    if name = "" ∨ name = "." then .ok place
    else if name = ".." then .ok place.parent
    else if nameLimit < name.utf8ByteSize then .error .nameTooLong
    else match entries.lookup name with
    | none => .error .missing
    | some entry => .ok ⟨entry, place.entry :: place.above⟩

/-- Follow a path from a place, or from the topmost directory if the path
begins with a slash. -/
def followPath (place : Place) (path : String) : Except ReadFailure Place := do
  checkPath path
  let start := if path.startsWith "/" then place.top else place
  (path.splitOn "/").foldlM follow start

/-- The text of the file at a path. -/
def read (place : Place) (path : String) : Except ReadFailure String := do
  match (← place.followPath path).entry with
  | .file contents => textOf contents
  | .directory _ => .error .directory

end Place

end Files
end Optimum
