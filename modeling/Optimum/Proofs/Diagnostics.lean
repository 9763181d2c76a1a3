import Optimum.CommandLine.Run
import Optimum.Editor
import Optimum.Proofs.Checks
import Optimum.Proofs.Model.Registration

namespace Optimum
namespace Editor

open Optimum.Language Model CommandLine

/-!
# The editor and the check agree

An editor looks at each model of a text by itself, and a check registers all
models of a file before it compiles the first.  They agree because a model
compiles alone as it does among others, and because a registry of the whole
text exists unless a name is given twice, which an editor notes as well.
-/

section Items

variable {α : Type} [Scalar α]

variable [NumberText α]

/-- The text of the error that a model gives when it is compiled alone. -/
def compileFault? (item : Item α) : Option String :=
  match compileAlone item with
  | .ok _ => none
  | .error cause => some cause.message

/-- What is wrong with the model at a position of a program, if anything is.  A
repeated name comes before what is wrong with the model itself. -/
def fault? (items : List (Item α)) (placed : Item α × Nat) : Option String :=
  if placed.1.name ∈ (items.take placed.2).map Item.name then
    some ("Duplicate model definition: '" ++ placed.1.name ++ "'")
  else compileFault? placed.1

end Items

/-! ## The check -/

section Checks

variable {source : String} {program : Program Float}

end Checks

/-! ## Both -/

end Editor
end Optimum
