import Optimum.Language.Reading.Models
import Optimum.Model.Compile

namespace Optimum
namespace Model

open Optimum.Language

/-!
# The registry of models

Models are registered under their names, in the order in which they come.  A
name stays with its first model: a second model of that name stops the loading
of its program, and what was registered before it remains.
-/

structure Registry (α : Type) where
  /-- The model that a name is bound to, if it is bound. -/
  models : String → Option (Item α)
  /-- The bound names in the order of registration. -/
  order : List String

namespace Registry

variable {α : Type}

def empty : Registry α :=
  ⟨fun _ => none, []⟩

/-- The names in the order of registration. -/
def names (registry : Registry α) : List String :=
  registry.order

def find? (registry : Registry α) (name : String) : Option (Item α) :=
  registry.models name

/-- Bind the name of a model to it and put it behind the other names.  Callers
make sure that the name was free. -/
def add (registry : Registry α) (item : Item α) : Registry α where
  models name := if name = item.name then some item else registry.models name
  order := registry.order ++ [item.name]

/-- Register models until one has a name that is taken.  The answer holds what
is registered then, and the fault if there is one: a load that fails is not
taken back. -/
def register (registry : Registry α) : List (Item α) → Registry α × Option (CompileError α)
  | [] => (registry, none)
  | item :: others =>
    if (registry.find? item.name).isSome then (registry, some (.duplicateModel item.name))
    else register (registry.add item) others

/-- Register the models of a program.  Those before a fault stay registered. -/
def load (registry : Registry α) (program : Program α) : Registry α × Option (CompileError α) :=
  registry.register program.items

/-- The registry of one program, if no name is given twice. -/
def ofProgram (program : Program α) : Except (CompileError α) (Registry α) :=
  match empty.load program with
  | (registry, none) => .ok registry
  | (_, some fault) => .error fault

/-- Register the models of a file, given what reading the file has led to. -/
def loadFile [NumberText α] [Neg α] (registry : Registry α) (path : String)
    (contents : Except Files.ReadFailure String) : Registry α × Option (CompileError α) :=
  match contents with
  | .error failure => (registry, some (.unreadable path failure))
  | .ok source =>
    match parse source with
    | .error cause => (registry, some (.unparsable path cause))
    | .ok program => registry.load program

variable [Scalar α]

/-- The problem of the model with a name.  Models are compiled when they are
asked for, so a faulty one does no harm to the others. -/
def compile (registry : Registry α) (name : String) : Except (CompileError α) (Compiled α) :=
  match registry.find? name with
  | none => .error (.unknownModel name)
  | some item => Model.compile item

def compileLinear (registry : Registry α) (name : String) :
    Except (CompileError α) (Linear.Problem α) := do
  match ← registry.compile name with
  | .lp _ problem => return problem
  | other => .error (.wrongKind name other.kind .lp)

end Registry

/-- The problem of a model that is registered without the others, so that a
fault of another model cannot hide what is wrong with this one. -/
def compileAlone {α : Type} [Scalar α] (item : Item α) :
    Except (CompileError α) (Compiled α) := do
  let alone ← Registry.ofProgram ⟨[item]⟩
  alone.compile item.name

end Model
end Optimum
