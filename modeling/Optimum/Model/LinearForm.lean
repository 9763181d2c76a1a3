import Optimum.Model.CompileError

namespace Optimum
namespace Model

open Optimum.Language Scalar

/-!
# Linear forms

An expression is linear if it is a sum of multiples of its variables and a
constant.  `linearForm` computes that sum, or names the first operation that
prevents it.  A variable keeps its term even if its multiples cancel, so the
variables of the form are those of the expression.
-/

/-- Multiples of variables, in the order in which the variables first appear,
and a constant. -/
structure LinearForm (α : Type) where
  terms : List (String × α)
  constant : α
  deriving DecidableEq, Repr

namespace LinearForm

variable {α : Type} [Scalar α]

def ofConstant (value : α) : LinearForm α :=
  ⟨[], value⟩

def ofVariable (name : String) : LinearForm α :=
  ⟨[(name, 1)], 0⟩

/-- Whether no variable appears. -/
def isConstant (form : LinearForm α) : Bool :=
  form.terms.isEmpty

def scale (form : LinearForm α) (factor : α) : LinearForm α :=
  ⟨form.terms.map fun (name, coefficient) => (name, coefficient * factor),
    form.constant * factor⟩

/-- Add to the multiple of a variable, at the end if it has none yet.  A
multiple that has become zero stays, so the order of the variables is that of
the text. -/
def addTerm (name : String) (coefficient : α) : List (String × α) → List (String × α)
  | [] => [(name, coefficient)]
  | (found, value) :: others =>
    if found = name then (found, value + coefficient) :: others
    else (found, value) :: addTerm name coefficient others

/-- Add a multiple of another form. -/
def combine (form other : LinearForm α) (factor : α) : LinearForm α where
  terms := other.terms.foldl
    (fun terms (name, coefficient) => addTerm name (factor * coefficient) terms) form.terms
  constant := form.constant + factor * other.constant

/-- The multiple of a variable, zero if it has none. -/
def coefficient (form : LinearForm α) (name : String) : α :=
  match form.terms.find? fun term => term.1 = name with
  | some term => term.2
  | none => 0

end LinearForm

variable {α : Type} [Scalar α]

/-- The linear form of an operation on two linear forms, where `whole` is the
operation itself. -/
def combineForms (model : String) (whole : Expression α) (left : LinearForm α)
    (operator : Operator) (right : LinearForm α) : Except (CompileError α) (LinearForm α) :=
  match operator with
  | .add => .ok (left.combine right 1)
  | .subtract => .ok (left.combine right (-1))
  | .multiply =>
    if right.isConstant then .ok (left.scale right.constant)
    else if left.isConstant then .ok (right.scale left.constant)
    else .error (.nonLinear model whole)
  | .divide =>
    if !right.isConstant then .error (.nonLinear model whole)
    else if isZero right.constant then .error (.divisionByZero model)
    else .ok (left.scale (1 / right.constant))

/-- The linear form of an expression of a model.  Operands are looked at before
the operation, so the innermost fault of several is reported, and the left one
before the right.  A product needs a side without variables, and a quotient such
a divisor. -/
def linearForm (model : String) : Expression α → Except (CompileError α) (LinearForm α)
  | .number value => .ok (.ofConstant value)
  | .variable name _ => .ok (.ofVariable name)
  | .negate inner => (linearForm model inner).map fun form => form.scale (-1)
  | .parenthesized inner => linearForm model inner
  | .binary left operator right => do
    let leftForm ← linearForm model left
    let rightForm ← linearForm model right
    combineForms model (.binary left operator right) leftForm operator rightForm

end Model
end Optimum
