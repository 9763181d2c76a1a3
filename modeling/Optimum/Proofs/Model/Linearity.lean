import Optimum.Proofs.Model.FormMeaning

namespace Optimum
namespace Language

/-- The nodes of an expression.  Those below an operation come before it, the
left side first. -/
def Expression.nodes {α : Type} : Expression α → List (Expression α)
  | .number value => [.number value]
  | .variable name span => [.variable name span]
  | .negate inner => inner.nodes ++ [.negate inner]
  | .binary left operator right => left.nodes ++ right.nodes ++ [.binary left operator right]
  | .parenthesized inner => inner.nodes ++ [.parenthesized inner]

/-- The number that an expression stands for, if it has no names and nothing
in it is divided by zero. -/
def Expression.constant? : Expression Rat → Option Rat
  | .number value => some value
  | .variable _ _ => none
  | .negate inner => inner.constant?.map (- ·)
  | .binary left operator right => do
    let first ← left.constant?
    let second ← right.constant?
    match operator with
    | .add => some (first + second)
    | .subtract => some (first - second)
    | .multiply => some (first * second)
    | .divide => if second = 0 then none else some (first / second)
  | .parenthesized inner => inner.constant?

end Language

namespace Model

open Checks (FailsWith)
open Optimum.Language Scalar

/-!
# Which expressions are linear

Three operations keep an expression from being linear: a product of two sides
that both have names, a quotient whose divisor has names, and one whose divisor
is zero.  An expression has a linear form if none of its nodes is of this kind;
otherwise the fault is that of the first such node (`linearForm_firstOffence`).

The operations on forms do not look at names but at terms.  A form has a term
for each name of its expression, also where the multiples cancel, so both come
to the same.
-/

/-! ## Offending operations -/

/-- The fault of a node by itself.  The nodes below it are looked at on their
own, so the first fault of a walk over all nodes is the fault of the
expression. -/
def offence? (model : String) : Expression Rat → Option (CompileError Rat)
  | .binary left .multiply right =>
    if left.names ≠ [] ∧ right.names ≠ [] then
      some (.nonLinear model (.binary left .multiply right))
    else none
  | .binary left .divide right =>
    if right.names ≠ [] then some (.nonLinear model (.binary left .divide right))
    else if right.constant? = some 0 then some (.divisionByZero model)
    else none
  | _ => none

variable {model : String}

/-- A form has no terms if its expression has no names. -/
theorem Represents.isConstant_iff {form : LinearForm Rat} {expression : Expression Rat}
    (represents : Represents form expression) :
    form.isConstant = true ↔ expression.names = [] := by
  rw [LinearForm.isConstant_iff, represents.names_eq]
  constructor
  · intro empty
    apply List.eq_nil_iff_forall_not_mem.mpr
    intro name occurs
    have collected := mem_collect_iff.mpr (Or.inr occurs : name ∈ [] ∨ name ∈ expression.names)
    rw [empty] at collected
    cases collected
  · intro empty
    rw [empty]
    rfl

theorem combineForms_divide {whole : Expression Rat} {left right : LinearForm Rat}
    (constant : right.isConstant = true) :
    combineForms model whole left .divide right =
      if right.constant = 0 then .error (.divisionByZero model)
      else .ok (left.scale (1 / right.constant)) := by
  unfold combineForms
  simp only [constant, Bool.not_true, Bool.false_eq_true, if_false, isZero_iff]

/-- Where an expression without names has a form, the form is its number. -/
theorem constant?_of_linearForm {expression : Expression Rat} {form : LinearForm Rat}
    (formed : linearForm model expression = .ok form) (nameless : expression.names = []) :
    expression.constant? = some form.constant := by
  induction expression generalizing form with
  | number value =>
      cases formed
      rfl
  | «variable» name span => cases nameless
  | negate inner inductionHypothesis =>
      rcases Checks.map_eq_ok_iff.mp formed with ⟨innerForm, innerFormed, rfl⟩
      rw [Expression.constant?, inductionHypothesis innerFormed nameless, Option.map_some,
        LinearForm.scale, mul_neg_one]
  | binary left operator right leftHypothesis rightHypothesis =>
      rcases Checks.bind_eq_ok_iff.mp formed with ⟨leftForm, leftFormed, rest⟩
      rcases Checks.bind_eq_ok_iff.mp rest with ⟨rightForm, rightFormed, combined⟩
      rcases List.append_eq_nil_iff.mp nameless with ⟨leftNameless, rightNameless⟩
      have constant := (linearForm_represents rightFormed).isConstant_iff.mpr rightNameless
      rw [Expression.constant?, leftHypothesis leftFormed leftNameless,
        rightHypothesis rightFormed rightNameless]
      cases operator with
      | add =>
          cases combined
          exact congrArg (fun value => some (leftForm.constant + value)) (one_mul _).symm
      | subtract =>
          cases combined
          rw [LinearForm.combine, neg_one_mul, ← sub_eq_add_neg]
          rfl
      | multiply =>
          rw [combineForms, if_pos constant] at combined
          cases combined
          rfl
      | divide =>
          rw [combineForms_divide constant] at combined
          split at combined
          · cases combined
          · next present =>
              cases combined
              rw [LinearForm.scale, mul_one_div]
              exact if_neg present
  | parenthesized inner inductionHypothesis => exact inductionHypothesis formed nameless

/-- An operation on forms fails as the operation on their expressions
offends. -/
theorem combineForms_fails {left right : Expression Rat} {leftForm rightForm : LinearForm Rat}
    (leftFormed : linearForm model left = .ok leftForm)
    (rightFormed : linearForm model right = .ok rightForm) (operator : Operator) :
    FailsWith (combineForms model (.binary left operator right) leftForm operator rightForm)
      (offence? model (.binary left operator right)) := by
  have leftConstant := (linearForm_represents leftFormed).isConstant_iff
  have rightConstant := (linearForm_represents rightFormed).isConstant_iff
  cases operator with
  | add => exact .ok _
  | subtract => exact .ok _
  | multiply =>
      rw [combineForms, offence?]
      by_cases rightNameless : right.names = []
      · rw [if_pos (rightConstant.mpr rightNameless), if_neg fun named => named.2 rightNameless]
        exact .ok _
      · rw [if_neg (rightNameless ∘ rightConstant.mp)]
        by_cases leftNameless : left.names = []
        · rw [if_pos (leftConstant.mpr leftNameless), if_neg fun named => named.1 leftNameless]
          exact .ok _
        · rw [if_neg (leftNameless ∘ leftConstant.mp), if_pos ⟨leftNameless, rightNameless⟩]
          exact .error _
  | divide =>
      rw [offence?]
      by_cases nameless : right.names = []
      · have value := constant?_of_linearForm rightFormed nameless
        rw [combineForms_divide (rightConstant.mpr nameless), if_neg (not_not.mpr nameless), value]
        simp only [Option.some.injEq]
        split
        · exact .error _
        · exact .ok _
      · have named := Bool.eq_false_iff.mpr (nameless ∘ rightConstant.mp)
        rw [if_pos nameless]
        unfold combineForms
        simp only [named, Bool.not_false, if_true]
        exact .error _

/-- An expression fails to have a form as the first of its nodes offends. -/
theorem linearForm_fails (model : String) (expression : Expression Rat) :
    FailsWith (linearForm model expression)
      (expression.nodes.findSome? (offence? model)) := by
  induction expression with
  | number value => exact .ok _
  | «variable» name span => exact .ok _
  | negate inner inductionHypothesis =>
      have sound : [Expression.negate inner].findSome? (offence? model) = none := rfl
      rw [Expression.nodes, List.findSome?_append, sound, Option.or_none]
      exact inductionHypothesis.map _
  | binary left operator right leftHypothesis rightHypothesis =>
      rw [Expression.nodes, List.findSome?_append, List.findSome?_append, Option.or_assoc,
        List.findSome?_singleton]
      refine leftHypothesis.bind fun leftForm leftFormed => ?_
      refine rightHypothesis.bind fun rightForm rightFormed => ?_
      exact combineForms_fails leftFormed rightFormed operator
  | parenthesized inner inductionHypothesis =>
      have sound : [Expression.parenthesized inner].findSome? (offence? model) = none := rfl
      rw [Expression.nodes, List.findSome?_append, sound, Option.or_none]
      exact inductionHypothesis

/-- An expression has a linear form if none of its nodes offends.  Otherwise
the fault is that of the first node that does, and a fault of linearity shows
the text of its node. -/
theorem linearForm_firstOffence (model : String) (expression : Expression Rat) :
    ((∃ form, linearForm model expression = .ok form) ↔
      ∀ node ∈ expression.nodes, offence? model node = none) ∧
    (∀ fault, linearForm model expression = .error fault ↔
      ∃ before node after, expression.nodes = before ++ node :: after ∧
        offence? model node = some fault ∧ ∀ earlier ∈ before, offence? model earlier = none) ∧
    ∀ [NumberText Rat] (node : Expression Rat),
      (CompileError.nonLinear model node).message =
        "Non-linear term in " ++ model ++ ": " ++ node.text := by
  have fails := linearForm_fails model expression
  refine ⟨?_, fun fault => ?_, fun node => rfl⟩
  · rw [fails.succeeds_iff, List.findSome?_eq_none_iff]
  · rw [fails.eq_error_iff, List.findSome?_eq_some_iff]

-- The multiples of x cancel, but its term remains.
example :
    (linearForm (α := Rat) "m" (.binary
      (.parenthesized (.binary (.variable "x" ⟨0, 1⟩) .subtract (.variable "x" ⟨2, 3⟩)))
      .multiply (.variable "y" ⟨4, 5⟩))).isOk = false := rfl

end Model
end Optimum
