import Optimum.Proofs.Linear.Feasibility
import Optimum.Proofs.Model.Occurrences

namespace Optimum
namespace Language

/-- The value of an expression under a valuation of its names.  A quotient by
zero has a value too, but such an expression has no form. -/
def Expression.value (valuation : String → Rat) : Expression Rat → Rat
  | .number value => value
  | .variable name _ => valuation name
  | .negate inner => -inner.value valuation
  | .binary left .add right => left.value valuation + right.value valuation
  | .binary left .subtract right => left.value valuation - right.value valuation
  | .binary left .multiply right => left.value valuation * right.value valuation
  | .binary left .divide right => left.value valuation / right.value valuation
  | .parenthesized inner => inner.value valuation

/-- Whether a declared constraint holds under a valuation. -/
def Declaration.Holds (declaration : Declaration Rat) (valuation : String → Rat) : Prop :=
  declaration.relation.Holds (declaration.left.value valuation)
    (declaration.right.value valuation)

end Language

namespace Model

open Optimum.Language Scalar

/-!
# The meaning of a linear form

A form has the names of its expression, each at its first occurrence, and
under every valuation the value of its expression.  Both are proved along the
operations on forms: the constant side of a product has no names, and what
stands below a division is a number other than zero.
-/

namespace LinearForm

variable {form other : LinearForm Rat} {valuation : String → Rat}

/-- The names of a form in the order of its terms. -/
def names (form : LinearForm Rat) : List String :=
  form.terms.map Prod.fst

/-- The sum of some terms under a valuation. -/
def sumOf (valuation : String → Rat) (terms : List (String × Rat)) : Rat :=
  (terms.map fun term => term.2 * valuation term.1).sum

/-- The value of a form under a valuation. -/
def value (form : LinearForm Rat) (valuation : String → Rat) : Rat :=
  sumOf valuation form.terms + form.constant

theorem sumOf_cons (valuation : String → Rat) (term : String × Rat) (terms : List (String × Rat)) :
    sumOf valuation (term :: terms) = term.2 * valuation term.1 + sumOf valuation terms :=
  List.sum_cons

/-! ## Terms -/

theorem sumOf_addTerm (valuation : String → Rat) (name : String) (coefficient : Rat)
    (terms : List (String × Rat)) :
    sumOf valuation (addTerm name coefficient terms) =
      sumOf valuation terms + coefficient * valuation name := by
  induction terms with
  | nil =>
      rw [addTerm, sumOf_cons]
      exact add_comm _ _
  | cons term terms inductionHypothesis =>
      rw [addTerm]
      by_cases same : term.1 = name
      · rw [if_pos same, sumOf_cons, sumOf_cons, same]
        ring
      · rw [if_neg same, sumOf_cons, sumOf_cons, inductionHypothesis]
        ring

theorem map_fst_addTerm (name : String) (coefficient : Rat) (terms : List (String × Rat)) :
    (addTerm name coefficient terms).map Prod.fst = collect (terms.map Prod.fst) [name] := by
  have present : ∀ terms : List (String × Rat), name ∈ terms.map Prod.fst →
      (addTerm name coefficient terms).map Prod.fst = terms.map Prod.fst := by
    intro terms
    induction terms with
    | nil => exact fun impossible => absurd impossible List.not_mem_nil
    | cons term terms inductionHypothesis =>
        intro member
        rw [addTerm]
        by_cases same : term.1 = name
        · rw [if_pos same]
          rfl
        · have later := (List.mem_cons.mp member).resolve_left (Ne.symm same)
          rw [if_neg same, List.map_cons, List.map_cons, inductionHypothesis later]
  have absent : ∀ terms : List (String × Rat), name ∉ terms.map Prod.fst →
      (addTerm name coefficient terms).map Prod.fst = terms.map Prod.fst ++ [name] := by
    intro terms
    induction terms with
    | nil => exact fun _ => rfl
    | cons term terms inductionHypothesis =>
        intro new
        rw [List.map_cons, List.mem_cons, not_or] at new
        rw [addTerm, if_neg (Ne.symm new.1), List.map_cons, List.map_cons,
          inductionHypothesis new.2]
        rfl
  by_cases member : name ∈ terms.map Prod.fst
  · rw [collect_cons_of_mem member, present terms member]
    rfl
  · rw [collect_cons_of_not_mem member, absent terms member]
    rfl

/-! ## Operations -/

theorem value_ofConstant (number : Rat) : (ofConstant number).value valuation = number :=
  zero_add number

theorem value_ofVariable (name : String) : (ofVariable name).value valuation = valuation name := by
  simp [value, sumOf, ofVariable]

theorem value_scale (form : LinearForm Rat) (factor : Rat) :
    (form.scale factor).value valuation = form.value valuation * factor := by
  have terms : ∀ terms : List (String × Rat),
      sumOf valuation (terms.map fun term => (term.1, term.2 * factor)) =
        sumOf valuation terms * factor := by
    intro terms
    induction terms with
    | nil => exact (zero_mul factor).symm
    | cons term terms inductionHypothesis =>
        rw [List.map_cons, sumOf_cons, sumOf_cons, inductionHypothesis]
        ring
  rw [value, value, add_mul, ← terms]
  rfl

theorem names_scale (form : LinearForm Rat) (factor : Rat) :
    (form.scale factor).names = form.names := by
  rw [names, scale, List.map_map]
  rfl

theorem value_combine (form other : LinearForm Rat) (factor : Rat) :
    (form.combine other factor).value valuation =
      form.value valuation + factor * other.value valuation := by
  have terms : ∀ added terms : List (String × Rat),
      sumOf valuation (added.foldl
        (fun terms term => addTerm term.1 (factor * term.2) terms) terms) =
        sumOf valuation terms + factor * sumOf valuation added := by
    intro added
    induction added with
    | nil =>
        intro terms
        rw [List.foldl_nil, sumOf, sumOf, List.map_nil, List.sum_nil, mul_zero, add_zero]
    | cons term added inductionHypothesis =>
        intro terms
        rw [List.foldl_cons, inductionHypothesis, sumOf_addTerm, sumOf_cons]
        ring
  have sum := terms other.terms form.terms
  rw [value, value, value, combine]
  simp only [sum]
  ring

theorem names_combine (form other : LinearForm Rat) (factor : Rat) :
    (form.combine other factor).names = collect form.names other.names := by
  have terms : ∀ added terms : List (String × Rat),
      (added.foldl (fun terms term => addTerm term.1 (factor * term.2) terms) terms).map Prod.fst =
        collect (terms.map Prod.fst) (added.map Prod.fst) := by
    intro added
    induction added with
    | nil => exact fun terms => rfl
    | cons term added inductionHypothesis =>
        intro terms
        rw [List.foldl_cons, inductionHypothesis, map_fst_addTerm, ← collect_append]
        rfl
  exact terms other.terms form.terms

theorem isConstant_iff : form.isConstant = true ↔ form.names = [] := by
  rw [isConstant, List.isEmpty_iff, names, List.map_eq_nil_iff]

theorem value_of_isConstant (constant : form.isConstant = true) :
    form.value valuation = form.constant := by
  rw [isConstant, List.isEmpty_iff] at constant
  rw [value, constant]
  exact zero_add _

end LinearForm

/-! ## Forms of expressions -/

/-- A form that has the names and the values of an expression.  The names matter
besides the values, since they decide the order of the columns. -/
structure Represents (form : LinearForm Rat) (expression : Expression Rat) : Prop where
  names_eq : form.names = collect [] expression.names
  value_eq : ∀ valuation, form.value valuation = expression.value valuation

namespace Represents

variable {left right : LinearForm Rat} {first second : Expression Rat}
  (leftForm : Represents left first) (rightForm : Represents right second)

include leftForm

theorem negate : Represents (left.scale (-1)) (.negate first) where
  names_eq := by
    rw [LinearForm.names_scale, leftForm.names_eq]
    rfl
  value_eq := by
    intro valuation
    rw [LinearForm.value_scale, leftForm.value_eq, mul_neg_one]
    rfl

include rightForm

theorem names_binary (operator : Operator) :
    collect [] (Expression.binary first operator second).names =
      collect left.names right.names := by
  rw [leftForm.names_eq, rightForm.names_eq, collect_collect_nil, ← collect_append]
  rfl

theorem add : Represents (left.combine right 1) (.binary first .add second) where
  names_eq := by
    rw [LinearForm.names_combine, leftForm.names_binary rightForm]
  value_eq := by
    intro valuation
    rw [LinearForm.value_combine, leftForm.value_eq, rightForm.value_eq, one_mul]
    rfl

theorem subtract : Represents (left.combine right (-1)) (.binary first .subtract second) where
  names_eq := by
    rw [LinearForm.names_combine, leftForm.names_binary rightForm]
  value_eq := by
    intro valuation
    rw [LinearForm.value_combine, leftForm.value_eq, rightForm.value_eq, neg_one_mul,
      ← sub_eq_add_neg]
    rfl

theorem multiply_of_right (constant : right.isConstant = true) :
    Represents (left.scale right.constant) (.binary first .multiply second) where
  names_eq := by
    rw [LinearForm.names_scale, leftForm.names_binary rightForm,
      LinearForm.isConstant_iff.mp constant]
    rfl
  value_eq := by
    intro valuation
    rw [LinearForm.value_scale, leftForm.value_eq, ← LinearForm.value_of_isConstant constant,
      rightForm.value_eq]
    rfl

theorem multiply_of_left (constant : left.isConstant = true) :
    Represents (right.scale left.constant) (.binary first .multiply second) where
  names_eq := by
    rw [LinearForm.names_scale, leftForm.names_binary rightForm,
      LinearForm.isConstant_iff.mp constant, rightForm.names_eq, collect_collect_nil]
  value_eq := by
    intro valuation
    rw [LinearForm.value_scale, rightForm.value_eq, ← LinearForm.value_of_isConstant constant,
      leftForm.value_eq, mul_comm]
    rfl

theorem divide (constant : right.isConstant = true) :
    Represents (left.scale (1 / right.constant)) (.binary first .divide second) where
  names_eq := by
    rw [LinearForm.names_scale, leftForm.names_binary rightForm,
      LinearForm.isConstant_iff.mp constant]
    rfl
  value_eq := by
    intro valuation
    rw [LinearForm.value_scale, leftForm.value_eq, ← LinearForm.value_of_isConstant constant,
      rightForm.value_eq, mul_one_div]
    rfl

end Represents

/-- An operation on forms that succeeds represents the operation on their
expressions. -/
theorem combineForms_represents {left right form : LinearForm Rat}
    {first second whole : Expression Rat} {operator : Operator} {model : String}
    (leftForm : Represents left first) (rightForm : Represents right second)
    (combined : combineForms model whole left operator right = .ok form) :
    Represents form (.binary first operator second) := by
  cases operator with
  | add =>
      cases combined
      exact leftForm.add rightForm
  | subtract =>
      cases combined
      exact leftForm.subtract rightForm
  | multiply =>
      unfold combineForms at combined
      by_cases rightConstant : right.isConstant = true
      · simp only [if_pos rightConstant] at combined
        cases combined
        exact leftForm.multiply_of_right rightForm rightConstant
      · simp only [if_neg rightConstant] at combined
        by_cases leftConstant : left.isConstant = true
        · simp only [if_pos leftConstant] at combined
          cases combined
          exact leftForm.multiply_of_left rightForm leftConstant
        · simp only [if_neg leftConstant] at combined
          cases combined
  | divide =>
      unfold combineForms at combined
      by_cases rightConstant : right.isConstant = true
      · simp only [rightConstant, Bool.not_true, Bool.false_eq_true, if_false] at combined
        by_cases zero : isZero right.constant = true
        · simp only [if_pos zero] at combined
          cases combined
        · simp only [if_neg zero] at combined
          cases combined
          exact leftForm.divide rightForm rightConstant
      · rw [Bool.not_eq_true] at rightConstant
        simp only [rightConstant, Bool.not_false, if_true] at combined
        cases combined

/-- The linear form of an expression has its names and its values.  The
induction is on the expression, where each operation combines two forms. -/
theorem linearForm_represents {model : String} {expression : Expression Rat}
    {form : LinearForm Rat} (formed : linearForm model expression = .ok form) :
    Represents form expression := by
  induction expression generalizing form with
  | number value =>
      cases formed
      exact ⟨rfl, fun valuation => LinearForm.value_ofConstant value⟩
  | «variable» name span =>
      cases formed
      exact ⟨rfl, fun valuation => LinearForm.value_ofVariable name⟩
  | negate inner inductionHypothesis =>
      rw [linearForm] at formed
      cases innerFormed : linearForm model inner with
      | error fault =>
          rw [innerFormed] at formed
          cases formed
      | ok innerForm =>
          rw [innerFormed] at formed
          cases formed
          exact (inductionHypothesis innerFormed).negate
  | binary left operator right leftHypothesis rightHypothesis =>
      rcases Checks.bind_eq_ok_iff.mp formed with ⟨leftForm, leftFormed, rest⟩
      rcases Checks.bind_eq_ok_iff.mp rest with ⟨rightForm, rightFormed, combined⟩
      exact combineForms_represents (leftHypothesis leftFormed) (rightHypothesis rightFormed) combined
  | parenthesized inner inductionHypothesis =>
      have represents := inductionHypothesis formed
      exact ⟨represents.names_eq, represents.value_eq⟩

/-- The form of a constraint has the names of both sides and the value of
their difference. -/
theorem constraintForm_represents {model : String} {declaration : Declaration Rat}
    {form : LinearForm Rat} (formed : constraintForm model declaration = .ok form) :
    Represents form (.binary declaration.left .subtract declaration.right) := by
  rcases Checks.bind_eq_ok_iff.mp formed with ⟨left, leftFormed, rest⟩
  rcases Checks.bind_eq_ok_iff.mp rest with ⟨right, rightFormed, combined⟩
  cases combined
  exact (linearForm_represents leftFormed).subtract (linearForm_represents rightFormed)

end Model
end Optimum
