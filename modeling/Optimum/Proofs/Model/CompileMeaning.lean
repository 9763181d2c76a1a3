import Mathlib.Algebra.BigOperators.Group.Finset.Basic
import Mathlib.Algebra.BigOperators.Group.Finset.Piecewise
import Optimum.Proofs.Model.FormMeaning

namespace Optimum
namespace Model

open Optimum.Language Scalar

/-!
# Compiling keeps the meaning of a model

The columns of a compiled problem are the names of its model in the order in
which they first occur.  At the point that a valuation gives, the objective
has the value of its expression, and each constraint holds if its declaration
does, whatever stands on which side of it.
-/

/-! ## Coefficients under the columns -/

theorem dot_map_map (names : List String) (left right : String → Rat) :
    dot (names.map left) (names.map right) = (names.map fun name => left name * right name).sum := by
  rw [dot_eq_sum, sum_eq_sum, List.zipWith_map, List.zipWith_self]

theorem sum_map_single {names : List String} (distinct : names.Nodup) {name : String}
    (member : name ∈ names) (amount : Rat) :
    (names.map fun other => if other = name then amount else 0).sum = amount := by
  rw [← List.sum_toFinset _ distinct, Finset.sum_ite_eq', if_pos (List.mem_toFinset.mpr member)]

namespace LinearForm

variable {form : LinearForm Rat} {name : String}

theorem coefficient_cons (term : String × Rat) (terms : List (String × Rat)) (constant : Rat) :
    (⟨term :: terms, constant⟩ : LinearForm Rat).coefficient name =
      if term.1 = name then term.2 else (⟨terms, constant⟩ : LinearForm Rat).coefficient name := by
  rw [coefficient, List.find?_cons]
  by_cases same : term.1 = name
  · rw [if_pos same, decide_eq_true same]
  · rw [if_neg same, decide_eq_false same]
    rfl

theorem coefficient_of_not_mem (absent : name ∉ form.names) : form.coefficient name = 0 := by
  have missing : (form.terms.find? fun term => term.1 = name) = none := by
    apply List.find?_eq_none.mpr
    intro term member found
    exact absent (of_decide_eq_true found ▸ List.mem_map_of_mem member)
  rw [coefficient, missing]

/-- Columns that cover the names of a form keep all of its terms. -/
theorem sum_coefficient {columns : List String} (distinct : columns.Nodup)
    (unrepeated : form.names.Nodup) (covered : ∀ name ∈ form.names, name ∈ columns)
    (valuation : String → Rat) :
    (columns.map fun name => form.coefficient name * valuation name).sum =
      sumOf valuation form.terms := by
  rcases form with ⟨terms, constant⟩
  induction terms with
  | nil =>
      apply List.sum_eq_zero
      intro amount member
      rcases List.mem_map.mp member with ⟨name, _, rfl⟩
      exact zero_mul _
  | cons term terms inductionHypothesis =>
      rcases List.nodup_cons.mp unrepeated with ⟨new, others⟩
      have rest := inductionHypothesis others fun name member =>
        covered name (List.mem_cons_of_mem _ member)
      have split : ∀ name : String,
          (⟨term :: terms, constant⟩ : LinearForm Rat).coefficient name * valuation name =
            (if name = term.1 then term.2 * valuation term.1 else 0) +
              (⟨terms, constant⟩ : LinearForm Rat).coefficient name * valuation name := by
        intro name
        rw [coefficient_cons]
        by_cases same : term.1 = name
        · have nothing : (⟨terms, constant⟩ : LinearForm Rat).coefficient name = 0 :=
            coefficient_of_not_mem (same ▸ new)
          rw [if_pos same, if_pos same.symm, nothing, zero_mul, add_zero, same]
        · rw [if_neg same, if_neg (Ne.symm same), zero_add]
      simp only [split]
      rw [List.sum_map_add, sum_map_single distinct (covered term.1 List.mem_cons_self), rest]
      exact (sumOf_cons valuation term terms).symm

/-- The row of a form at the point of a valuation is its value without the
constant. -/
theorem dot_coefficient {columns : List String} (distinct : columns.Nodup)
    (unrepeated : form.names.Nodup) (covered : ∀ name ∈ form.names, name ∈ columns)
    (valuation : String → Rat) :
    dot (columns.map form.coefficient) (columns.map valuation) =
      form.value valuation - form.constant := by
  rw [dot_map_map, sum_coefficient distinct unrepeated covered, value, add_sub_cancel_right]

end LinearForm

/-! ## The compiled problem -/

/-- The problem that the forms of a model make, so that what is shown of it does
not depend on how the forms were found. -/
def assemble (model : LinearModel Rat) (sense : Linear.Sense) (objective : LinearForm Rat)
    (forms : List (LinearForm Rat)) : Linear.Problem Rat where
  variableNames := variablesOf (objective :: forms)
  sense := sense
  objective := (variablesOf (objective :: forms)).map objective.coefficient
  constraints := (model.constraints.zip forms).zipIdx.map
    (constraintOf (variablesOf (objective :: forms)))

/-- What is known of a model that was compiled.  The definition is opened here,
and nowhere else. -/
theorem compileLinear_eq_ok {model : LinearModel Rat} {problem : Linear.Problem Rat}
    (compiled : compileLinear model = .ok problem) :
    ∃ objective objectiveForm forms, model.objective = some objective ∧
      linearForm model.name objective.expression = .ok objectiveForm ∧
      objectiveForm.constant = 0 ∧
      List.Forall₂ (fun declaration form => constraintForm model.name declaration = .ok form)
        model.constraints forms ∧
      problem = assemble model objective.sense objectiveForm forms := by
  unfold compileLinear at compiled
  cases present : model.objective with
  | none =>
      rw [present] at compiled
      cases compiled
  | some objective =>
      rw [present] at compiled
      rcases Checks.bind_eq_ok_iff.mp compiled with ⟨objectiveForm, formed, rest⟩
      by_cases zero : isZero objectiveForm.constant = true
      · simp only [zero, Bool.not_true, Bool.false_eq_true, if_false] at rest
        rcases Checks.bind_eq_ok_iff.mp rest with ⟨forms, mapped, checked⟩
        rcases Checks.bind_eq_ok_iff.mp checked with ⟨⟨⟩, valid, same⟩
        cases same
        exact ⟨objective, objectiveForm, forms, rfl, formed, isZero_iff.mp zero,
          Checks.mapM_eq_ok_iff.mp mapped, rfl⟩
      · rw [Bool.not_eq_true] at zero
        simp only [zero, Bool.not_false, if_true] at rest
        cases rest

section Assembled

variable {model : LinearModel Rat} {objective : Objective Rat} {objectiveForm : LinearForm Rat}
  {forms : List (LinearForm Rat)}

/-- The forms of some constraints have the names of both sides, in order. -/
theorem collect_names_forms {name : String} {declarations : List (Declaration Rat)}
    (formed : List.Forall₂ (fun declaration form => constraintForm name declaration = .ok form)
      declarations forms) (seen : List String) :
    collect seen (forms.flatMap LinearForm.names) =
      collect seen (declarations.flatMap fun declaration =>
        declaration.left.names ++ declaration.right.names) := by
  induction formed generalizing seen with
  | nil => rfl
  | cons first rest inductionHypothesis =>
      rw [List.flatMap_cons, List.flatMap_cons, collect_append, collect_append,
        inductionHypothesis, (constraintForm_represents first).names_eq, collect_collect_nil]
      rfl

/-- The columns are the names of the model, each at its first occurrence.  A
name whose multiples cancel has a column too. -/
theorem variablesOf_eq (present : model.objective = some objective)
    (represents : Represents objectiveForm objective.expression)
    (formed : List.Forall₂ (fun declaration form => constraintForm model.name declaration = .ok form)
      model.constraints forms) :
    variablesOf (objectiveForm :: forms) = collect [] model.names := by
  have names : model.names = objective.expression.names ++
      model.constraints.flatMap fun declaration =>
        declaration.left.names ++ declaration.right.names := by
    rw [LinearModel.names, Item.expressions, present]
    simp only [Option.map_some, Option.toList_some, List.flatMap_append, List.flatMap_cons,
      List.flatMap_nil, List.append_nil, List.flatMap_assoc]
  change collect [] ((objectiveForm :: forms).flatMap LinearForm.names) = _
  rw [List.flatMap_cons, collect_append, collect_names_forms formed, represents.names_eq,
    collect_collect_nil, names, collect_append]

/-- Both sides of a constraint may be moved to the left and the constant to the
right. -/
theorem holds_moved_iff (relation : Linear.Relation) (left right constant : Rat) :
    relation.Holds (left - right - constant) (-constant + 0) ↔ relation.Holds left right := by
  have shift : left - right - constant = -constant + (left - right) := by ring
  rw [shift]
  cases relation with
  | le => exact (add_le_add_iff_left _).trans sub_nonpos
  | eq => exact (add_right_inj _).trans sub_eq_zero
  | ge => exact (add_le_add_iff_left _).trans sub_nonneg

/-- The constraint of a form holds at the point of a valuation if its
declaration holds under it. -/
theorem constraintOf_holds_iff {name : String} {declaration : Declaration Rat}
    {form : LinearForm Rat} (formed : constraintForm name declaration = .ok form)
    {columns : List String} (distinct : columns.Nodup)
    (covered : ∀ name ∈ form.names, name ∈ columns) (index : Nat) (valuation : String → Rat) :
    (constraintOf columns ((declaration, form), index)).Holds (columns.map valuation) ↔
      declaration.Holds valuation := by
  have represents := constraintForm_represents formed
  have unrepeated : form.names.Nodup := by
    rw [represents.names_eq]
    exact nodup_collect List.nodup_nil
  have difference : form.value valuation =
      declaration.left.value valuation - declaration.right.value valuation :=
    represents.value_eq valuation
  rw [Linear.Constraint.Holds, Linear.Constraint.lhs, constraintOf,
    LinearForm.dot_coefficient distinct unrepeated covered, difference, Declaration.Holds]
  exact holds_moved_iff _ _ _ _

end Assembled

/-! ## The meaning of a compiled model -/

/-- A problem that means what a model says.  Meaning is told by valuations of
the names, so that it does not depend on columns. -/
structure Faithful (model : LinearModel Rat) (problem : Linear.Problem Rat) : Prop where
  objective : ∃ objective, model.objective = some objective ∧ problem.sense = objective.sense ∧
    ∀ valuation, problem.evaluate (problem.variableNames.map valuation) =
      objective.expression.value valuation
  length_constraints : problem.constraints.length = model.constraints.length
  constraint : ∀ (index : Nat) (declaration : Declaration Rat),
    model.constraints[index]? = some declaration →
    ∃ constraint : Linear.Constraint Rat, problem.constraints[index]? = some constraint ∧
      constraint.name = declaration.label.getD ("R" ++ toString (index + 1)) ∧
      constraint.relation = declaration.relation ∧
      ∀ valuation, constraint.Holds (problem.variableNames.map valuation) ↔
        declaration.Holds valuation
  distinct : problem.variableNames.Nodup
  mem_iff : ∀ name, name ∈ problem.variableNames ↔ name ∈ model.names
  ordered : problem.variableNames.Pairwise fun first second =>
    model.names.idxOf first < model.names.idxOf second

/-- Compiling a linear model keeps its meaning: the objective, each constraint,
the labels and the order of the names.  Numbers are exact here; in doubles the
coefficients may be rounded. -/
theorem compileLinear_faithful (model : LinearModel Rat) (problem : Linear.Problem Rat)
    (compiled : compileLinear model = .ok problem) : Faithful model problem := by
  rcases compileLinear_eq_ok compiled with
    ⟨objective, objectiveForm, forms, present, objectiveFormed, zero, formed, rfl⟩
  have represents := linearForm_represents objectiveFormed
  have columns := variablesOf_eq present represents formed
  have distinct : (variablesOf (objectiveForm :: forms)).Nodup := by
    rw [columns]
    exact nodup_collect List.nodup_nil
  have covered : ∀ form ∈ objectiveForm :: forms, ∀ name ∈ form.names,
      name ∈ variablesOf (objectiveForm :: forms) := by
    intro form member name occurs
    apply mem_collect_iff.mpr
    exact Or.inr (List.mem_flatMap.mpr ⟨form, member, occurs⟩)
  constructor
  · refine ⟨objective, present, rfl, fun valuation => ?_⟩
    have unrepeated : objectiveForm.names.Nodup := by
      rw [represents.names_eq]
      exact nodup_collect List.nodup_nil
    rw [← represents.value_eq, Linear.Problem.evaluate, assemble,
      LinearForm.dot_coefficient distinct unrepeated (covered objectiveForm List.mem_cons_self),
      zero, sub_zero]
  · simp only [assemble, List.length_map, List.length_zipIdx, List.length_zip, formed.length_eq,
      Nat.min_self]
  · intro index declaration found
    rcases Checks.exists_getElem? formed found with ⟨form, located, declarationFormed⟩
    have placed : (model.constraints.zip forms)[index]? = some (declaration, form) :=
      List.getElem?_zip_eq_some.mpr ⟨found, located⟩
    refine ⟨constraintOf (variablesOf (objectiveForm :: forms)) ((declaration, form), index),
      ?_, rfl, rfl, fun valuation => ?_⟩
    · rw [assemble, List.getElem?_map, List.getElem?_zipIdx, placed, Nat.zero_add]
      rfl
    · apply constraintOf_holds_iff declarationFormed distinct
      exact covered form (List.mem_cons_of_mem _ (List.mem_of_getElem? located))
  · exact distinct
  · intro name
    rw [assemble, columns, mem_collect_iff, or_iff_right List.not_mem_nil]
  · rw [assemble, columns]
    exact pairwise_collect model.names

/-- A model with numbers and variables on both sides. -/
def twoSided : LinearModel Rat :=
  let x : Expression Rat := .variable "x" default
  let y : Expression Rat := .variable "y" default
  let doubled : Expression Rat :=
    .binary (.number 2) .multiply (.parenthesized (.binary x .subtract (.number 1)))
  { span := default
    name := "m"
    objective := some ⟨default, .min, .binary x .add y⟩
    constraints := [
      ⟨default, none, .binary x .add (.number 2), .ge, .binary (.number 5) .subtract y⟩,
      ⟨default, some "half", doubled, .le, .binary y .divide (.number 2)⟩] }

theorem compileLinear_faithful_twoSided :
    ∃ problem, compileLinear twoSided = .ok problem ∧ Faithful twoSided problem := by
  have accepted : (compileLinear twoSided).isOk = true := by decide +kernel
  cases compiled : compileLinear twoSided with
  | error fault =>
      rw [compiled] at accepted
      cases accepted
  | ok problem => exact ⟨problem, rfl, compileLinear_faithful twoSided problem compiled⟩

end Model
end Optimum
