import Optimum.Linear.BigM
import Optimum.Proofs.Linear.Feasibility

namespace Optimum
namespace Linear

open Scalar Tableau

/-!
# Standard problems need no penalties

If all constraints bound from above with right-hand sides that are not
negative, then no constraint is negated, no artificial column is added and the
first tableau is the slack tableau.  From there on both methods follow the
same rule, so they return the same answer in any arithmetic.
-/

variable {α : Type} [Scalar α]

namespace BigM

variable {constraints : List (Constraint α)}

theorem map_normalized (notNegative : ∀ constraint ∈ constraints, ¬ constraint.rhs < 0) :
    constraints.map normalized = constraints := by
  refine (List.map_congr_left fun constraint member => ?_).trans (List.map_id constraints)
  exact if_neg (notNegative constraint member)

section Counts

omit [Scalar α]

theorem Counts.foldl_bounds (above : ∀ constraint ∈ constraints, constraint.relation = .le)
    (slack : Nat) :
    constraints.foldl (fun counts constraint => Counts.after counts constraint.relation)
      ⟨slack, 0, 0⟩ = ⟨slack + constraints.length, 0, 0⟩ := by
  induction constraints generalizing slack with
  | nil => rfl
  | cons constraint others inductionHypothesis =>
      rcases List.forall_mem_cons.mp above with ⟨bound, rest⟩
      rw [List.foldl_cons, bound, List.length_cons, Nat.add_comm others.length, ← Nat.add_assoc]
      exact inductionHypothesis rest (slack + 1)

/-- Bounds from above need one slack column each and no other column. -/
theorem Counts.of_bounds (above : ∀ constraint ∈ constraints, constraint.relation = .le) :
    Counts.of constraints = ⟨constraints.length, 0, 0⟩ := by
  rw [Counts.of, Counts.zero, foldl_bounds above, Nat.zero_add]

end Counts

/-- The rows of bounds from above are those of the slack tableau. -/
theorem startRows_bounds (above : ∀ constraint ∈ constraints, constraint.relation = .le)
    (count first before : Nat) :
    startRows ⟨count, 0, 0⟩ first ⟨before, 0, 0⟩ constraints =
      constraints.mapIdx fun index constraint =>
        (constraint.coefficients ++ unitRow count (before + index) ++ [constraint.rhs],
          first + (before + index)) := by
  induction constraints generalizing before with
  | nil => rfl
  | cons constraint others inductionHypothesis =>
      rcases List.forall_mem_cons.mp above with ⟨bound, rest⟩
      have after : Counts.after ⟨before, 0, 0⟩ Relation.le = ⟨before + 1, 0, 0⟩ := rfl
      have added : (addedEntries ⟨count, 0, 0⟩ ⟨before, 0, 0⟩ Relation.le : List α) =
          unitRow count before := List.append_nil _
      rw [startRows, bound, after, added, inductionHypothesis rest, List.mapIdx_cons]
      simp only [Nat.add_zero, Nat.add_assoc, Nat.add_comm 1]
      rfl

theorem penalizedTableau_bounds {problem : Problem α}
    (above : ∀ constraint ∈ problem.constraints, constraint.relation = .le) (penalty : α) :
    penalizedTableau problem problem.constraints penalty = slackTableau problem := by
  have startRows := startRows_bounds above problem.constraints.length problem.dimension 0
  simp only [Nat.zero_add] at startRows
  rw [penalizedTableau, Counts.of_bounds above, Counts.zero, startRows, slackTableau]
  rw [Tableau.mk.injEq]
  refine ⟨?_, ?_, ?_, ?_⟩
  · exact (List.append_nil _).trans (List.append_nil _)
  · exact List.ext_getElem (by simp) (by simp)
  · rw [List.replicate_zero, List.append_nil, Nat.add_zero]
  · exact List.ext_getElem (by simp) (by simp)

/-- Without artificial columns in the basis there is nothing to eliminate.  Not
even a zero is subtracted, so no double is rounded. -/
theorem eliminatePenalties_of_lt {firstArtificial : Nat} {tableau : Tableau α}
    (below : ∀ column ∈ tableau.basis, column < firstArtificial) (penalty : α) :
    eliminatePenalties firstArtificial penalty tableau = tableau := by
  refine List.foldlRecOn tableau.basis.zipIdx _ (motive := (· = tableau)) rfl ?_
  rintro reduced rfl ⟨column, row⟩ member
  exact if_neg (Nat.not_le.mpr (below column (List.fst_mem_of_mem_zipIdx member)))

/-- The start of the method of penalties at a problem in standard form. -/
theorem eliminatePenalties_bounds {problem : Problem α}
    (above : ∀ constraint ∈ problem.constraints, constraint.relation = .le) (penalty : α) :
    eliminatePenalties (problem.dimension + problem.constraints.length) penalty
      (penalizedTableau problem problem.constraints penalty) = slackTableau problem := by
  rw [penalizedTableau_bounds above]
  refine eliminatePenalties_of_lt (fun column member => ?_) penalty
  rcases List.mem_map.mp member with ⟨index, inside, rfl⟩
  exact Nat.add_lt_add_left (List.mem_range.mp inside) problem.dimension

end BigM

namespace Solution

/-- The answer with another event for the first snapshot.  It is the one thing
in which the two methods differ on a problem in standard form. -/
def startedBy (event : Event α) (solution : Solution α) : Solution α :=
  { solution with
    iterations := solution.iterations.modifyHead fun first => { first with event := event } }

end Solution

/-- At a problem in standard form the method of penalties and the simplex method
give the same fault or the same answer, but for the event that they name for the
first snapshot.  No arithmetic is involved, so this holds of doubles with all
their rounding. -/
theorem bigM_eq_simplex (options : BigM.Options α) (problem : Problem α)
    (valid : problem.validate = .ok ()) (standard : problem.checkStandardForm = .ok ()) :
    bigM options problem =
        (simplex options.limits problem).map (.startedBy (.penalized options.penalty)) ∧
      simplex options.limits problem = (bigM options problem).map (.startedBy .slackBasis) := by
  have form constraint (member : constraint ∈ problem.constraints) :=
    checkStandard_eq_ok_iff.mp (Checks.forM_eq_ok_iff.mp standard constraint member)
  have above : ∀ constraint ∈ problem.constraints, constraint.relation = .le :=
    fun constraint member => (form constraint member).1
  have normal := BigM.map_normalized fun constraint member => (form constraint member).2
  have start := BigM.eliminatePenalties_bounds above options.penalty
  simp only [bigM, simplex, valid, standard, normal, BigM.Counts.of_bounds above, Nat.add_zero,
    start, bind, Except.bind]
  cases run (primalRule options.limits.tolerance) options.limits.pivots 1
      (slackTableau problem) with
  | error fault => exact ⟨rfl, rfl⟩
  | ok finished =>
      dsimp only
      cases finished.verdict with
      | none => exact ⟨rfl, rfl⟩
      | some verdict =>
          cases verdict with
          | optimal | unbounded | infeasible => exact ⟨rfl, rfl⟩

/-- Two products in doubles, one of which has no room: its bound is the negative
zero. -/
def closedStock : Problem Float where
  variableNames := ["x", "y"]
  sense := .max
  objective := [3, 2]
  constraints := [⟨"R1", [1, 1], .le, 4⟩, ⟨"R2", [1, 0], .le, -0⟩]

theorem bigM_eq_simplex_closedStock :
    closedStock.validate = .ok () ∧ closedStock.checkStandardForm = .ok () ∧
      (simplex BigM.Options.standard.limits closedStock).map Solution.status = .ok .optimal ∧
      bigM .standard closedStock = (simplex BigM.Options.standard.limits closedStock).map
        (.startedBy (.penalized BigM.Options.standard.penalty)) ∧
      simplex BigM.Options.standard.limits closedStock =
        (bigM .standard closedStock).map (.startedBy .slackBasis) := by
  have valid : closedStock.validate = .ok () := by decide +kernel
  have standard : closedStock.checkStandardForm = .ok () := by decide +kernel
  have solved : (simplex BigM.Options.standard.limits closedStock).map Solution.status =
      .ok .optimal := by decide +kernel
  exact ⟨valid, standard, solved, bigM_eq_simplex .standard closedStock valid standard⟩

end Linear
end Optimum
