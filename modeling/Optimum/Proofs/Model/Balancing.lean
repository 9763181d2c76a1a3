import Optimum.Proofs.Model.Methods
import Optimum.Proofs.Transport.Repair

namespace Optimum

/-!
# What balancing changes

A model may be solved with the request to balance it first.  The request makes
a difference in one case only: a transport model whose totals differ is refused
without it, and answered for a repaired problem with it.  For every other
model, method and fault the two answers are the same.

Only the northwest corner finds a problem out of balance.  The methods for
linear models refuse for other reasons, and the Hungarian method fails only
when its budget of adjustments is used up.
-/

namespace Assignment

variable {α : Type} [Scalar α] {options : Options α} {cause : SolveError α}

theorem adjustUntilCovered_eq_error {budget : Nat} {matrix : List (List α)}
    (fails : adjustUntilCovered options budget matrix = .error cause) :
    cause = .adjustmentLimit options.maxAdjustments := by
  fun_induction adjustUntilCovered options budget matrix with
  | case1 => cases fails
  | case2 =>
      cases fails
      rfl
  | case3 _ _ _ _ _ inductionHypothesis =>
      rcases Checks.bind_eq_error_iff.mp fails with continued | ⟨finished, -, impossible⟩
      · exact inductionHypothesis continued
      · cases impossible

theorem adjustUntilMatched_eq_error {budget : Nat} {matrix : List (List α)}
    (fails : adjustUntilMatched options budget matrix = .error cause) :
    cause = .adjustmentLimit options.maxAdjustments := by
  fun_induction adjustUntilMatched options budget matrix with
  | case1 => cases fails
  | case2 =>
      cases fails
      rfl
  | case3 _ _ _ _ _ _ inductionHypothesis =>
      rcases Checks.bind_eq_error_iff.mp fails with continued | ⟨finished, -, impossible⟩
      · exact inductionHypothesis continued
      · cases impossible

/-- On a valid matrix the Hungarian method fails only at its limit.  The last
zeros always hold an assignment. -/
theorem hungarian_eq_error {matrix : CostMatrix α} (valid : matrix.validate = .ok ())
    (fails : hungarian options matrix = .error cause) :
    cause = .adjustmentLimit options.maxAdjustments := by
  rcases Checks.bind_eq_error_iff.mp fails with invalid | ⟨⟨⟩, -, started⟩
  · rw [valid] at invalid
    cases invalid
  · rcases Checks.bind_eq_error_iff.mp started with uncovered | ⟨covered, -, rest⟩
    · exact adjustUntilCovered_eq_error uncovered
    · rcases Checks.bind_eq_error_iff.mp rest with unmatched | ⟨matched, -, impossible⟩
      · exact adjustUntilMatched_eq_error unmatched
      · cases impossible

end Assignment

namespace Model

open Optimum.Language

variable {compiled : Compiled Rat} {method : Option Method} {name : String}

/-- Whether a model is refused because its totals differ. -/
def Unbalanced (result : Except (CompileError Rat) (Outcome Rat)) : Prop :=
  ∃ model supply demand, result = .error (.unsolvable model (.unbalanced supply demand))

/-- What the request to balance changes: nothing, unless a table of transports
is refused because its totals differ. -/
structure BalancesOnly (compiled : Compiled Rat) (method : Option Method) : Prop where
  same : ¬ Unbalanced (solve compiled method false) →
    solve compiled method true = solve compiled method false
  repaired : Unbalanced (solve compiled method false) →
    ∃ name problem solution, compiled = .transport name problem ∧ method = none ∧
      solve compiled method true = .ok (.transport name solution) ∧
      problem.Repairs solution.problem

/-! ## Models that cannot be out of balance -/

theorem Refuses.ne_unbalanced {problem : Linear.Problem Rat} {asked : Method}
    {cause : SolveError Rat} (refuses : Refuses problem asked cause) (supply demand : Rat) :
    cause ≠ .unbalanced supply demand := by
  cases refuses with
  | notAbove | negative | equation | notPlanar | noVertices | tooMany => exact nofun

theorem not_unbalanced_lp {problem : Linear.Problem Rat} (valid : problem.validate = .ok ()) :
    ¬ Unbalanced (solve (.lp name problem) method false) := by
  rintro ⟨model, supply, demand, fails⟩
  rcases refuses_of_error valid (solve_lp_eq method ▸ fails) with ⟨cause, same, refuses⟩
  exact refuses.ne_unbalanced supply demand (CompileError.unsolvable.inj same).2.symm

theorem not_unbalanced_assignment {matrix : Assignment.CostMatrix Rat}
    (valid : matrix.validate = .ok ()) :
    ¬ Unbalanced (solve (.assignment name matrix) method false) := by
  rintro ⟨model, supply, demand, fails⟩
  cases method with
  | some asked => cases fails
  | none =>
      rcases blame_eq_error_iff.mp fails with ⟨cause, failed, same⟩
      cases same
      cases Assignment.hungarian_eq_error valid (Checks.map_eq_error_iff.mp failed)

/-! ## Transport models -/

theorem solve_transport_balanced {problem : Transport.Problem Rat}
    (balanced : problem.isBalanced = true) :
    solve (.transport name problem) method true = solve (.transport name problem) method false := by
  simp only [solve, problem.balanced_eq_self balanced, if_true, Bool.false_eq_true, if_false]

theorem solve_transport_repaired {problem : Transport.Problem Rat}
    (valid : problem.validate = .ok ()) (unbalanced : problem.isBalanced = false) :
    ∃ solution, solve (.transport name problem) none true = .ok (.transport name solution) ∧
      problem.Repairs solution.problem := by
  have repairs := Transport.Problem.repairs_balanced
    (Transport.Problem.validate_eq_ok_iff.mp valid) unbalanced
  rcases Transport.northwest_eq_ok Transport.standardTolerance
      (Transport.Problem.validate_eq_ok_iff.mpr repairs.accepted)
      (Transport.Problem.isBalanced_of_totals_eq repairs.totals_eq) with
    ⟨solution, answers, same⟩
  refine ⟨solution, ?_, same ▸ repairs⟩
  exact blame_eq_ok_iff.mpr (Checks.map_eq_ok_iff.mpr ⟨solution, answers, rfl⟩)

theorem balancesOnly_transport {problem : Transport.Problem Rat}
    (valid : problem.validate = .ok ()) : BalancesOnly (.transport name problem) method := by
  cases method with
  | some asked =>
      -- A method that is asked for is rejected before the problem is looked at.
      refine ⟨fun _ => rfl, ?_⟩
      rintro ⟨model, supply, demand, fails⟩
      cases fails
  | none =>
      cases totals : problem.isBalanced with
      | true =>
          refine ⟨fun _ => solve_transport_balanced totals, ?_⟩
          rintro ⟨model, supply, demand, fails⟩
          rcases Transport.northwest_eq_ok Transport.standardTolerance valid totals with
            ⟨solution, answers, -⟩
          rcases blame_eq_error_iff.mp fails with ⟨cause, failed, -⟩
          rw [Checks.map_eq_error_iff] at failed
          cases answers.symm.trans failed
      | false =>
          have refused : Unbalanced (solve (.transport name problem) none false) :=
            ⟨name, problem.totalSupply, problem.totalDemand, blame_eq_error_iff.mpr
              ⟨_, Checks.map_eq_error_iff.mpr
                (Transport.northwest_eq_unbalanced _ valid totals), rfl⟩⟩
          refine ⟨fun accepted => absurd refused accepted, fun _ => ?_⟩
          rcases solve_transport_repaired valid totals with ⟨solution, answers, repairs⟩
          exact ⟨name, problem, solution, rfl, rfl, answers, repairs⟩

/-! ## All models -/

/-- The request to balance changes the answers to tables out of balance, and no
other answer.  It is looked at for tables of transports only, and balancing one
of them cannot fail. -/
theorem solve_balancesOnly (registry : Registry Rat) (key : String)
    (compiles : registry.compile key = .ok compiled) (method : Option Method) :
    BalancesOnly compiled method := by
  have valid := Registry.valid_of_compile compiles
  cases compiled with
  | lp name problem =>
      exact ⟨fun _ => rfl, fun refused => absurd refused (not_unbalanced_lp valid)⟩
  | assignment name matrix =>
      exact ⟨fun _ => rfl, fun refused => absurd refused (not_unbalanced_assignment valid)⟩
  | transport name problem => exact balancesOnly_transport valid

/-- Two plants that make more than two shops want. -/
def surplusModel : TransportModel Rat where
  span := default
  name := "t"
  sources := none
  destinations := none
  supply := some [20, 30]
  demand := some [10, 25]
  costs := some [[2, 3], [5, 1]]

theorem solve_balancesOnly_surplusModel :
    ∃ compiled, (Registry.empty.add (.transport surplusModel)).compile "t" = .ok compiled ∧
      Unbalanced (solve compiled none false) ∧ BalancesOnly compiled none := by
  let problem : Transport.Problem Rat :=
    ⟨["S1", "S2"], ["D1", "D2"], [20, 30], [10, 25], [[2, 3], [5, 1]]⟩
  have compiles : (Registry.empty.add (.transport surplusModel)).compile "t" =
      .ok (.transport "t" problem) := by decide +kernel
  have refused : solve (.transport "t" problem) none false =
      .error (.unsolvable "t" (.unbalanced 50 35)) := by decide +kernel
  exact ⟨_, compiles, ⟨"t", 50, 35, refused⟩, solve_balancesOnly _ "t" compiles none⟩

end Model
end Optimum
