import Optimum.Proofs.Linear.PenaltyRates

namespace Optimum
namespace Linear

open Scalar Tableau

/-!
# When the verdicts of the method of penalties can be trusted

The method calls a problem infeasible if its last tableau still needs an
artificial column, and unbounded if no row limits a column that looks
improving.  Both verdicts rest on the penalty: where it is too small against
the objective, or the tolerance too large against the coefficients, they can
be wrong.  Where the penalty decides, the first one is right, and the second
one is right about every problem that has a feasible point.
-/

variable {problem : Problem Rat} {penalty tolerance : Rat} {last : Tableau Rat} {column : Nat}

namespace Problem

section Readings

variable (reached : Reached (problem.penalized penalty) last) (shaped : problem.WellShaped)
  (nonneg : 0 ≤ tolerance) (decides : problem.PenaltyDecides tolerance last)

include reached shaped nonneg decides

/-- If no column looks improving, the artificial total is the least possible;
so it can only be left if no point is feasible. -/
theorem not_feasible_of_artificialsLeft (feasible : last.Feasible)
    (satisfied : ∀ column < last.width, -tolerance ≤ last.entry last.height column)
    (left : problem.artificialsLeft tolerance last ≠ []) (values : List Rat) :
    ¬ problem.Feasible values := by
  intro possible
  have total := artificialTotal_of_solves reached shaped (solves_extension possible shaped)
  rw [artificialTotal_extension] at total
  have basicNonneg : ∀ column, 0 ≤ last.valueOf column := spread_nonneg reached.based feasible
  have added : 0 ≤ ∑ raised ∈ Finset.range last.width,
      problem.extension values raised * problem.shortfallRate last raised := by
    refine Finset.sum_nonneg fun raised member => ?_
    have inside := Finset.mem_range.mp member
    refine mul_nonneg (extension_nonneg possible raised) ?_
    by_contra falls
    exact absurd (decides.falling raised inside (not_le.mp falls)) (not_lt.mpr (satisfied raised inside))
  have cleared : problem.artificialTotal last.valueOf = 0 := by
    have least : 0 ≤ problem.artificialTotal last.valueOf := artificialTotal_nonneg basicNonneg
    linarith
  refine left ((artificialsLeft_eq_nil_iff nonneg).mpr fun column inside artificial => ?_)
  rw [eq_zero_of_cleared basicNonneg cleared artificial inside]
  exact nonneg

/-- If a column looks improving and no row limits it, its edge is a direction
that improves the problem itself. -/
theorem exists_direction_of_blocked (enters : last.Enters tolerance column)
    (blocked : ∀ row < last.height, last.entry row column ≤ tolerance) :
    ∃ direction, problem.Recedes direction ∧
      problem.sense.Better (problem.evaluate direction) 0 := by
  have inside := enters.lt
  have edge_nonneg := reached.based.edge_nonneg fun row bounded =>
    decides.visible.nonpos bounded inside.le (blocked row bounded)
  have cleared : problem.artificialTotal (last.edge column) = 0 := by
    refine le_antisymm (not_lt.mp fun rises => ?_) (artificialTotal_nonneg edge_nonneg)
    exact absurd enters.passed (not_lt.mpr (decides.rising column inside rises))
  have balanced : ∀ row < last.height, last.leftSide row (last.edge column) = 0 :=
    fun row bounded => reached.based.leftSide_edge inside bounded
  refine ⟨problem.tabulate (last.edge column), ?_, ?_⟩
  · exact recedes_of_balanced edge_nonneg cleared shaped
      (reached.equivalent.leftSide_eq_zero balanced)
  · have entry := entry_height_reached reached shaped inside
    have passed := enters.passed
    rw [shortfallRate, cleared, mul_zero, zero_sub] at entry
    rw [entry] at passed
    rw [Sense.better_iff, mul_zero, evaluate_tabulate, ← mul_assoc, problem.sense.sign_mul_sign,
      one_mul]
    exact nonneg.trans_lt (neg_lt_neg_iff.mp passed)

end Readings

end Problem

/-! ## The verdicts -/

section Verdicts

variable {options : BigM.Options Rat} {solution : Solution Rat}

/-- Whether the penalty decides in every tableau of a run.  It can be checked on
the recorded snapshots, so it is a condition on an answer. -/
def Solution.PenaltyDecides (problem : Problem Rat) (tolerance : Rat) (solution : Solution Rat) :
    Prop :=
  ∀ snapshot ∈ solution.iterations, problem.PenaltyDecides tolerance snapshot.tableau

instance (problem : Problem Rat) (tolerance : Rat) (solution : Solution Rat) :
    Decidable (solution.PenaltyDecides problem tolerance) :=
  inferInstanceAs (Decidable (∀ snapshot ∈ solution.iterations,
    problem.PenaltyDecides tolerance snapshot.tableau))

namespace IsPenaltyRun

variable (ran : IsPenaltyRun problem options last solution) (shaped : problem.WellShaped)
  (nonneg : 0 ≤ options.limits.tolerance)
  (decides : solution.PenaltyDecides problem options.limits.tolerance)

include ran shaped nonneg decides

omit shaped nonneg in
theorem decides_last : problem.PenaltyDecides options.limits.tolerance last := by
  have member := List.mem_of_getLast? ran.getLast?_iterations
  rcases List.mem_map.mp member with ⟨snapshot, listed, rfl⟩
  exact decides snapshot listed

theorem feasible_of_decides : last.Feasible := by
  refine ran.feasible_last shaped nonneg fun current member => ?_
  rcases List.mem_map.mp member with ⟨snapshot, listed, rfl⟩
  exact (decides snapshot listed).visible

theorem not_feasible_of_infeasible (status : solution.status = .infeasible) (values : List Rat) :
    ¬ problem.Feasible values := by
  have reached := ran.reached_last shaped nonneg
  cases ran.exits with
  | infeasible satisfied left _ =>
      exact Problem.not_feasible_of_artificialsLeft reached shaped nonneg
        (ran.decides_last decides) (ran.feasible_of_decides shaped nonneg decides)
        satisfied left values
  | unbounded _ _ _ other | optimal _ _ other | iterationLimit _ other =>
      rw [status] at other
      cases other

theorem unbounded_of_feasible (status : solution.status = .unbounded) {values : List Rat}
    (feasible : problem.Feasible values) : problem.Unbounded := by
  have reached := ran.reached_last shaped nonneg
  cases ran.exits with
  | unbounded column enters blocked _ =>
      rcases Problem.exists_direction_of_blocked reached shaped nonneg
        (ran.decides_last decides) enters blocked with ⟨direction, recedes, improves⟩
      exact (recedes.improvingRay improves feasible).unbounded feasible
  | infeasible _ _ other | optimal _ _ other | iterationLimit _ other =>
      rw [status] at other
      cases other

/-- Without artificial columns the last basic solution is feasible.  Where the
penalty decides, the tolerance hides no value that an artificial column may
still have. -/
theorem exists_feasible_of_cleared
    (cleared : problem.artificialsLeft options.limits.tolerance last = []) :
    ∃ values, problem.Feasible values := by
  have reached := ran.reached_last shaped nonneg
  have feasible := ran.feasible_of_decides shaped nonneg decides
  have visible := (ran.decides_last decides).visible
  have total := Problem.artificialTotal_valueOf_eq_zero reached feasible nonneg visible cleared
  exact ⟨_, Problem.feasible_valueOf_of_cleared reached shaped feasible total⟩

end IsPenaltyRun

/-- With a penalty that is large enough and no tolerance, every answer of the
method comes from a run in which the penalty decides. -/
theorem exists_penalty_decides (valid : problem.validate = .ok ()) :
    ∃ threshold, ∀ penalty, threshold ≤ penalty → ∀ limit solution,
      bigM ⟨⟨limit, 0⟩, penalty⟩ problem = .ok solution → solution.PenaltyDecides problem 0 := by
  have shaped := (Problem.validate_eq_ok_iff.mp valid).toWellShaped
  rcases Problem.exists_threshold shaped with ⟨threshold, enough⟩
  refine ⟨threshold, fun penalty large limit solution answers snapshot listed => ?_⟩
  rcases bigM_exit ⟨⟨limit, 0⟩, penalty⟩ valid (le_refl 0) with ⟨found, last, result, ran⟩
  rw [answers] at result
  cases result
  exact enough penalty large _ (ran.reached shaped (le_refl 0) _ (List.mem_map_of_mem listed))

/-- What follows from a run in which the penalty decides holds of every answer
with such a run, and from some threshold of the penalty on of every answer. -/
theorem bigM_trusted (conclusion : Rat → Solution Rat → Prop) (valid : problem.validate = .ok ())
    (follows : ∀ (options : BigM.Options Rat) (last : Tableau Rat) (solution : Solution Rat),
      IsPenaltyRun problem options last solution → 0 ≤ options.limits.tolerance →
      solution.PenaltyDecides problem options.limits.tolerance →
      conclusion options.limits.tolerance solution) :
    (∀ options : BigM.Options Rat, 0 ≤ options.limits.tolerance →
      ∃ solution, bigM options problem = .ok solution ∧
        (solution.PenaltyDecides problem options.limits.tolerance →
          conclusion options.limits.tolerance solution)) ∧
    ∃ threshold, ∀ penalty, threshold ≤ penalty → ∀ limit,
      ∃ solution, bigM ⟨⟨limit, 0⟩, penalty⟩ problem = .ok solution ∧ conclusion 0 solution := by
  constructor
  · intro options nonneg
    rcases bigM_exit options valid nonneg with ⟨solution, last, answers, ran⟩
    exact ⟨solution, answers, fun decides => follows options last solution ran nonneg decides⟩
  · rcases exists_penalty_decides valid with ⟨threshold, enough⟩
    refine ⟨threshold, fun penalty large limit => ?_⟩
    rcases bigM_exit ⟨⟨limit, 0⟩, penalty⟩ valid (le_refl 0) with ⟨solution, last, answers, ran⟩
    have decides := enough penalty large limit solution answers
    exact ⟨solution, answers, follows _ last solution ran (le_refl 0) decides⟩

/-- A problem that is called infeasible has no feasible point, if the penalty
decides; and from some threshold on every penalty does.  The condition is
needed, since a small penalty may be cheaper than the only feasible point. -/
theorem bigM_infeasible_sound (problem : Problem Rat) (valid : problem.validate = .ok ()) :
    (∀ options : BigM.Options Rat, 0 ≤ options.limits.tolerance →
      ∃ solution, bigM options problem = .ok solution ∧
        (solution.PenaltyDecides problem options.limits.tolerance →
          solution.status = .infeasible → ∀ values, ¬ problem.Feasible values)) ∧
    ∃ threshold, ∀ penalty, threshold ≤ penalty → ∀ limit,
      ∃ solution, bigM ⟨⟨limit, 0⟩, penalty⟩ problem = .ok solution ∧
        (solution.status = .infeasible → ∀ values, ¬ problem.Feasible values) := by
  have shaped := (Problem.validate_eq_ok_iff.mp valid).toWellShaped
  refine bigM_trusted (fun _ solution => solution.status = .infeasible →
    ∀ values, ¬ problem.Feasible values) valid fun options last solution ran nonneg decides status => ?_
  exact ran.not_feasible_of_infeasible shaped nonneg decides status

/-- Two totals that exclude one another. -/
def contradictory : Problem Rat where
  variableNames := ["x1", "x2"]
  sense := .max
  objective := [1, 1]
  constraints := [⟨"R1", [1, 1], .eq, 2⟩, ⟨"R2", [1, 1], .eq, 5⟩]

theorem bigM_infeasible_sound_contradictory :
    contradictory.validate = .ok () ∧ ∀ values, ¬ contradictory.Feasible values := by
  have valid : contradictory.validate = .ok () := by decide +kernel
  have nonneg : (0 : Rat) ≤ (BigM.Options.standard : BigM.Options Rat).limits.tolerance := by
    decide +kernel
  rcases (bigM_infeasible_sound contradictory valid).1 .standard nonneg with
    ⟨solution, answers, sound⟩
  have run : (bigM .standard contradictory).map (fun solution => (solution.status,
      decide (solution.PenaltyDecides contradictory
        (BigM.Options.standard : BigM.Options Rat).limits.tolerance))) =
      .ok (.infeasible, true) := by decide +kernel
  rw [answers] at run
  rcases Prod.mk.inj (Except.ok.inj run) with ⟨status, decides⟩
  exact ⟨valid, sound (of_decide_eq_true decides) status⟩

/-- One variable with a fixed value and a cost above the standard penalty, so
that the penalty does not decide. -/
def costly : Problem Rat where
  variableNames := ["x1"]
  sense := .min
  objective := [10000000]
  constraints := [⟨"R1", [1], .eq, 1⟩]

/-- A penalty that is too small leads to a wrong verdict.  The artificial column
is cheaper than the variable and stays in the basis. -/
theorem bigM_infeasible_costly :
    costly.validate = .ok () ∧
      (bigM .standard costly).map Solution.status = .ok .infeasible ∧ costly.Feasible [1] := by
  decide +kernel

/-! ## Unbounded problems -/

/-- What the verdict establishes: there is no limit to the objective if there
is a feasible point, and there is one if no artificial column is left. -/
structure Solution.UnboundedIfFeasible (problem : Problem Rat) (tolerance : Rat)
    (solution : Solution Rat) : Prop where
  of_feasible : ∀ values, problem.Feasible values → problem.Unbounded
  of_cleared : ∀ snapshot ∈ solution.iterations.getLast?,
    problem.artificialsLeft tolerance snapshot.tableau = [] → problem.Unbounded

theorem IsPenaltyRun.unboundedIfFeasible (ran : IsPenaltyRun problem options last solution)
    (shaped : problem.WellShaped) (nonneg : 0 ≤ options.limits.tolerance)
    (decides : solution.PenaltyDecides problem options.limits.tolerance)
    (status : solution.status = .unbounded) :
    solution.UnboundedIfFeasible problem options.limits.tolerance := by
  have of_feasible : ∀ values, problem.Feasible values → problem.Unbounded :=
    fun _ feasible => ran.unbounded_of_feasible shaped nonneg decides status feasible
  refine ⟨of_feasible, fun snapshot final cleared => ?_⟩
  have same := ran.getLast?_iterations
  rw [List.getLast?_map, Option.mem_def.mp final] at same
  cases same
  rcases ran.exists_feasible_of_cleared shaped nonneg decides cleared with ⟨values, feasible⟩
  exact of_feasible values feasible

/-- A problem that is called unbounded is so if it has a feasible point, and if
the penalty decides; from some threshold on every penalty does.  That there is a
feasible point has to be asked for as long as artificial columns are left. -/
theorem bigM_unbounded_sound (problem : Problem Rat) (valid : problem.validate = .ok ()) :
    (∀ options : BigM.Options Rat, 0 ≤ options.limits.tolerance →
      ∃ solution, bigM options problem = .ok solution ∧
        (solution.PenaltyDecides problem options.limits.tolerance →
          solution.status = .unbounded →
            solution.UnboundedIfFeasible problem options.limits.tolerance)) ∧
    ∃ threshold, ∀ penalty, threshold ≤ penalty → ∀ limit,
      ∃ solution, bigM ⟨⟨limit, 0⟩, penalty⟩ problem = .ok solution ∧
        (solution.status = .unbounded → solution.UnboundedIfFeasible problem 0) := by
  have shaped := (Problem.validate_eq_ok_iff.mp valid).toWellShaped
  refine bigM_trusted (fun tolerance solution => solution.status = .unbounded →
    solution.UnboundedIfFeasible problem tolerance) valid
    fun options last solution ran nonneg decides status => ?_
  exact ran.unboundedIfFeasible shaped nonneg decides status

/-- A quantity that is free to grow above a bound from below. -/
def surplus : Problem Rat where
  variableNames := ["x1", "x2"]
  sense := .max
  objective := [1, 0]
  constraints := [⟨"R1", [1, 1], .ge, 2⟩]

theorem bigM_unbounded_sound_surplus :
    surplus.validate = .ok () ∧ surplus.Unbounded := by
  have valid : surplus.validate = .ok () := by decide +kernel
  have nonneg : (0 : Rat) ≤ (BigM.Options.standard : BigM.Options Rat).limits.tolerance := by
    decide +kernel
  rcases (bigM_unbounded_sound surplus valid).1 .standard nonneg with ⟨solution, answers, sound⟩
  have run : (bigM .standard surplus).map (fun solution => (solution.status,
      decide (solution.PenaltyDecides surplus
        (BigM.Options.standard : BigM.Options Rat).limits.tolerance))) =
      .ok (.unbounded, true) := by decide +kernel
  rw [answers] at run
  rcases Prod.mk.inj (Except.ok.inj run) with ⟨status, decides⟩
  have feasible : surplus.Feasible [2, 0] := by decide +kernel
  exact ⟨valid, (sound (of_decide_eq_true decides) status).of_feasible [2, 0] feasible⟩

/-- A free variable beside two bounds that exclude one another. -/
def overdrawn : Problem Rat where
  variableNames := ["x1", "x2"]
  sense := .max
  objective := [1, 0]
  constraints := [⟨"R1", [0, 1], .ge, 3⟩, ⟨"R2", [0, 1], .le, 2⟩]

/-- The verdict does not look at the artificial columns that are left.  An edge
of the penalised problem says nothing about a problem without points. -/
theorem bigM_unbounded_overdrawn :
    overdrawn.validate = .ok () ∧
      (bigM .standard overdrawn).map Solution.status = .ok .unbounded ∧
      ∀ values, ¬ overdrawn.Feasible values := by
  refine ⟨by decide +kernel, by decide +kernel, fun values feasible => ?_⟩
  have below : 3 ≤ dot [0, 1] values := feasible.holds ⟨"R1", [0, 1], .ge, 3⟩ (by decide)
  have above : dot [0, 1] values ≤ 2 := feasible.holds ⟨"R2", [0, 1], .le, 2⟩ (by decide)
  exact absurd (below.trans above) (by decide)

end Verdicts

end Linear
end Optimum
