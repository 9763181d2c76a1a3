import Optimum.Proofs.Linear.PenaltyReading
import Optimum.Proofs.Linear.PenaltyStart
import Optimum.Proofs.Linear.SimplexAnswer
import Optimum.Proofs.Tableau.Tolerance

namespace Optimum
namespace Linear

open Scalar Tableau

/-!
# The run of the method of penalties

What the method returns is read off the last tableau of its run.  `PenaltyExit`
has one constructor for each way out, with what is known there, and
`bigM_exit` says that a valid problem always comes to one of them.
-/

variable {problem : Problem Rat} {options : BigM.Options Rat} {tolerance : Rat}
  {last : Tableau Rat} {solution : Solution Rat}

/-! ## Artificial columns that are left -/

namespace Problem

/-- The artificial columns that a tableau still gives a value above the
tolerance. -/
def artificialsLeft (problem : Problem Rat) (tolerance : Rat) (tableau : Tableau Rat) :
    List (NamedValue Rat) :=
  (columnValues tableau (((List.range problem.counts.artificial).map
    (problem.firstArtificial + ·)).filter fun column => (tableau.basicRow? column).isSome)).filter
      fun artificial => tolerance < artificial.value

theorem artificialsLeft_eq_nil_iff (nonneg : 0 ≤ tolerance) :
    problem.artificialsLeft tolerance last = [] ↔
      ∀ column < problem.dimension + problem.counts.total, problem.firstArtificial ≤ column →
        last.valueOf column ≤ tolerance := by
  simp only [artificialsLeft, columnValues, List.filter_eq_nil_iff, List.mem_map, List.mem_filter,
    List.mem_range, decide_eq_true_eq, not_lt]
  constructor
  · intro small column inside artificial
    obtain ⟨position, rfl⟩ := Nat.exists_eq_add_of_le artificial
    cases basic : last.basicRow? (problem.firstArtificial + position) with
    | none => simpa only [valueOf, basic] using nonneg
    | some row =>
        refine small _ ⟨_, ⟨⟨position, ?_, rfl⟩, by rw [basic]; rfl⟩, rfl⟩
        rw [firstArtificial, BigM.Counts.total] at inside
        omega
  · rintro small _ ⟨_, ⟨⟨position, inside, rfl⟩, -⟩, rfl⟩
    refine small _ ?_ (Nat.le_add_right _ _)
    rw [firstArtificial, BigM.Counts.total]
    omega

end Problem

/-! ## The ways out -/

/-- How the method comes from the last tableau to its answer.  Each case has
what the method has found out by then, and nothing about what it means. -/
inductive PenaltyExit (problem : Problem Rat) (tolerance : Rat) (last : Tableau Rat)
    (solution : Solution Rat) : Prop
  | unbounded (column : Nat) (enters : last.Enters tolerance column)
      (blocked : ∀ row < last.height, last.entry row column ≤ tolerance)
      (status : solution.status = .unbounded)
  | infeasible (satisfied : ∀ column < last.width, -tolerance ≤ last.entry last.height column)
      (left : problem.artificialsLeft tolerance last ≠ []) (status : solution.status = .infeasible)
  | optimal (satisfied : ∀ column < last.width, -tolerance ≤ last.entry last.height column)
      (cleared : problem.artificialsLeft tolerance last = [])
      (status : solution.status = .optimal)
      (values : solution.values = problem.tabulate last.valueOf)
      (objective : solution.objectiveValue = some (problem.sense.sign * last.objectiveValue))
  | iterationLimit (artificials : solution.artificials = problem.artificialsLeft tolerance last)
      (status : solution.status = .iterationLimit)
      (values : solution.values = problem.tabulate last.valueOf)
      (objective : solution.objectiveValue = some (problem.sense.sign * last.objectiveValue))

/-- What an answer keeps of the run that led to it.  The claims about the method
are shown of such runs, so the definition of the method is opened once. -/
structure IsPenaltyRun (problem : Problem Rat) (options : BigM.Options Rat) (last : Tableau Rat)
    (solution : Solution Rat) : Prop where
  recorded : ∃ pivots, solution.iterations =
      ⟨0, problem.penaltyStart options.penalty, .penalized options.penalty⟩ :: pivots ∧
    Trail (primalRule options.limits.tolerance) 1 (problem.penaltyStart options.penalty) pivots last
  exits : PenaltyExit problem options.limits.tolerance last solution

theorem bigM_exit (options : BigM.Options Rat) (valid : problem.validate = .ok ())
    (nonneg : 0 ≤ options.limits.tolerance) :
    ∃ solution last, bigM options problem = .ok solution ∧
      IsPenaltyRun problem options last solution := by
  have shaped := (Problem.validate_eq_ok_iff.mp valid).toWellShaped
  have based := problem.hasBasis_penaltyStart options.penalty shaped
  rcases (admissible_primalRule nonneg).run_reaches based options.limits.pivots 1 with
    ⟨finished, runs, -, stops⟩
  have recorded : ∃ pivots,
      (⟨0, problem.penaltyStart options.penalty, .penalized options.penalty⟩ ::
        finished.iterations : List (Iteration Rat)) =
        ⟨0, problem.penaltyStart options.penalty, .penalized options.penalty⟩ :: pivots ∧
      Trail (primalRule options.limits.tolerance) 1 (problem.penaltyStart options.penalty) pivots
        finished.last := ⟨_, rfl, trail_of_run runs⟩
  simp only [Problem.penaltyStart, Problem.penalized, Problem.firstArtificial, Problem.counts,
    Problem.normalForm] at runs
  simp only [bigM, valid, runs, bind, Except.bind]
  cases found : finished.verdict with
  | none =>
      refine ⟨_, finished.last, rfl, recorded, .iterationLimit rfl rfl ?_ rfl⟩
      exact map_value_columnValues finished.last problem
  | some verdict =>
      have chosen : PrimalMove options.limits.tolerance finished.last (.stop verdict) :=
        stops verdict found ▸ primalRule_move
      cases chosen with
      | unbounded column enters blocked =>
          exact ⟨_, finished.last, rfl, recorded, .unbounded column enters blocked rfl⟩
      | optimal satisfied =>
          dsimp only
          split
          · rename_i cleared
            refine ⟨_, finished.last, rfl, recorded, .optimal satisfied ?_ rfl ?_ rfl⟩
            · exact List.isEmpty_iff.mp cleared
            · exact map_value_columnValues finished.last problem
          · rename_i left
            refine ⟨_, finished.last, rfl, recorded, .infeasible satisfied ?_ rfl⟩
            exact fun cleared => left (List.isEmpty_iff.mpr cleared)

/-! ## What the snapshots of a run know -/

/-- A tableau of the run, whatever pivots led to it.  The elimination of the
penalties is a row operation too, so it does not matter here. -/
theorem reached_penalized (shaped : problem.WellShaped) {penalty : Rat}
    (reached : Reached (problem.penaltyStart penalty) last) :
    Reached (problem.penalized penalty) last :=
  ⟨(Problem.rowEquivalent_penaltyStart penalty shaped).trans reached.equivalent, reached.based⟩

namespace IsPenaltyRun

variable (ran : IsPenaltyRun problem options last solution) (shaped : problem.WellShaped)

include ran

/-- The last snapshot is the tableau that the answer is read from. -/
theorem getLast?_iterations :
    (solution.iterations.map Iteration.tableau).getLast? = some last := by
  rcases ran.recorded with ⟨pivots, recorded, trail⟩
  rw [recorded, List.map_cons, List.getLast?_cons, trail.getLast_map_tableau]

include shaped

theorem reached (nonneg : 0 ≤ options.limits.tolerance) :
    ∀ current ∈ solution.iterations.map Iteration.tableau,
      Reached (problem.penalized options.penalty) current := by
  have based := problem.hasBasis_penaltyStart options.penalty shaped
  rcases ran.recorded with ⟨pivots, recorded, trail⟩
  rw [recorded, List.map_cons, List.forall_mem_cons]
  refine ⟨reached_penalized shaped (Reached.refl based), fun current member => ?_⟩
  rcases List.mem_map.mp member with ⟨snapshot, listed, rfl⟩
  exact reached_penalized shaped
    (((admissible_primalRule nonneg).reached based trail).1 snapshot listed)

theorem reached_last (nonneg : 0 ≤ options.limits.tolerance) :
    Reached (problem.penalized options.penalty) last :=
  ran.reached shaped nonneg last (List.mem_of_getLast? ran.getLast?_iterations)

/-- Where the tolerance hides nothing, the run ends at a feasible basic
solution. -/
theorem feasible_last (nonneg : 0 ≤ options.limits.tolerance)
    (visible : ∀ current ∈ solution.iterations.map Iteration.tableau,
      Visible options.limits.tolerance current) : last.Feasible := by
  rcases ran.recorded with ⟨pivots, recorded, trail⟩
  rw [recorded] at visible
  exact trail.feasible nonneg (problem.hasBasis_penaltyStart options.penalty shaped)
    (problem.feasible_penaltyStart options.penalty shaped) visible

end IsPenaltyRun

end Linear
end Optimum
