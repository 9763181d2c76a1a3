import Optimum.Proofs.Tableau.Improvement

namespace Optimum
namespace Tableau

/-!
# The primal rule stays feasible

The ratio test chooses the row that would be the first to lose its right-hand
side.  Without a tolerance no positive entry is passed over, so from a feasible
basis every pivot leads to a feasible basis, and the objective value never
falls.  A ratio of zero is no exception: then neither the right-hand sides nor
the value change.
-/

variable {start tableau next : Tableau Rat} {row column : Nat}

/-- A pivot as the primal rule makes it: the column with the most negative
objective entry enters, the row with the least ratio to a positive entry leaves,
each the first of several, and the objective value does not fall. -/
structure AdvancesTo (tableau : Tableau Rat) (row column : Nat) (next : Tableau Rat) : Prop where
  enters : tableau.Enters 0 column
  leaves : tableau.Leaves 0 column row
  entry_pos : 0 < tableau.entry row column
  objectiveValue_le : tableau.objectiveValue ≤ next.objectiveValue

theorem PrimalMove.advancesTo (chosen : PrimalMove 0 tableau (.pivot row column))
    (feasible : tableau.Feasible) (step : tableau.PivotsTo row column next) :
    tableau.AdvancesTo row column next := by
  rcases chosen.pivot_pos (le_refl 0) with ⟨inside, -, positive⟩
  cases chosen with
  | pivot _ _ enters leaves =>
      have improves : tableau.entry tableau.height column < 0 := by
        simpa only [neg_zero] using enters.passed
      have ratio : 0 ≤ tableau.rhs row / tableau.entry row column :=
        div_nonneg (feasible row inside) positive.le
      refine ⟨enters, leaves, positive, ?_⟩
      rw [step.objectiveValue_eq inside, le_sub_self_iff]
      exact mul_nonpos_of_nonpos_of_nonneg improves.le ratio

/-- A tableau of a run that shows a feasible basic solution.  It adds to the
invariant of all runs what the primal rule keeps. -/
structure PrimalReached (start current : Tableau Rat) : Prop extends Reached start current where
  feasible : current.Feasible

/-- A pivot of the primal rule leads from there to the next such tableau.  The
least ratio is why no right-hand side becomes negative. -/
theorem PrimalReached.advances (reached : PrimalReached start tableau)
    (move : primalRule 0 tableau = .pivot row column)
    (succeeds : tableau.pivot row column = .ok next) :
    PrimalReached start next ∧ tableau.AdvancesTo row column next := by
  have chosen : PrimalMove 0 tableau (.pivot row column) := move ▸ primalRule_move
  rcases (admissible_primalRule (le_refl 0)).pivotsTo reached.toReached move succeeds with
    ⟨step, after⟩
  have feasible : next.Feasible :=
    reached.feasible.of_visible (le_refl 0) chosen (fun _ _ positive => positive) step
  exact ⟨⟨after, feasible⟩, chosen.advancesTo reached.feasible step⟩

/-- From a feasible basis the primal rule runs to its end or its limit.  Each
snapshot shows a feasible basic solution and comes from the one before, the
start included, by a pivot as the rule makes it. -/
theorem run_primalRule_feasible (start : Tableau Rat) (based : start.HasBasis)
    (feasible : start.Feasible) (limit index : Nat) (event : Event Rat) :
    ∃ finished, run (primalRule 0) limit index start = .ok finished ∧
      (∀ snapshot ∈ finished.iterations, snapshot.tableau.Feasible) ∧
      (⟨0, start, event⟩ :: finished.iterations).IsChain fun before after =>
        ∃ row column entering leaving,
          after.event = .pivot entering leaving (before.tableau.entry row column) row column ∧
            before.tableau.pivot row column = .ok after.tableau ∧
            before.tableau.AdvancesTo row column after.tableau := by
  have first : PrimalReached start start := ⟨Reached.refl based, feasible⟩
  rcases (admissible_primalRule (le_refl 0)).run_reaches based limit index with
    ⟨finished, runs, -⟩
  have trail := trail_of_run runs
  have kept := trail.keeps (fun _ _ _ _ reached move succeeds =>
    (PrimalReached.advances reached move succeeds).1) first
  refine ⟨finished, runs, fun snapshot member => (kept.1 snapshot member).feasible, ?_⟩
  refine trail.isChain (PrimalReached start)
    (fun before after row column reached move succeeds event => ?_) first _ rfl
  rcases reached.advances move succeeds with ⟨later, advances⟩
  exact ⟨later, row, column, _, _, event, succeeds, advances⟩

/-- Two limits that tie for the first column, so that the second pivot has a ratio
of zero. -/
def tiedStart : Tableau Rat where
  columns := ["x", "y", "s1", "s2"]
  rows := [[1, 0, 1, 0, 2], [1, 1, 0, 1, 2]]
  objective := [-2, -1, 0, 0, 0]
  basis := [2, 3]

theorem run_primalRule_feasible_tiedStart :
    tiedStart.HasBasis ∧ tiedStart.Feasible ∧
      ∃ finished, run (primalRule 0) 10 1 tiedStart = .ok finished ∧
        finished.iterations.length = 2 ∧
        (∀ snapshot ∈ finished.iterations, snapshot.tableau.Feasible) ∧
        (⟨0, tiedStart, .slackBasis⟩ :: finished.iterations).IsChain fun before after =>
          ∃ row column entering leaving,
            after.event = .pivot entering leaving (before.tableau.entry row column) row column ∧
              before.tableau.pivot row column = .ok after.tableau ∧
              before.tableau.AdvancesTo row column after.tableau := by
  have based : tiedStart.HasBasis :=
    ⟨⟨by decide, by decide, by decide⟩, by decide, by decide +kernel⟩
  have feasible : tiedStart.Feasible := by
    change ∀ row < tiedStart.height, 0 ≤ tiedStart.rhs row
    decide +kernel
  have counts : (run (primalRule 0) 10 1 tiedStart).map (fun finished =>
      finished.iterations.length) = .ok 2 := by decide +kernel
  rcases run_primalRule_feasible tiedStart based feasible 10 1 .slackBasis with
    ⟨finished, runs, kept, chain⟩
  rw [runs] at counts
  exact ⟨based, feasible, finished, runs, Except.ok.inj counts, kept, chain⟩

end Tableau
end Optimum
