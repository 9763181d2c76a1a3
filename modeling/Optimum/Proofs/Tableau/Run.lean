import Optimum.Proofs.Tableau.Basis
import Optimum.Proofs.Tableau.Choice
import Optimum.Tableau.Run

namespace Optimum
namespace Tableau

/-!
# Rules and runs

`PrimalMove` and `DualMove` list what the two rules can ask for, and what is
known of the tableau in each case.  `run_keeps` carries an invariant of single
pivots through a run of any length and says where the run stops; with the
invariants of this module no pivot of a run fails.
-/

variable {tableau : Tableau Rat} {tolerance : Rat}

/-! ## The moves of the rules -/

/-- The column that the primal rule lets enter: the first of those with the most
negative objective entry. -/
def Enters (tableau : Tableau Rat) (tolerance : Rat) (column : Nat) : Prop :=
  IsFirstLeast tableau.width (fun j => tableau.entry tableau.height j < -tolerance)
    (tableau.entry tableau.height) column

/-- The row that leaves for a column by the ratio test: the first of those with
the least ratio, which is as far as the column can be raised. -/
def Leaves (tableau : Tableau Rat) (tolerance : Rat) (column row : Nat) : Prop :=
  IsFirstLeast tableau.height (fun i => tolerance < tableau.entry i column)
    (fun i => tableau.rhs i / tableau.entry i column) row

/-- The row with a negative right-hand side that leaves first. -/
def LeavesFirst (tableau : Tableau Rat) (tolerance : Rat) (row : Nat) : Prop :=
  IsFirstLeast tableau.height (fun i => tableau.rhs i < -tolerance) tableau.rhs row

/-- The column that enters for a row by the dual ratio test: the first of those
whose objective entry is used up first. -/
def EntersFor (tableau : Tableau Rat) (tolerance : Rat) (row column : Nat) : Prop :=
  IsFirstLeast tableau.width (fun j => tableau.entry row j < -tolerance)
    (fun j => |tableau.entry tableau.height j / tableau.entry row j|) column

inductive PrimalMove (tolerance : Rat) (tableau : Tableau Rat) : Move → Prop
  | optimal (satisfied : ∀ j < tableau.width, -tolerance ≤ tableau.entry tableau.height j) :
      PrimalMove tolerance tableau (.stop .optimal)
  | unbounded (column : Nat) (enters : tableau.Enters tolerance column)
      (blocked : ∀ i < tableau.height, tableau.entry i column ≤ tolerance) :
      PrimalMove tolerance tableau (.stop .unbounded)
  | pivot (row column : Nat) (enters : tableau.Enters tolerance column)
      (leaves : tableau.Leaves tolerance column row) :
      PrimalMove tolerance tableau (.pivot row column)

inductive DualMove (tolerance : Rat) (tableau : Tableau Rat) : Move → Prop
  | infeasible (row : Nat) (leaves : tableau.LeavesFirst tolerance row)
      (blocked : ∀ j < tableau.width, -tolerance ≤ tableau.entry row j) :
      DualMove tolerance tableau (.stop .infeasible)
  | pivot (row column : Nat) (leaves : tableau.LeavesFirst tolerance row)
      (enters : tableau.EntersFor tolerance row column) :
      DualMove tolerance tableau (.pivot row column)
  | primal (move : Move) (repaired : ∀ i < tableau.height, -tolerance ≤ tableau.rhs i)
      (primal : PrimalMove tolerance tableau move) : DualMove tolerance tableau move

theorem primalRule_move : PrimalMove tolerance tableau (primalRule tolerance tableau) := by
  unfold primalRule
  cases entering : tableau.enteringColumn? tolerance with
  | none =>
      rw [enteringColumn?_eq] at entering
      exact .optimal fun j inside => not_lt.mp (not_passes_of_leastIndex_eq_none entering inside)
  | some column =>
      rw [enteringColumn?_eq] at entering
      have enters := isFirstLeast_of_leastIndex_eq_some entering
      dsimp only
      cases leaving : tableau.leavingRow? column tolerance with
      | none =>
          rw [leavingRow?_eq] at leaving
          exact .unbounded column enters fun i inside =>
            not_lt.mp (not_passes_of_leastIndex_eq_none leaving inside)
      | some row =>
          rw [leavingRow?_eq] at leaving
          exact .pivot row column enters (isFirstLeast_of_leastIndex_eq_some leaving)

theorem dualRule_move : DualMove tolerance tableau (dualRule tolerance tableau) := by
  unfold dualRule
  cases leaving : tableau.dualLeavingRow? tolerance with
  | none =>
      rw [dualLeavingRow?_eq] at leaving
      exact .primal _ (fun i inside =>
        not_lt.mp (not_passes_of_leastIndex_eq_none leaving inside)) primalRule_move
  | some row =>
      rw [dualLeavingRow?_eq] at leaving
      have leaves := isFirstLeast_of_leastIndex_eq_some leaving
      dsimp only
      cases entering : tableau.dualEnteringColumn? row tolerance with
      | none =>
          rw [dualEnteringColumn?_eq] at entering
          exact .infeasible row leaves fun j inside =>
            not_lt.mp (not_passes_of_leastIndex_eq_none entering inside)
      | some column =>
          rw [dualEnteringColumn?_eq] at entering
          exact .pivot row column leaves (isFirstLeast_of_leastIndex_eq_some entering)

/-- A pivot of the primal rule lies in the tableau, on a positive entry. -/
theorem PrimalMove.pivot_pos (nonneg : 0 ≤ tolerance) {row column : Nat}
    (chosen : PrimalMove tolerance tableau (.pivot row column)) :
    row < tableau.height ∧ column < tableau.width ∧ 0 < tableau.entry row column := by
  cases chosen with
  | pivot _ _ enters leaves => exact ⟨leaves.lt, enters.lt, nonneg.trans_lt leaves.passed⟩

/-- A pivot of the dual rule lies in the tableau, on an entry that is not
zero. -/
theorem DualMove.pivot_ne_zero (nonneg : 0 ≤ tolerance) {row column : Nat}
    (chosen : DualMove tolerance tableau (.pivot row column)) :
    row < tableau.height ∧ column < tableau.width ∧ tableau.entry row column ≠ 0 := by
  cases chosen with
  | pivot _ _ leaves enters =>
      refine ⟨leaves.lt, enters.lt, ne_of_lt ?_⟩
      exact enters.passed.trans_le (neg_nonpos.mpr nonneg)
  | primal _ _ primal =>
      rcases primal.pivot_pos nonneg with ⟨rowInside, columnInside, positive⟩
      exact ⟨rowInside, columnInside, positive.ne'⟩

/-! ## Invariants of a run -/

/-- What holds of every tableau that a run of pivots comes to, whatever the rule
is that asks for them.  It is the invariant behind all statements about the
tableau methods. -/
structure Reached (start current : Tableau Rat) : Prop where
  equivalent : RowEquivalent start current
  based : current.HasBasis

theorem Reached.refl (based : tableau.HasBasis) : Reached tableau tableau :=
  ⟨RowEquivalent.refl tableau, based⟩

/-- A pivot on an entry that is not zero succeeds and goes on from where the
run has come. -/
theorem Reached.pivot {start : Tableau Rat} (reached : Reached start tableau) {row column : Nat}
    (rowInside : row < tableau.height) (columnInside : column < tableau.width)
    (nonzero : tableau.entry row column ≠ 0) :
    ∃ next, tableau.pivot row column = .ok next ∧ tableau.PivotsTo row column next ∧
      Reached start next := by
  rcases pivot_eq_ok reached.based.toShaped rowInside nonzero with ⟨next, succeeds, step⟩
  refine ⟨next, succeeds, step, ?_, ?_⟩
  · exact reached.equivalent.trans (step.rowEquivalent rowInside nonzero)
  · exact step.hasBasis reached.based rowInside columnInside nonzero

/-- Whether the basic solution has no negative value.  The values that are not
right-hand sides are zero. -/
def Feasible (tableau : Tableau Rat) : Prop :=
  ∀ index < tableau.height, 0 ≤ tableau.rhs index

/-- The ratio test keeps the right-hand sides from becoming negative, if it
passes over no positive entry of the column. -/
theorem Feasible.of_visible (feasible : tableau.Feasible) (nonneg : 0 ≤ tolerance)
    {row column : Nat} {next : Tableau Rat}
    (chosen : PrimalMove tolerance tableau (.pivot row column))
    (visible : ∀ index < tableau.height, 0 < tableau.entry index column →
      tolerance < tableau.entry index column)
    (step : tableau.PivotsTo row column next) : next.Feasible := by
  rcases chosen.pivot_pos nonneg with ⟨rowInside, -, positive⟩
  have ratio_nonneg : 0 ≤ tableau.rhs row / tableau.entry row column :=
    div_nonneg (feasible row rowInside) positive.le
  intro index inside
  rw [step.height_eq] at inside
  rw [rhs, step.width_eq]
  by_cases same : index = row
  · rw [same, step.entry_pivotRow]
    exact ratio_nonneg
  · rw [step.entry_of_ne index same, step.entry_pivotRow]
    rcases le_or_gt (tableau.entry index column) 0 with small | large
    · have product := mul_nonpos_of_nonpos_of_nonneg small ratio_nonneg
      exact sub_nonneg.mpr (product.trans (feasible index inside))
    · cases chosen with
      | pivot _ _ enters leaves =>
          have least := leaves.least index inside (visible index inside large)
          rw [le_div_iff₀ large, mul_comm] at least
          exact sub_nonneg.mpr least

/-! ## Runs -/

/-- A run of a rule whose pivots succeed and keep an invariant comes to an end
with that invariant.  It has a verdict only if the rule stops there with it. -/
theorem run_keeps {rule : Tableau Rat → Move} {Invariant : Tableau Rat → Prop}
    (advances : ∀ tableau, Invariant tableau → ∀ row column, rule tableau = .pivot row column →
      ∃ next, tableau.pivot row column = .ok next ∧ Invariant next)
    (limit index : Nat) (start : Tableau Rat) (invariant : Invariant start) :
    ∃ finished, run rule limit index start = .ok finished ∧ Invariant finished.last ∧
      ∀ verdict, finished.verdict = some verdict → rule finished.last = .stop verdict := by
  induction limit generalizing index start with
  | zero =>
      unfold run
      cases move : rule start with
      | pivot row column => exact ⟨_, rfl, invariant, by simp⟩
      | stop verdict =>
          cases verdict with
          | optimal => exact ⟨_, rfl, invariant, by simp [move]⟩
          | unbounded => exact ⟨_, rfl, invariant, by simp⟩
          | infeasible => exact ⟨_, rfl, invariant, by simp⟩
  | succ limit inductionHypothesis =>
      unfold run
      cases move : rule start with
      | stop verdict => exact ⟨_, rfl, invariant, by simp [move]⟩
      | pivot row column =>
          rcases advances start invariant row column move with ⟨next, succeeds, kept⟩
          rcases inductionHypothesis (index + 1) next kept with ⟨continued, runs, final, stops⟩
          simp only [succeeds, runs, bind, Except.bind]
          exact ⟨_, rfl, final, stops⟩

end Tableau
end Optimum
