import Mathlib.Data.List.Chain
import Optimum.Proofs.Assignment.Adjustment
import Optimum.Proofs.Transport.Acceptance

namespace Optimum
namespace Assignment

open Scalar

/-!
# The law of the recorded steps

Up to the last step, which only reorders columns, every recorded table differs
from the costs by an amount for each row and each column and has no negative
entry.  A recorded cover contains all zeros, and an adjustment follows a cover
that leaves a cell open, by whose entry it lowers the total.

The law of a list of steps is closed under appending, so it is proved for the
few steps of one round and carried through both phases by induction on their
rounds.
-/

variable {costs matrix : List (List Rat)} {cover : Cover} {size : Nat} {tolerance : Rat}

namespace Step

/-- Whether the table of a step has its columns in another order. -/
def Reorders (step : Step Rat) : Prop :=
  ∃ order, step.action = .diagonalize order

/-- Whether the lines of a step, if it records a cover, contain all zeros of its
table. -/
def CoversZeros (tolerance : Rat) (size : Nat) (step : Step Rat) : Prop :=
  ∀ rows columns, step.action = .cover rows columns → ∀ row < size, ∀ column < size,
    |cell step.matrix row column| < tolerance → row ∈ rows ∨ column ∈ columns

/-- An adjustment after a step that records a cover: its amount is the entry of
a cell on no line, no less than the tolerance, and the total falls. -/
structure AdjustedTo (tolerance : Rat) (size : Nat) (amount : Rat) (before after : Step Rat) :
    Prop where
  tolerance_le : tolerance ≤ amount
  exists_open : ∃ rows columns, before.action = .cover rows columns ∧
    ∃ row < size, ∃ column < size, row ∉ rows ∧ column ∉ columns ∧
      cell before.matrix row column = amount
  total_lt : total after.matrix < total before.matrix

end Step

/-- The law of a list of steps: the tables are the costs less amounts of rows
and columns, covers contain all zeros, and an adjustment comes after a cover. -/
structure Lawful (costs : List (List Rat)) (size : Nat) (tolerance : Rat)
    (steps : List (Step Rat)) : Prop where
  reduced : ∀ step ∈ steps, ¬ step.Reorders → Reduced costs step.matrix size
  covers : ∀ step ∈ steps, step.CoversZeros tolerance size
  /-- The steps before and after each other. -/
  adjusts : steps.IsChain fun before after => ∀ amount, after.action = .adjustment amount →
    Step.AdjustedTo tolerance size amount before after
  /-- No adjustment is without a step before it. -/
  opens : ∀ step, steps.head? = some step → ∀ amount, step.action ≠ .adjustment amount

namespace Lawful

theorem nil : Lawful costs size tolerance [] where
  reduced := fun _ impossible => absurd impossible List.not_mem_nil
  covers := fun _ impossible => absurd impossible List.not_mem_nil
  adjusts := List.isChain_nil
  opens := fun _ impossible => nomatch impossible

theorem single {step : Step Rat} (reduced : ¬ step.Reorders → Reduced costs step.matrix size)
    (covers : step.CoversZeros tolerance size)
    (opens : ∀ amount, step.action ≠ .adjustment amount) :
    Lawful costs size tolerance [step] where
  reduced := fun _ member => List.mem_singleton.mp member ▸ reduced
  covers := fun _ member => List.mem_singleton.mp member ▸ covers
  adjusts := List.isChain_singleton step
  opens := fun _ same => Option.some.inj same ▸ opens

theorem append {first second : List (Step Rat)} (firstLawful : Lawful costs size tolerance first)
    (secondLawful : Lawful costs size tolerance second) :
    Lawful costs size tolerance (first ++ second) where
  reduced := fun step member =>
    (List.mem_append.mp member).elim (firstLawful.reduced step) (secondLawful.reduced step)
  covers := fun step member =>
    (List.mem_append.mp member).elim (firstLawful.covers step) (secondLawful.covers step)
  adjusts := by
    refine firstLawful.adjusts.append secondLawful.adjusts ?_
    intro before _ after begins amount adjusts
    exact absurd adjusts (secondLawful.opens after begins amount)
  opens := by
    cases first with
    | nil => exact secondLawful.opens
    | cons step rest => exact firstLawful.opens

/-- A step that records neither a cover nor an adjustment. -/
theorem cons {step : Step Rat} {steps : List (Step Rat)}
    (reduced : ¬ step.Reorders → Reduced costs step.matrix size)
    (noCover : ∀ rows columns, step.action ≠ .cover rows columns)
    (noAdjustment : ∀ amount, step.action ≠ .adjustment amount)
    (rest : Lawful costs size tolerance steps) : Lawful costs size tolerance (step :: steps) :=
  (single reduced (fun rows columns same => absurd same (noCover rows columns))
    noAdjustment).append rest

end Lawful

/-! ## One round -/

theorem coversZeros_coverStep (zeroCover : ZeroCover tolerance matrix size cover) :
    (coverStep cover matrix).CoversZeros tolerance size := by
  intro rows columns same row rowInside column columnInside small
  cases same
  exact (zeroCover.covers row rowInside column columnInside small).imp
    List.mem_toFinset.mp List.mem_toFinset.mp

theorem lawful_coverStep (reduced : Reduced costs matrix size)
    (zeroCover : ZeroCover tolerance matrix size cover) :
    Lawful costs size tolerance [coverStep cover matrix] :=
  .single (fun _ => reduced) (coversZeros_coverStep zeroCover)
    fun _ impossible => nomatch impossible

theorem lawful_round (reduced : Reduced costs matrix size)
    (zeroCover : ZeroCover tolerance matrix size cover) (short : cover.lineCount < size)
    (positive : 0 < tolerance) :
    Lawful costs size tolerance [coverStep cover matrix, adjustmentStep cover matrix] where
  reduced := by
    intro step member _
    rcases List.mem_cons.mp member with rfl | later
    · exact reduced
    · rw [List.mem_singleton.mp later]
      exact reduced.adjustmentStep zeroCover.fits
  covers := by
    intro step member
    rcases List.mem_cons.mp member with rfl | later
    · exact coversZeros_coverStep zeroCover
    · rw [List.mem_singleton.mp later]
      exact fun _ _ impossible => nomatch impossible
  adjusts := by
    refine List.isChain_pair.mpr fun amount same => ?_
    cases same
    refine ⟨tolerance_le_amount reduced zeroCover short, ⟨_, _, rfl, ?_⟩,
      total_adjustmentStep_lt reduced zeroCover short positive⟩
    rcases exists_least_open reduced.square zeroCover.fits short with
      ⟨row, rowInside, column, columnInside, rowOpen, columnOpen, found⟩
    exact ⟨row, rowInside, column, columnInside,
      fun listed => rowOpen (List.mem_toFinset.mpr listed),
      fun listed => columnOpen (List.mem_toFinset.mpr listed), found⟩
  opens := by
    intro step begins amount adjusts
    cases begins
    cases adjusts

/-! ## Both phases -/

variable {options : Options Rat} {budget : Nat} {finished : Progress Rat}

theorem Reduced.lawful_adjustUntilCovered (reduced : Reduced costs matrix size)
    (positive : 0 < options.tolerance)
    (succeeds : Assignment.adjustUntilCovered options budget matrix = .ok finished) :
    Lawful costs size options.tolerance finished.steps := by
  fun_induction Assignment.adjustUntilCovered options budget matrix generalizing finished with
  | case1 budget matrix cover =>
      cases succeeds
      exact lawful_coverStep reduced (zeroCover_cover reduced.square _ _)
  | case2 matrix cover => cases succeeds
  | case3 matrix cover short budget step =>
      rename_i inductionHypothesis
      rcases Checks.bind_eq_ok_iff.mp succeeds with ⟨later, continued, same⟩
      cases same
      have zeroCover := zeroCover_cover reduced.square options.strategy options.tolerance
      rw [reduced.square.length_eq, not_le] at short
      have kept := inductionHypothesis (reduced.adjustmentStep zeroCover.fits) continued
      exact (lawful_round reduced zeroCover short positive).append kept

theorem Reduced.lawful_adjustUntilMatched (reduced : Reduced costs matrix size)
    (positive : 0 < options.tolerance)
    (succeeds : Assignment.adjustUntilMatched options budget matrix = .ok finished) :
    Lawful costs size options.tolerance finished.steps := by
  fun_induction Assignment.adjustUntilMatched options budget matrix generalizing finished with
  | case1 budget matrix matching =>
      cases succeeds
      exact .nil
  | case2 matrix matching => cases succeeds
  | case3 matrix matching incomplete budget cover step =>
      rename_i inductionHypothesis
      rcases Checks.bind_eq_ok_iff.mp succeeds with ⟨later, continued, same⟩
      cases same
      have zeroCover := zeroCover_coverOfMatching reduced.square options.tolerance matching
      have short := lineCount_coverOfMatching_lt reduced.square incomplete
      have kept := inductionHypothesis (reduced.adjustmentStep zeroCover.fits) continued
      exact (lawful_round reduced zeroCover short positive).append kept

/-! ## Valid matrices -/

namespace CostMatrix

variable {matrix : CostMatrix Rat}

/-- A valid matrix is a rectangle with a label for every line, whatever it says
of its padding. -/
theorem unpadded_of_validate (valid : matrix.validate = .ok ()) :
    Unpadded { matrix with realRows := matrix.height, realColumns := matrix.width } := by
  have made : withLabels matrix.rowLabels matrix.columnLabels matrix.costs =
      .ok { matrix with realRows := matrix.height, realColumns := matrix.width } :=
    Checks.bind_eq_ok_iff.mpr ⟨(), valid, rfl⟩
  exact unpadded_of_withLabels made

theorem square_balance_of_validate (valid : matrix.validate = .ok ()) :
    Square matrix.balance.costs matrix.size :=
  (unpadded_of_validate valid).square_balance

theorem nonneg_of_validate (valid : matrix.validate = .ok ()) :
    ∀ entries ∈ matrix.costs, ∀ cost ∈ entries, 0 ≤ cost := by
  unfold validate at valid
  split at valid
  · cases valid
  · rcases Checks.bind_eq_ok_iff.mp valid with ⟨⟨⟩, rows, -⟩
    intro entries member
    rcases List.mem_iff_getElem?.mp member with ⟨row, found⟩
    have indexed : (entries, row) ∈ matrix.costs.zipIdx := List.mem_zipIdx_iff_getElem?.mpr found
    have checked := Checks.forM_eq_ok_iff.mp rows _ indexed
    rw [checkRow, if_neg (not_not.mpr (checkRow_eq_ok checked))] at checked
    exact Transport.checkCosts_eq_ok_iff.mp checked

theorem mem_balance {entries : List Rat} {cost : Rat} (member : entries ∈ matrix.balance.costs)
    (among : cost ∈ entries) : (∃ before ∈ matrix.costs, cost ∈ before) ∨ cost = 0 := by
  rcases List.mem_append.mp member with real | padding
  · rcases List.mem_map.mp real with ⟨before, inside, rfl⟩
    rcases List.mem_append.mp among with kept | added
    · exact .inl ⟨before, inside, List.mem_of_mem_take kept⟩
    · exact .inr (List.mem_replicate.mp added).2
  · rw [(List.mem_replicate.mp padding).2] at among
    exact .inr (List.mem_replicate.mp among).2

theorem nonneg_balance (valid : matrix.validate = .ok ()) :
    ∀ entries ∈ matrix.balance.costs, ∀ cost ∈ entries, 0 ≤ cost := by
  intro entries member cost among
  rcases mem_balance member among with ⟨before, inside, kept⟩ | rfl
  · exact nonneg_of_validate valid before inside cost kept
  · exact le_refl 0

theorem reduced_balance (valid : matrix.validate = .ok ()) :
    Reduced matrix.balance.costs matrix.balance.costs matrix.size where
  toShifted := .refl (square_balance_of_validate valid)
  nonneg := by
    intro row rowInside column columnInside
    rcases (square_balance_of_validate valid).exists_cell rowInside columnInside with
      ⟨entries, found, entered⟩
    exact nonneg_balance valid entries (List.mem_of_getElem? found) _ (List.mem_of_getElem? entered)

end CostMatrix

/-! ## Whole runs -/

/-- The steps of every run on a valid matrix obey the law, for both strategies,
every positive tolerance and every limit of adjustments.  The law speaks of
neighbouring steps, so it composes along the phases of a run. -/
theorem hungarian_lawful {matrix : CostMatrix Rat} (valid : matrix.validate = .ok ())
    (options : Options Rat) (positive : 0 < options.tolerance) (solution : Solution Rat)
    (solved : hungarian options matrix = .ok solution) :
    Lawful matrix.balance.costs matrix.size options.tolerance solution.steps := by
  rcases Checks.bind_eq_ok_iff.mp solved with ⟨⟨⟩, -, started⟩
  rcases Checks.bind_eq_ok_iff.mp started with ⟨covered, firstPhase, rest⟩
  rcases Checks.bind_eq_ok_iff.mp rest with ⟨matched, secondPhase, same⟩
  cases same
  have balanced := CostMatrix.reduced_balance valid
  have rowReduced := reduced_reduceRows balanced.square
  have reduced := reduced_start balanced.square
  have coveredLawful := reduced.lawful_adjustUntilCovered positive firstPhase
  have matchedLawful :=
    (reduced.adjustUntilCovered firstPhase).lawful_adjustUntilMatched positive secondPhase
  refine .append (.append (.append ?_ coveredLawful) matchedLawful) ?_
  · refine .cons (fun _ => balanced) nofun nofun ?_
    refine .cons (fun _ => rowReduced) nofun nofun ?_
    exact .cons (fun _ => reduced) nofun nofun .nil
  · exact .cons (fun kept => absurd ⟨_, rfl⟩ kept) nofun nofun .nil

/-- Four rows whose zeros need four lines in the greedy cover, although three of
them are all that can be matched. -/
def fourRows : CostMatrix Rat where
  rowLabels := ["R1", "R2", "R3", "R4"]
  columnLabels := ["C1", "C2", "C3", "C4"]
  costs := [[1, 0, 2, 2], [2, 0, 0, 0], [0, 0, 2, 1], [0, 2, 1, 2]]
  realRows := 4
  realColumns := 4

theorem hungarian_lawful_fourRows :
    fourRows.validate = .ok () ∧ (0 : Rat) < 1 / 10 ∧
      ∃ solution, hungarian ⟨.greedy, 10, 1 / 10⟩ fourRows = .ok solution ∧
        .adjustment 1 ∈ solution.steps.map Step.action ∧
        Lawful fourRows.balance.costs fourRows.size (1 / 10) solution.steps := by
  have valid : fourRows.validate = .ok () := by decide +kernel
  have positive : (0 : Rat) < 1 / 10 := by decide +kernel
  have answers : (hungarian ⟨.greedy, 10, 1 / 10⟩ fourRows).map (fun solution =>
      decide (.adjustment 1 ∈ solution.steps.map Step.action)) = .ok true := by decide +kernel
  rcases Checks.map_eq_ok_iff.mp answers with ⟨solution, solved, adjusts⟩
  exact ⟨valid, positive, solution, solved, of_decide_eq_true adjusts,
    hungarian_lawful valid ⟨.greedy, 10, 1 / 10⟩ positive solution solved⟩

end Assignment
end Optimum
