import Mathlib.Algebra.Order.Field.Basic
import Mathlib.Data.Finset.Powerset
import Optimum.Proofs.Tableau.History

namespace Optimum
namespace Tableau

/-!
# How pivots move the objective

A pivot changes the objective value by the objective entry of its column times
the ratio of its row.  A pivot of the primal rule raises it unless the ratio is
zero.  Where the objective row has no negative entry, the dual rule makes only
the pivots that repair a right-hand side; those lower the objective value, if
they change it, and by the choice of the least ratio the objective row stays
without negative entries.

The objective value belongs to the set of basic columns, whatever pivots led to
it.  So where it rises with every pivot, no set of basic columns comes back, and
there are no more tableaus than there are such sets.
-/

variable {tableau start next first second : Tableau Rat} {row column : Nat}

theorem PivotsTo.objectiveValue_eq (step : tableau.PivotsTo row column next)
    (inside : row < tableau.height) :
    next.objectiveValue = tableau.objectiveValue -
      tableau.entry tableau.height column * (tableau.rhs row / tableau.entry row column) := by
  rw [objectiveValue_eq_rhs, objectiveValue_eq_rhs, rhs, rhs, step.height_eq, step.width_eq,
    step.entry_of_ne _ inside.ne', step.entry_pivotRow]
  rfl

/-! ## Pivots of the primal rule -/

/-- A positive ratio makes the objective rise.  With a ratio of zero it stays,
which is why a run may come back to a basis. -/
theorem PrimalMove.objectiveValue_lt (chosen : PrimalMove 0 tableau (.pivot row column))
    (step : tableau.PivotsTo row column next) (positive : 0 < tableau.rhs row) :
    tableau.objectiveValue < next.objectiveValue := by
  rcases chosen.pivot_pos (le_refl 0) with ⟨inside, -, pivotPositive⟩
  cases chosen with
  | pivot _ _ enters leaves =>
      have improves := enters.passed
      rw [neg_zero] at improves
      rw [step.objectiveValue_eq inside, lt_sub_comm, sub_self]
      exact mul_neg_of_neg_of_pos improves (div_pos positive pivotPositive)

/-! ## Pivots of the dual rule -/

/-- Whether no column improves the objective.  The dual rule keeps a tableau so
while it repairs the right-hand sides. -/
def DualFeasible (tableau : Tableau Rat) : Prop :=
  ∀ column < tableau.width, 0 ≤ tableau.entry tableau.height column

/-- A pivot of the dual ratio test, on a negative entry in a row with a negative
right-hand side. -/
structure RepairsTo (tableau : Tableau Rat) (row column : Nat) (next : Tableau Rat) : Prop where
  leaves : tableau.LeavesFirst 0 row
  enters : tableau.EntersFor 0 row column
  rhs_neg : tableau.rhs row < 0
  entry_neg : tableau.entry row column < 0
  objectiveValue_le : next.objectiveValue ≤ tableau.objectiveValue

namespace DualFeasible

theorem not_enters (dualFeasible : tableau.DualFeasible) : ¬ tableau.Enters 0 column := by
  intro enters
  have improves := enters.passed
  rw [neg_zero] at improves
  exact absurd improves (not_lt.mpr (dualFeasible column enters.lt))

/-- Where no column improves, the dual rule asks for no pivot of the primal
rule. -/
theorem leaves_and_enters (dualFeasible : tableau.DualFeasible)
    (chosen : DualMove 0 tableau (.pivot row column)) :
    tableau.LeavesFirst 0 row ∧ tableau.EntersFor 0 row column := by
  cases chosen with
  | pivot _ _ leaves enters => exact ⟨leaves, enters⟩
  | primal _ _ primal =>
      cases primal with
      | pivot _ _ enters _ => exact absurd enters dualFeasible.not_enters

section Step

variable (dualFeasible : tableau.DualFeasible) (leaves : tableau.LeavesFirst 0 row)
  (enters : tableau.EntersFor 0 row column) (step : tableau.PivotsTo row column next)

include dualFeasible leaves enters step

theorem repairsTo : tableau.RepairsTo row column next := by
  have negative := leaves.passed
  have pivotNegative := enters.passed
  rw [neg_zero] at negative pivotNegative
  refine ⟨leaves, enters, negative, pivotNegative, ?_⟩
  rw [step.objectiveValue_eq leaves.lt]
  exact sub_le_self _ (mul_nonneg (dualFeasible column enters.lt)
    (div_pos_of_neg_of_neg negative pivotNegative).le)

/-- The column with the least ratio takes no more from any objective entry than
there is. -/
theorem pivotsTo : next.DualFeasible := by
  have pivotNegative := (dualFeasible.repairsTo leaves enters step).entry_neg
  intro other inside
  rw [step.width_eq] at inside
  rw [step.height_eq, step.entry_of_ne _ leaves.lt.ne', step.entry_pivotRow, sub_nonneg]
  rcases le_or_gt 0 (tableau.entry row other) with rising | falling
  · have ratio := div_nonpos_of_nonneg_of_nonpos rising pivotNegative.le
    have product := mul_nonpos_of_nonneg_of_nonpos (dualFeasible column enters.lt) ratio
    exact product.trans (dualFeasible other inside)
  · have least := enters.least other inside (by rwa [neg_zero])
    rw [abs_div, abs_div, abs_of_neg pivotNegative, abs_of_neg falling,
      abs_of_nonneg (dualFeasible column enters.lt), abs_of_nonneg (dualFeasible other inside),
      le_div_iff₀ (neg_pos.mpr falling)] at least
    calc tableau.entry tableau.height column * (tableau.entry row other / tableau.entry row column)
        = tableau.entry tableau.height column / -tableau.entry row column *
            -tableau.entry row other := by
          rw [div_neg, neg_mul_neg, div_mul_eq_mul_div, mul_div_assoc]
      _ ≤ tableau.entry tableau.height other := least

end Step

/-- Where no column improves, the dual rule finds no ray of its problem. -/
theorem not_unbounded (dualFeasible : tableau.DualFeasible) :
    ¬ DualMove 0 tableau (.stop .unbounded) := by
  intro chosen
  cases chosen with
  | primal _ _ primal =>
      cases primal with
      | unbounded column enters _ => exact dualFeasible.not_enters enters

end DualFeasible

/-- A tableau of a run in which no column improves.  It adds to the invariant of
all runs what the dual rule keeps. -/
structure DualReached (start current : Tableau Rat) : Prop extends Reached start current where
  dualFeasible : current.DualFeasible

/-- There a pivot of the dual rule is a repair, and no column improves after it.
So the dual rule never goes on as the primal one. -/
theorem DualReached.advances (reached : DualReached start tableau)
    (move : dualRule 0 tableau = .pivot row column)
    (succeeds : tableau.pivot row column = .ok next) :
    DualReached start next ∧ tableau.RepairsTo row column next := by
  rcases reached.dualFeasible.leaves_and_enters (move ▸ dualRule_move) with ⟨leaves, enters⟩
  rcases (admissible_dualRule (le_refl 0)).pivotsTo reached.toReached move succeeds with
    ⟨step, after⟩
  exact ⟨⟨after, reached.dualFeasible.pivotsTo leaves enters step⟩,
    reached.dualFeasible.repairsTo leaves enters step⟩

section Trail

variable {index : Nat} {iterations : List (Iteration Rat)} {last : Tableau Rat}
  (trail : Trail (dualRule 0) index start iterations last) (reached : DualReached start start)

include trail reached

theorem DualReached.keeps :
    (∀ snapshot ∈ iterations, DualReached start snapshot.tableau) ∧ DualReached start last :=
  trail.keeps (fun _ _ _ _ reached move succeeds => (reached.advances move succeeds).1) reached

theorem DualReached.isChain (event : Event Rat) :
    (⟨0, start, event⟩ :: iterations).IsChain fun before after =>
      ∃ row column entering leaving,
        after.event = .pivot entering leaving (before.tableau.entry row column) row column ∧
          before.tableau.RepairsTo row column after.tableau := by
  refine trail.isChain (DualReached start)
    (fun before after row column reached move succeeds event => ?_) reached _ rfl
  rcases reached.advances move succeeds with ⟨later, repairs⟩
  exact ⟨later, row, column, _, _, event, repairs⟩

end Trail

/-! ## The sets of basic columns -/

/-- The columns of the basis, in no order.  A basic solution depends on these
columns only, and not on the rows that own them. -/
def basicSet (tableau : Tableau Rat) : Finset Nat :=
  tableau.basis.toFinset

namespace HasBasis

theorem mem_basicSet_iff (based : tableau.HasBasis) :
    column ∈ tableau.basicSet ↔ ∃ index < tableau.height, tableau.basic index = column := by
  rw [basicSet, List.mem_toFinset, List.mem_iff_getElem]
  constructor
  · rintro ⟨index, inside, rfl⟩
    exact ⟨index, based.length_basis ▸ inside, List.getD_eq_getElem _ _ inside⟩
  · rintro ⟨index, inside, rfl⟩
    have bounded : index < tableau.basis.length := based.length_basis.symm ▸ inside
    exact ⟨index, bounded, (List.getD_eq_getElem _ _ bounded).symm⟩

theorem card_basicSet (based : tableau.HasBasis) : tableau.basicSet.card = tableau.height := by
  rw [basicSet, List.toFinset_card_of_nodup based.nodup_basis, based.length_basis]

theorem basicSet_subset (based : tableau.HasBasis) :
    tableau.basicSet ⊆ Finset.range tableau.width := by
  intro column member
  exact Finset.mem_range.mpr (based.basis_lt column (List.mem_toFinset.mp member))

theorem valueOf_eq_zero (based : tableau.HasBasis) (outside : column ∉ tableau.basicSet) :
    tableau.valueOf column = 0 := by
  unfold valueOf
  cases found : tableau.basicRow? column with
  | none => rfl
  | some index =>
      have owned := based.basicRow?_eq_some_iff.mp found
      exact absurd (based.mem_basicSet_iff.mpr ⟨index, owned⟩) outside

theorem entry_height_eq_zero (based : tableau.HasBasis) (member : column ∈ tableau.basicSet) :
    tableau.entry tableau.height column = 0 := by
  rcases based.mem_basicSet_iff.mp member with ⟨index, inside, rfl⟩
  exact based.entry_basic_of_ne inside (Nat.le_refl _) inside.ne'

end HasBasis

/-- Two tableaus of a run with the same basic columns show the same objective
value, whatever the order of the rows. -/
theorem objectiveValue_eq_of_basicSet_eq (firstReached : Reached start first)
    (secondReached : Reached start second) (same : first.basicSet = second.basicSet) :
    first.objectiveValue = second.objectiveValue := by
  have solves := firstReached.equivalent.solves_iff.mp firstReached.based.solves_valueOf
  -- Where the objective row of the second is not zero, the basic solution of the first is.
  have charged : second.leftSide second.height first.valueOf = 0 := by
    refine Finset.sum_eq_zero fun column _ => ?_
    by_cases member : column ∈ second.basicSet
    · rw [secondReached.based.entry_height_eq_zero member, zero_mul]
    · rw [firstReached.based.valueOf_eq_zero (same ▸ member), mul_zero]
  calc first.objectiveValue
      = first.valueAt first.valueOf := firstReached.based.valueAt_valueOf.symm
    _ = start.valueAt first.valueOf := firstReached.equivalent.valueAt_eq solves
    _ = second.valueAt first.valueOf := (secondReached.equivalent.valueAt_eq solves).symm
    _ = second.objectiveValue := by
        rw [valueAt, charged, sub_zero, objectiveValue_eq_rhs]

/-- Snapshots of a run with different sets of basic columns are no more than there
are sets. -/
theorem length_le_choose {iterations : List (Iteration Rat)}
    (reached : ∀ snapshot ∈ iterations, Reached start snapshot.tableau)
    (distinct : (iterations.map fun snapshot => snapshot.tableau.basicSet).Nodup) :
    iterations.length ≤ start.width.choose start.height := by
  have contained : (iterations.map fun snapshot => snapshot.tableau.basicSet).toFinset ⊆
      (Finset.range start.width).powersetCard start.height := by
    intro columns member
    rcases List.mem_map.mp (List.mem_toFinset.mp member) with ⟨snapshot, listed, rfl⟩
    rcases reached snapshot listed with ⟨equivalent, based⟩
    rw [Finset.mem_powersetCard, ← equivalent.width_eq, ← equivalent.height_eq]
    exact ⟨based.basicSet_subset, based.card_basicSet⟩
  calc iterations.length
      = (iterations.map fun snapshot => snapshot.tableau.basicSet).toFinset.card := by
        rw [List.toFinset_card_of_nodup distinct, List.length_map]
    _ ≤ ((Finset.range start.width).powersetCard start.height).card := Finset.card_le_card contained
    _ = start.width.choose start.height := by
        rw [Finset.card_powersetCard, Finset.card_range]

/-! ## Positive right-hand sides -/

/-- Whether every right-hand side is positive, so that every pivot of the primal
rule leaves the basic solution. -/
def Nondegenerate (tableau : Tableau Rat) : Prop :=
  ∀ row < tableau.height, 0 < tableau.rhs row

instance (tableau : Tableau Rat) : Decidable tableau.Nondegenerate :=
  inferInstanceAs (Decidable (∀ row < tableau.height, 0 < tableau.rhs row))

/-- Snapshots whose objective value rises all the way, so that no set of basic
columns comes back. -/
structure Ascends (iterations : List (Iteration Rat)) : Prop where
  rises : iterations.IsChain fun before after =>
    before.tableau.objectiveValue < after.tableau.objectiveValue
  distinct : (iterations.map fun snapshot => snapshot.tableau.basicSet).Nodup

theorem Ascends.of_reached {iterations : List (Iteration Rat)}
    (reached : ∀ snapshot ∈ iterations, Reached start snapshot.tableau)
    (rises : iterations.IsChain fun before after =>
      before.tableau.objectiveValue < after.tableau.objectiveValue) : Ascends iterations := by
  have ordered := List.isChain_iff_pairwise.mp
    ((List.isChain_map fun snapshot : Iteration Rat => snapshot.tableau.objectiveValue).mpr rises)
  refine ⟨rises, List.pairwise_map.mpr ?_⟩
  -- The same set would show the same value, however far apart the snapshots are.
  refine (List.pairwise_map.mp ordered).imp_of_mem fun earlier later less same => less.ne ?_
  exact objectiveValue_eq_of_basicSet_eq (reached _ earlier) (reached _ later) same

namespace Trail

variable {index : Nat} {iterations : List (Iteration Rat)} {last : Tableau Rat}

/-- If all its snapshots are positive, a run of the primal rule ascends, and there
are no more snapshots than sets of basic columns. -/
theorem ascends (trail : Trail (primalRule 0) index start iterations last) (based : start.HasBasis)
    (event : Event Rat) (positive : ∀ snapshot ∈ ⟨0, start, event⟩ :: iterations,
      snapshot.tableau.Nondegenerate) :
    Ascends (⟨0, start, event⟩ :: iterations) ∧
      iterations.length + 1 ≤ start.width.choose start.height := by
  have admissible := admissible_primalRule (le_refl 0)
  have steps : (⟨0, start, event⟩ :: iterations).IsChain fun before after =>
      before.tableau.Nondegenerate →
        before.tableau.objectiveValue < after.tableau.objectiveValue := by
    refine trail.isChain (Reached start)
      (fun before after row column reached move succeeds _ => ?_) (Reached.refl based) _ rfl
    have chosen : PrimalMove 0 before.tableau (.pivot row column) := move ▸ primalRule_move
    rcases admissible.pivotsTo reached move succeeds with ⟨step, later⟩
    exact ⟨later, fun above =>
      chosen.objectiveValue_lt step (above row (chosen.pivot_pos (le_refl 0)).1)⟩
  have reached : ∀ snapshot ∈ ⟨0, start, event⟩ :: iterations, Reached start snapshot.tableau :=
    List.forall_mem_cons.mpr ⟨Reached.refl based, (admissible.reached based trail).1⟩
  have ascends := Ascends.of_reached reached
    (steps.imp_of_mem_imp fun before _ listed _ rises => rises (positive before listed))
  exact ⟨ascends, length_le_choose reached ascends.distinct⟩

end Trail

end Tableau
end Optimum
