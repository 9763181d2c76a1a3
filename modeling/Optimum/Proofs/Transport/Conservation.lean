import Mathlib.Algebra.BigOperators.Fin
import Mathlib.Algebra.Order.Group.Abs
import Optimum.Proofs.Transport.Acceptance
import Optimum.Proofs.Transport.Accounts

namespace Optimum
namespace Transport

open Assignment Scalar

/-!
# The northwest corner conserves goods

No more leaves a source than it has and no more reaches a destination than it
wants.  A walk ends where all sources or all destinations have been left, with
no more than the tolerance written off at each.  Since both sides moved the
same amount, what is missing on the other side is what was written off and the
difference of the totals, so no single line lacks more than that.
-/

/-- What a plan of a problem is to be: no amount is negative, no row and no
column holds more than is supplied and demanded, little is missing, and the cost
is that of the plan. -/
structure Solution.Conserves (problem : Problem Rat) (tolerance : Rat)
    (solution : Solution Rat) : Prop where
  sized : Sized solution.allocation problem.supply.length problem.demand.length
  nonneg : ∀ entries ∈ solution.allocation, ∀ amount ∈ entries, 0 ≤ amount
  rowTotal_le : ∀ row < problem.supply.length,
    rowTotal solution.allocation problem.demand.length row ≤ problem.supply.getD row 0
  columnTotal_le : ∀ column < problem.demand.length,
    columnTotal solution.allocation problem.supply.length column ≤ problem.demand.getD column 0
  supply_near : ∀ row < problem.supply.length,
    problem.supply.getD row 0 - rowTotal solution.allocation problem.demand.length row ≤
      |problem.totalSupply - problem.totalDemand| +
        (max problem.supply.length problem.demand.length : Nat) * tolerance
  demand_near : ∀ column < problem.demand.length,
    problem.demand.getD column 0 - columnTotal solution.allocation problem.supply.length column ≤
      |problem.totalSupply - problem.totalDemand| +
        (max problem.supply.length problem.demand.length : Nat) * tolerance
  totalCost_eq : solution.totalCost = ∑ row ∈ Finset.range problem.supply.length,
    ∑ column ∈ Finset.range problem.demand.length,
      cell solution.allocation row column * cell problem.costs row column
  exact : problem.totalSupply = problem.totalDemand → tolerance = 0 →
    (∀ row < problem.supply.length,
      rowTotal solution.allocation problem.demand.length row = problem.supply.getD row 0) ∧
    ∀ column < problem.demand.length,
      columnTotal solution.allocation problem.supply.length column = problem.demand.getD column 0

/-! ## What is missing on each side -/

namespace Accounts

variable {tolerance : Rat} {amounts remaining others othersRemaining : List Rat}
  {moved othersMoved : Nat → Rat} {position othersPosition : Nat}

theorem sum_shortfall (amounts : List Rat) (moved : Nat → Rat) :
    ∑ line ∈ Finset.range amounts.length, shortfall amounts moved line =
      sum amounts - ∑ line ∈ Finset.range amounts.length, moved line := by
  rw [sum_eq_sum_range, ← Finset.sum_sub_distrib]
  rfl

/-- A side that was left altogether lacks no more than was written off.  Each
line is left once, with no more than the tolerance. -/
theorem sum_shortfall_le (accounts : Accounts tolerance amounts remaining moved position)
    (finished : amounts.length ≤ position) :
    ∑ line ∈ Finset.range amounts.length, shortfall amounts moved line ≤
      amounts.length * tolerance := by
  calc ∑ line ∈ Finset.range amounts.length, shortfall amounts moved line
      ≤ ∑ _line ∈ Finset.range amounts.length, tolerance := by
        refine Finset.sum_le_sum fun line member => ?_
        have inside := Finset.mem_range.mp member
        exact accounts.writtenOff line inside (inside.trans_le finished)
    _ = amounts.length * tolerance := by
        rw [Finset.sum_const, Finset.card_range, nsmul_eq_mul]

/-- If one side was left altogether, no line of the other side lacks more than
was written off and the difference of the totals. -/
theorem shortfall_le_of_finished (accounts : Accounts tolerance amounts remaining moved position)
    (finished : amounts.length ≤ position)
    (opposite : Accounts tolerance others othersRemaining othersMoved othersPosition)
    (same : ∑ line ∈ Finset.range amounts.length, moved line =
      ∑ line ∈ Finset.range others.length, othersMoved line)
    {line : Nat} (inside : line < others.length) :
    shortfall others othersMoved line ≤ |sum amounts - sum others| + amounts.length * tolerance := by
  have missing := accounts.sum_shortfall_le finished
  rw [sum_shortfall] at missing
  calc shortfall others othersMoved line
      ≤ ∑ other ∈ Finset.range others.length, shortfall others othersMoved other :=
        Finset.single_le_sum (fun other member => opposite.nonneg other (Finset.mem_range.mp member))
          (Finset.mem_range.mpr inside)
    _ = sum others - sum amounts +
          (sum amounts - ∑ line ∈ Finset.range amounts.length, moved line) := by
        rw [sum_shortfall, ← same]
        ring
    _ ≤ |sum amounts - sum others| + amounts.length * tolerance := by
        have gap := neg_le_abs (sum amounts - sum others)
        linarith

end Accounts

namespace Underway

variable {tolerance : Rat} {problem : Problem Rat} {source destination : Nat}
  {supply demand : List Rat} {allocation : List (List Rat)}

/-- Where one side has no line left, no line of either side lacks more than
the longer side may have written off and the difference of the totals. -/
theorem shortfall_le (nonneg : 0 ≤ tolerance)
    (underway : Underway tolerance problem source destination supply demand allocation)
    (ends : problem.supply.length ≤ source ∨ problem.demand.length ≤ destination) :
    let bound := |problem.totalSupply - problem.totalDemand| +
      (max problem.supply.length problem.demand.length : Nat) * tolerance
    (∀ row < problem.supply.length,
      shortfall problem.supply (rowTotal allocation problem.demand.length) row ≤ bound) ∧
    ∀ column < problem.demand.length,
      shortfall problem.demand (columnTotal allocation problem.supply.length) column ≤ bound := by
  intro bound
  have moved := sum_rowTotal allocation problem.supply.length problem.demand.length
  have longer : ∀ count : Nat, count ≤ max problem.supply.length problem.demand.length →
      |problem.totalSupply - problem.totalDemand| + count * tolerance ≤ bound := by
    intro count least
    have scaled := mul_le_mul_of_nonneg_right (Nat.cast_le (α := Rat).mpr least) nonneg
    exact add_le_add_right scaled _
  have single : ∀ count : Nat, 0 < count →
      count ≤ max problem.supply.length problem.demand.length → tolerance ≤ bound := by
    intro count positive least
    have some := longer 1 (Nat.one_le_of_lt (positive.trans_le least))
    rw [Nat.cast_one, one_mul] at some
    exact (le_add_of_nonneg_left (abs_nonneg _)).trans some
  rcases ends with finished | finished
  · refine ⟨fun row inside => ?_, fun column inside => ?_⟩
    · exact (underway.sources.writtenOff row inside (inside.trans_le finished)).trans
        (single _ (Nat.zero_lt_of_lt inside) (Nat.le_max_left _ _))
    · exact (underway.sources.shortfall_le_of_finished finished underway.destinations moved
        inside).trans (longer _ (Nat.le_max_left _ _))
  · refine ⟨fun row inside => ?_, fun column inside => ?_⟩
    · have bounded := underway.destinations.shortfall_le_of_finished finished underway.sources
        moved.symm inside
      rw [abs_sub_comm] at bounded
      exact bounded.trans (longer _ (Nat.le_max_right _ _))
    · exact (underway.destinations.writtenOff column inside (inside.trans_le finished)).trans
        (single _ (Nat.zero_lt_of_lt inside) (Nat.le_max_right _ _))

end Underway

/-! ## The answer -/

theorem underway_start {problem : Problem Rat} (accepted : problem.Accepted) (tolerance : Rat) :
    Underway tolerance problem 0 0 problem.supply problem.demand
      (List.replicate problem.supply.length (List.replicate problem.demand.length 0)) where
  sized := sized_replicate _ _
  nonneg := fun row column => (cell_replicate _ _ row column).ge
  sources := .initial accepted.supply_nonneg fun row =>
    Finset.sum_eq_zero fun column _ => cell_replicate _ _ row column
  destinations := .initial accepted.demand_nonneg fun column =>
    Finset.sum_eq_zero fun row _ => cell_replicate _ _ row column

theorem nonneg_of_cell_nonneg {table : List (List Rat)}
    (nonneg : ∀ row column, 0 ≤ cell table row column) :
    ∀ entries ∈ table, ∀ amount ∈ entries, 0 ≤ amount := by
  intro entries member amount among
  rcases List.mem_iff_getElem?.mp member with ⟨row, found⟩
  rcases List.mem_iff_getElem?.mp among with ⟨column, entered⟩
  rw [← cell_eq found entered]
  exact nonneg row column

/-- A walk that came to an end leaves a plan that conserves goods. -/
theorem conserves_of_underway {tolerance : Rat} (nonneg : 0 ≤ tolerance) {problem : Problem Rat}
    (accepted : problem.Accepted) {source destination : Nat} {supply demand : List Rat}
    {allocation : List (List Rat)}
    (underway : Underway tolerance problem source destination supply demand allocation)
    (ends : problem.supply.length ≤ source ∨ problem.demand.length ≤ destination)
    (steps : List (Step Rat)) :
    (Solution.mk problem allocation (allocationCost allocation problem.costs) steps).Conserves
      problem tolerance := by
  rcases underway.shortfall_le nonneg ends with ⟨supplyNear, demandNear⟩
  have supplyNonneg := underway.sources.nonneg
  have demandNonneg := underway.destinations.nonneg
  refine ⟨underway.sized, nonneg_of_cell_nonneg underway.nonneg,
    fun row inside => sub_nonneg.mp (supplyNonneg row inside),
    fun column inside => sub_nonneg.mp (demandNonneg column inside), supplyNear, demandNear,
    allocationCost_eq underway.sized accepted.sized_costs, fun balanced zero => ?_⟩
  rw [balanced, zero, sub_self, abs_zero, mul_zero, add_zero] at supplyNear demandNear
  exact ⟨fun row inside =>
      (sub_eq_zero.mp (le_antisymm (supplyNear row inside) (supplyNonneg row inside))).symm,
    fun column inside =>
      (sub_eq_zero.mp (le_antisymm (demandNear column inside) (demandNonneg column inside))).symm⟩

/-- The northwest corner answers every accepted problem in balance, and no
other, and with every tolerance that is not negative its plan conserves goods.
What the tolerance writes off, line by line, bounds what the plan may lack. -/
theorem northwest_conserves (problem : Problem Rat) {tolerance : Rat} (nonneg : 0 ≤ tolerance) :
    (problem.validate = .ok () ∧ problem.isBalanced = true ↔
      ∃ solution, northwest tolerance problem = .ok solution) ∧
    ∀ solution, northwest tolerance problem = .ok solution →
      solution.Conserves problem tolerance := by
  apply Checks.accepted_iff_and_forall
  · rintro ⟨valid, balanced⟩
    have accepted := Problem.validate_eq_ok_iff.mp valid
    rcases (underway_start accepted tolerance).walk nonneg 0 with
      ⟨source, destination, supply, demand, underway, ends⟩
    simp only [northwest, valid, balanced, bind, Except.bind, Bool.not_true, Bool.false_eq_true,
      if_false]
    exact ⟨_, rfl, conserves_of_underway nonneg accepted underway ends _⟩
  · intro solution answers
    rcases Checks.check_bind_eq_ok_iff.mp answers with ⟨valid, rest⟩
    refine ⟨valid, ?_⟩
    by_contra unbalanced
    rw [Bool.not_eq_true] at unbalanced
    simp only [unbalanced, Bool.not_false, if_true] at rest
    cases rest

/-- Two plants for two shops, with amounts that meet only up to a half. -/
def plants : Problem Rat where
  sources := ["S1", "S2"]
  destinations := ["D1", "D2"]
  supply := [10, 20]
  demand := [21 / 2, 39 / 2]
  costs := [[2, 3], [5, 1]]

theorem northwest_conserves_plants :
    (0 : Rat) ≤ 1 ∧ ∃ solution, northwest 1 plants = .ok solution ∧
      solution.allocation = [[10, 0], [0, 39 / 2]] ∧ solution.Conserves plants 1 := by
  have nonneg : (0 : Rat) ≤ 1 := by decide +kernel
  have found : ((northwest 1 plants).map Solution.allocation).toOption =
      some [[10, 0], [0, 39 / 2]] := by decide +kernel
  have plan := northwest_conserves plants nonneg
  rcases plan.1.mp ⟨by decide +kernel, by decide +kernel⟩ with ⟨solution, answers⟩
  rw [answers] at found
  exact ⟨nonneg, solution, answers, Option.some.inj found, plan.2 solution answers⟩

end Transport
end Optimum
