import Optimum.Proofs.Transport.Acceptance

namespace Optimum
namespace Transport

open Assignment Scalar

/-!
# Balancing repairs a transport problem

Where supply and demand differ, balancing adds one line: a destination for a
surplus or a source for a shortage, with the difference as its amount.  The
costs in the new line are zero, which is also what is found beyond the edge of
a table, so in terms of cells the costs do not change at all.  The new problem
is accepted again, and its totals are equal.
-/

/-! ## What is added -/

/-- One line more on one side of a problem. -/
structure AddsLine (labels : List String) (amounts : List Rat) (gap : Rat)
    (newLabels : List String) (newAmounts : List Rat) : Prop where
  labels_eq : ∃ label, newLabels = labels ++ [label]
  amounts_eq : newAmounts = amounts ++ [gap]
  gap_pos : 0 < gap

/-- The line that a problem lacks is a destination or a source.  All other data
stay as they are. -/
inductive Problem.AddsOneLine (problem table : Problem Rat) : Prop
  | destination (sources_eq : table.sources = problem.sources)
      (supply_eq : table.supply = problem.supply)
      (added : AddsLine problem.destinations problem.demand
        (problem.totalSupply - problem.totalDemand) table.destinations table.demand)
  | source (destinations_eq : table.destinations = problem.destinations)
      (demand_eq : table.demand = problem.demand)
      (added : AddsLine problem.sources problem.supply
        (problem.totalDemand - problem.totalSupply) table.sources table.supply)

/-- A problem in balance that differs from another one by a line that costs
nothing. -/
structure Problem.Repairs (problem table : Problem Rat) : Prop where
  accepted : table.Accepted
  totals_eq : table.totalSupply = table.totalDemand
  line : problem.AddsOneLine table
  kept : ∀ row < problem.supply.length, ∀ column < problem.demand.length,
    cell table.costs row column = cell problem.costs row column
  free : ∀ row column, problem.supply.length ≤ row ∨ problem.demand.length ≤ column →
    cell table.costs row column = 0

/-! ## Costs in a new line -/

section Cells

variable {table : List (List Rat)} {rows columns row column : Nat}

theorem cell_append_column (table : List (List Rat)) (row column : Nat) :
    cell (table.map (· ++ [0])) row column = cell table row column := by
  simp only [cell, List.getD_eq_getElem?_getD, List.getElem?_map]
  cases table[row]? with
  | none => rfl
  | some entries =>
      simp only [Option.map_some, Option.getD_some, ← List.getD_eq_getElem?_getD]
      exact CostMatrix.getD_append_zeros entries 1 column

theorem cell_append_row (table : List (List Rat)) (count row column : Nat) :
    cell (table ++ [List.replicate count 0]) row column = cell table row column := by
  by_cases inside : row < table.length
  · rw [cell, List.getD_append _ _ _ _ inside, cell]
  · have beyond := not_lt.mp inside
    rw [cell, cell, List.getD_append_right _ _ _ _ beyond, List.getD_eq_default _ _ beyond]
    cases row - table.length with
    | zero => exact CostMatrix.getD_append_zeros [] count column
    | succ later => rfl

namespace Sized

theorem cell_outside (sized : Sized table rows columns)
    (outside : rows ≤ row ∨ columns ≤ column) : cell table row column = 0 := by
  rw [cell]
  by_cases inside : row < table.length
  · have wide := outside.resolve_left (not_le.mpr (sized.length_eq ▸ inside))
    rw [List.getD_eq_getElem _ _ inside, List.getD_eq_default]
    exact sized.length_row _ (List.getElem_mem inside) ▸ wide
  · rw [List.getD_eq_default _ _ (not_lt.mp inside)]
    rfl

theorem append_column (sized : Sized table rows columns) :
    Sized (table.map (· ++ [0])) rows (columns + 1) where
  length_eq := (List.length_map _).trans sized.length_eq
  length_row := by
    intro entries member
    rcases List.mem_map.mp member with ⟨former, listed, rfl⟩
    rw [List.length_append, sized.length_row former listed, List.length_singleton]

theorem append_row (sized : Sized table rows columns) :
    Sized (table ++ [List.replicate columns 0]) (rows + 1) columns where
  length_eq := by rw [List.length_append, sized.length_eq, List.length_singleton]
  length_row := by
    intro entries member
    rcases List.mem_append.mp member with former | added
    · exact sized.length_row entries former
    · rw [List.mem_singleton.mp added, List.length_replicate]

end Sized
end Cells

/-! ## The repaired problem -/

namespace Problem

variable {problem : Problem Rat}

theorem nonneg_append {amounts : List Rat} (nonneg : ∀ amount ∈ amounts, 0 ≤ amount) {gap : Rat}
    (positive : 0 < gap) : ∀ amount ∈ amounts ++ [gap], 0 ≤ amount := by
  intro amount member
  rcases List.mem_append.mp member with former | added
  · exact nonneg amount former
  · rw [List.mem_singleton.mp added]
    exact positive.le

theorem isBalanced_of_totals_eq (same : problem.totalSupply = problem.totalDemand) :
    problem.isBalanced = true := by
  have one_le : ∀ x : Rat, 1 ≤ larger x 1 := by
    intro x
    rw [larger]
    split
    · exact le_refl 1
    · next above => exact not_lt.mp above
  have part : 0 ≤ (unitFraction 1000000000 : Rat) := by decide +kernel
  apply decide_eq_true
  rw [same, sub_self, magnitude_eq_abs, abs_zero]
  exact mul_nonneg part (zero_le_one.trans (one_le _))

theorem repairs_of_surplus (accepted : problem.Accepted)
    (surplus : 0 < problem.totalSupply - problem.totalDemand) (label : String) :
    problem.Repairs { problem with
      destinations := problem.destinations ++ [label]
      demand := problem.demand ++ [problem.totalSupply - problem.totalDemand]
      costs := problem.costs.map (· ++ [0]) } where
  accepted :=
    { accepted with
      demand_ne_nil := List.append_ne_nil_of_right_ne_nil _ (List.cons_ne_nil _ _)
      demand_nonneg := nonneg_append accepted.demand_nonneg surplus
      sized_costs := by
        rw [List.length_append]
        exact accepted.sized_costs.append_column
      costs_nonneg := by
        intro entries member cost among
        rcases List.mem_map.mp member with ⟨former, listed, rfl⟩
        rcases List.mem_append.mp among with kept | added
        · exact accepted.costs_nonneg former listed cost kept
        · exact (List.mem_singleton.mp added).ge
      length_destinations := by
        simp only [List.length_append, accepted.length_destinations, List.length_singleton] }
  totals_eq := by
    change sum problem.supply = sum (problem.demand ++ [sum problem.supply - sum problem.demand])
    simp only [sum_eq_sum, List.sum_append, List.sum_singleton]
    ring
  line := .destination rfl rfl ⟨⟨label, rfl⟩, rfl, surplus⟩
  kept := fun row _ column _ => cell_append_column _ row column
  free := fun row column outside =>
    (cell_append_column _ row column).trans (accepted.sized_costs.cell_outside outside)

theorem repairs_of_shortage (accepted : problem.Accepted)
    (shortage : 0 < problem.totalDemand - problem.totalSupply) (label : String) :
    problem.Repairs { problem with
      sources := problem.sources ++ [label]
      supply := problem.supply ++ [problem.totalDemand - problem.totalSupply]
      costs := problem.costs ++ [List.replicate problem.demand.length 0] } where
  accepted :=
    { accepted with
      supply_ne_nil := List.append_ne_nil_of_right_ne_nil _ (List.cons_ne_nil _ _)
      supply_nonneg := nonneg_append accepted.supply_nonneg shortage
      sized_costs := by
        rw [List.length_append]
        exact accepted.sized_costs.append_row
      costs_nonneg := by
        intro entries member cost among
        rcases List.mem_append.mp member with former | added
        · exact accepted.costs_nonneg entries former cost among
        · rw [List.mem_singleton.mp added] at among
          exact (List.eq_of_mem_replicate among).ge
      length_sources := by
        simp only [List.length_append, accepted.length_sources, List.length_singleton] }
  totals_eq := by
    change sum (problem.supply ++ [sum problem.demand - sum problem.supply]) = sum problem.demand
    simp only [sum_eq_sum, List.sum_append, List.sum_singleton]
    ring
  line := .source rfl rfl ⟨⟨label, rfl⟩, rfl, shortage⟩
  kept := fun row _ column _ => cell_append_row _ _ row column
  free := fun row column outside =>
    (cell_append_row _ _ row column).trans (accepted.sized_costs.cell_outside outside)

/-- Balancing repairs every accepted problem that is out of balance.  The new
line is on the side that has less. -/
theorem repairs_balanced (accepted : problem.Accepted) (unbalanced : problem.isBalanced = false) :
    problem.Repairs problem.balanced := by
  have different : problem.totalSupply ≠ problem.totalDemand := by
    intro same
    rw [isBalanced_of_totals_eq same] at unbalanced
    cases unbalanced
  rw [balanced]
  simp only [unbalanced, Bool.false_eq_true, if_false]
  split
  · next surplus => exact repairs_of_surplus accepted surplus "Dummy"
  · next noSurplus =>
      have below := lt_of_le_of_ne (sub_nonpos.mp (not_lt.mp noSurplus)) different
      rw [neg_sub]
      exact repairs_of_shortage accepted (sub_pos.mpr below) "Dummy"

theorem balanced_eq_self (balanced : problem.isBalanced = true) : problem.balanced = problem :=
  if_pos balanced

end Problem

/-! ## The northwest corner -/

section Corner

variable {α : Type} [Scalar α] {problem : Problem α}

theorem northwest_eq_ok (tolerance : α) (valid : problem.validate = .ok ())
    (balanced : problem.isBalanced = true) :
    ∃ solution, northwest tolerance problem = .ok solution ∧ solution.problem = problem := by
  simp only [northwest, valid, balanced, bind, Except.bind, Bool.not_true, Bool.false_eq_true,
    if_false]
  exact ⟨_, rfl, rfl⟩

theorem northwest_eq_unbalanced (tolerance : α) (valid : problem.validate = .ok ())
    (unbalanced : problem.isBalanced = false) :
    northwest tolerance problem = .error (.unbalanced problem.totalSupply problem.totalDemand) := by
  simp only [northwest, valid, unbalanced, bind, Except.bind, Bool.not_false, if_true]

end Corner

end Transport
end Optimum
