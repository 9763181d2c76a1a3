import Optimum.Proofs.Assignment.Balance
import Optimum.Proofs.Transport.Tables

namespace Optimum
namespace Transport

open Assignment Assignment.CostMatrix Scalar

/-!
# Accepted transport problems

What validation establishes over the rationals, where every value is finite:
there is a source and a destination, no amount and no cost is negative, the
table of costs has a row for each source and a column for each destination,
and all lines are labelled.
-/

namespace Problem

structure Accepted (problem : Problem Rat) : Prop where
  supply_ne_nil : problem.supply ≠ []
  demand_ne_nil : problem.demand ≠ []
  supply_nonneg : ∀ amount ∈ problem.supply, 0 ≤ amount
  demand_nonneg : ∀ amount ∈ problem.demand, 0 ≤ amount
  sized_costs : Sized problem.costs problem.supply.length problem.demand.length
  costs_nonneg : ∀ entries ∈ problem.costs, ∀ cost ∈ entries, 0 ≤ cost
  length_sources : problem.sources.length = problem.supply.length
  length_destinations : problem.destinations.length = problem.demand.length

end Problem

theorem invalidCost?_eq_none_iff {row : List Rat} :
    invalidCost? row = none ↔ ∀ value ∈ row, 0 ≤ value := by
  rw [invalidCost?, List.find?_eq_none]
  constructor
  · intro passed value member
    rcases List.mem_iff_getElem?.mp member with ⟨index, found⟩
    have checked := passed (value, index) (List.mem_zipIdx_iff_getElem?.mpr found)
    simpa using checked
  · intro nonneg entry member
    have found := List.mem_of_getElem? (List.mem_zipIdx_iff_getElem?.mp member)
    simpa using nonneg entry.1 found

theorem checkAmounts_eq_ok_iff {kind : AmountKind} {amounts : List Rat} :
    checkAmounts kind amounts = .ok () ↔ ∀ amount ∈ amounts, 0 ≤ amount := by
  rw [← invalidCost?_eq_none_iff, checkAmounts]
  cases invalidCost? amounts with
  | none => exact iff_of_true rfl rfl
  | some found => exact iff_of_false nofun nofun

theorem checkCosts_eq_ok_iff {index : Nat} {row : List Rat} :
    checkCosts index row = .ok () ↔ ∀ cost ∈ row, 0 ≤ cost := by
  rw [← invalidCost?_eq_none_iff, checkCosts]
  cases invalidCost? row with
  | none => exact iff_of_true rfl rfl
  | some found => exact iff_of_false nofun nofun

namespace Problem

variable {problem : Problem Rat}

theorem checkShape_eq_ok_iff :
    problem.checkShape = .ok () ↔
      Sized problem.costs problem.supply.length problem.demand.length := by
  unfold checkShape
  dsimp only
  split
  · next shaped =>
      refine iff_of_true rfl ⟨shaped.1, fun entries member => ?_⟩
      exact of_decide_eq_true (List.all_eq_true.mp shaped.2 entries member)
  · next unshaped =>
      refine iff_of_false nofun fun sized => unshaped ⟨sized.length_eq, ?_⟩
      exact List.all_eq_true.mpr fun entries member =>
        decide_eq_true (sized.length_row entries member)

theorem validate_eq_ok_iff : problem.validate = .ok () ↔ problem.Accepted := by
  have rows : (problem.costs.zipIdx.forM fun (row, index) => checkCosts index row) = .ok () ↔
      ∀ entries ∈ problem.costs, ∀ cost ∈ entries, 0 ≤ cost := by
    rw [Checks.forM_eq_ok_iff]
    constructor
    · intro passed entries member
      rcases List.mem_iff_getElem?.mp member with ⟨index, found⟩
      exact checkCosts_eq_ok_iff.mp
        (passed (entries, index) (List.mem_zipIdx_iff_getElem?.mpr found))
    · intro nonneg entry member
      have found := List.mem_of_getElem? (List.mem_zipIdx_iff_getElem?.mp member)
      exact checkCosts_eq_ok_iff.mpr (nonneg entry.1 found)
  unfold validate
  split
  · next empty =>
      refine iff_of_false nofun fun accepted => ?_
      rcases Bool.or_eq_true _ _ ▸ empty with noSupply | noDemand
      · exact accepted.supply_ne_nil (List.isEmpty_iff.mp noSupply)
      · exact accepted.demand_ne_nil (List.isEmpty_iff.mp noDemand)
  · next present =>
      rcases not_or.mp (Bool.or_eq_true _ _ ▸ present) with ⟨supply, demand⟩
      rw [Checks.check_bind_eq_ok_iff, Checks.check_bind_eq_ok_iff, Checks.check_bind_eq_ok_iff,
        Checks.check_bind_eq_ok_iff, Checks.check_bind_eq_ok_iff, checkAmounts_eq_ok_iff,
        checkAmounts_eq_ok_iff, checkShape_eq_ok_iff, rows, checkLabels_eq_ok_iff,
        checkLabels_eq_ok_iff]
      constructor
      · rintro ⟨supplies, demands, sized, costs, sources, destinations⟩
        exact ⟨fun none => supply (List.isEmpty_iff.mpr none),
          fun none => demand (List.isEmpty_iff.mpr none), supplies, demands, sized, costs, sources,
          destinations⟩
      · intro accepted
        exact ⟨accepted.supply_nonneg, accepted.demand_nonneg, accepted.sized_costs,
          accepted.costs_nonneg, accepted.length_sources, accepted.length_destinations⟩

end Problem

end Transport
end Optimum
