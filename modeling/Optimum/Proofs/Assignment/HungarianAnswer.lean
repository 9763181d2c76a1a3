import Optimum.Proofs.Assignment.Placement
import Optimum.Proofs.Assignment.Reduction

namespace Optimum
namespace Assignment

open Scalar

/-!
# The Hungarian method answers correctly

Whatever covers were used and however often the table was adjusted, an answer
is a pairing, and it is nearly a cheapest one: the amounts that the table has
come to are a lower bound on every pairing, and each place of the answer lies
within the tolerance of them.
-/

namespace CostMatrix

def Integral (matrix : CostMatrix Rat) : Prop :=
  ∀ entries ∈ matrix.costs, ∀ value ∈ entries, ∃ number : Int, value = number

variable {matrix : CostMatrix Rat} {pairs : List (Nat × Nat)}

theorem Integral.exists_cell (integral : matrix.Integral) (row column : Nat) :
    ∃ number : Int, cell matrix.costs row column = number := by
  rw [cell]
  by_cases rowInside : row < matrix.costs.length
  · rw [List.getD_eq_getElem _ _ rowInside]
    by_cases columnInside : column < matrix.costs[row].length
    · rw [List.getD_eq_getElem _ _ columnInside]
      exact integral _ (List.getElem_mem _) _ (List.getElem_mem _)
    · rw [List.getD_eq_default _ _ (not_lt.mp columnInside)]
      exact ⟨0, Int.cast_zero.symm⟩
  · rw [List.getD_eq_default _ _ (not_lt.mp rowInside)]
    exact ⟨0, Int.cast_zero.symm⟩

theorem Integral.exists_cost (integral : matrix.Integral) (pairs : List (Nat × Nat)) :
    ∃ number : Int, matrix.cost pairs = number := by
  induction pairs with
  | nil => exact ⟨0, Int.cast_zero.symm⟩
  | cons pair pairs inductionHypothesis =>
      rcases integral.exists_cell pair.1 pair.2 with ⟨first, firstCost⟩
      rcases inductionHypothesis with ⟨rest, restCost⟩
      refine ⟨first + rest, ?_⟩
      rw [cost] at restCost
      rw [cost, List.map_cons, List.sum_cons, firstCost, restCost, Int.cast_add]

end CostMatrix

/-- What an answer to a cost matrix is to be.  The bound on the total speaks of
every other pairing, and the tolerance is what it may miss for each row. -/
structure Solution.Correct (matrix : CostMatrix Rat) (tolerance : Rat)
    (solution : Solution Rat) : Prop where
  bijective : solution.permutation.Perm (List.range matrix.size)
  pairing : matrix.IsPairing solution.pairs
  unassigned : solution.unassigned.Perm (matrix.remaining solution.pairs)
  totalCost_eq : solution.totalCost = matrix.cost solution.pairs
  near : ∀ other, matrix.IsPairing other →
    solution.totalCost < matrix.cost other + matrix.size * tolerance
  least : matrix.Integral → matrix.size * tolerance ≤ 1 →
    ∀ other, matrix.IsPairing other → solution.totalCost ≤ matrix.cost other

theorem le_of_lt_add_one {first second : Rat} (firstInteger : ∃ number : Int, first = number)
    (secondInteger : ∃ number : Int, second = number) (below : first < second + 1) :
    first ≤ second := by
  rcases firstInteger with ⟨left, rfl⟩
  rcases secondInteger with ⟨right, rfl⟩
  have order : left < right + 1 := by exact_mod_cast below
  exact_mod_cast Int.lt_add_one_iff.mp order

/-- The columns on the zeros of a reduced table make a correct answer.  How the
table was reduced does not matter. -/
theorem correct_ofPermutation {matrix : CostMatrix Rat} (unpadded : matrix.Unpadded)
    {last : List (List Rat)} (reduced : Reduced matrix.balance.costs last matrix.size)
    {tolerance : Rat} {permutation : List Nat}
    (bijective : permutation.Perm (List.range matrix.size))
    (zeros : ∀ row column, permutation[row]? = some column → cell last row column < tolerance)
    (steps : List (Step Rat)) :
    (Solution.ofPermutation matrix.balance permutation steps).Correct matrix tolerance := by
  have pairing := unpadded.isPairing_ofPermutation bijective steps
  have total := unpadded.totalCost_ofPermutation permutation steps
  have near : ∀ other, matrix.IsPairing other →
      (Solution.ofPermutation matrix.balance permutation steps).totalCost <
        matrix.cost other + matrix.size * tolerance := by
    intro other otherPairing
    rcases reduced.amounts with ⟨rowAmount, columnAmount, differs⟩
    have bound : ∑ row ∈ Finset.range matrix.size, rowAmount row +
        ∑ column ∈ Finset.range matrix.size, columnAmount column ≤ matrix.cost other := by
      apply otherPairing.sum_amounts_le_cost unpadded
      intro row rowInside column columnInside
      rw [differs row rowInside column columnInside]
      exact le_add_of_nonneg_left (reduced.nonneg row rowInside column columnInside)
    have tight : ∀ row column, permutation[row]? = some column →
        cell matrix.balance.costs row column <
          tolerance + (rowAmount row + columnAmount column) := by
      intro row column found
      have member := List.mem_of_getElem? found
      rcases List.getElem?_eq_some_iff.mp found with ⟨rowInside, -⟩
      rw [length_of_bijective bijective] at rowInside
      rw [bijective.mem_iff, List.mem_range] at member
      rw [differs row rowInside column member]
      exact add_lt_add_left (zeros row column found) _
    have upper := unpadded.totalCost_lt bijective steps tight
    linarith
  refine ⟨bijective, pairing, unpadded.unassigned_ofPermutation bijective steps, total, near, ?_⟩
  intro integral small other otherPairing
  apply le_of_lt_add_one
  · rw [total]
    exact integral.exists_cost _
  · exact integral.exists_cost other
  · exact (near other otherPairing).trans_le (add_le_add_right small _)

/-- Every answer of the Hungarian method is correct, for both strategies, every
tolerance and every limit of adjustments.  The amounts that were subtracted
bound the cost of any assignment, and zeros attain the bound up to the
tolerance. -/
theorem hungarian_correct {matrix : CostMatrix Rat} (accepted : matrix.Accepted)
    (options : Options Rat) (solution : Solution Rat)
    (solved : hungarian options matrix = .ok solution) :
    solution.Correct matrix options.tolerance := by
  have unpadded := accepted.unpadded
  rcases Checks.bind_eq_ok_iff.mp solved with ⟨⟨⟩, -, started⟩
  rcases Checks.bind_eq_ok_iff.mp started with ⟨covered, firstPhase, rest⟩
  rcases Checks.bind_eq_ok_iff.mp rest with ⟨matched, secondPhase, same⟩
  cases same
  have first := (reduced_start unpadded.square_balance).adjustUntilCovered firstPhase
  rcases first.adjustUntilMatched secondPhase with ⟨reduced, complete⟩
  rw [reduced.square.length_eq]
  rcases permutation_zeroMatching reduced.square complete with ⟨bijective, zeros⟩
  exact correct_ofPermutation unpadded reduced bijective zeros _

def twoByThree : CostMatrix Rat where
  rowLabels := ["R1", "R2"]
  columnLabels := ["C1", "C2", "C3"]
  costs := [[4, 1, 3], [2, 0, 5]]
  realRows := 2
  realColumns := 3

theorem hungarian_correct_twoByThree :
    twoByThree.Accepted ∧ ∃ solution, hungarian ⟨.greedy, 10, 1 / 10⟩ twoByThree = .ok solution ∧
      solution.Correct twoByThree (1 / 10) := by
  have accepted : twoByThree.Accepted := Or.inl ⟨twoByThree.costs, by decide +kernel⟩
  have answers : (hungarian ⟨.greedy, 10, 1 / 10⟩ twoByThree).isOk = true := by decide +kernel
  refine ⟨accepted, ?_⟩
  cases solved : hungarian ⟨.greedy, 10, 1 / 10⟩ twoByThree with
  | error fault =>
      rw [solved] at answers
      cases answers
  | ok solution => exact ⟨solution, rfl, hungarian_correct accepted _ solution solved⟩

end Assignment
end Optimum
