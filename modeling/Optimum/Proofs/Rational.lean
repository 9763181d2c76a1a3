import Mathlib.Algebra.BigOperators.Fin
import Mathlib.Algebra.BigOperators.Ring.Finset
import Mathlib.Algebra.Order.BigOperators.Group.Finset
import Mathlib.Algebra.Order.Ring.Rat
import Mathlib.Data.List.GetD
import Mathlib.Tactic.Linarith
import Mathlib.Tactic.Ring
import Optimum.Proofs.FirstBest
import Optimum.Scalar

namespace Optimum
namespace Scalar

/-!
# The rationals as scalars

Over the rationals the operations of `Scalar` are those of an ordered field.
Every rational is finite, only zero counts as zero, and the folds over lists
are the sum and the minimum they stand for.
-/

theorem isZero_iff {x : Rat} : isZero x = true ↔ x = 0 := by
  simp only [isZero, Bool.and_eq_true, decide_eq_true_eq]
  constructor
  · intro both
    exact le_antisymm both.1 both.2
  · intro zero
    exact ⟨zero.le, zero.ge⟩

@[simp] theorem belowCeiling_rat (x : Rat) : belowCeiling x = true := rfl

@[simp] theorem isFinite_rat (x : Rat) : isFinite x = true := rfl

theorem magnitude_eq_abs (x : Rat) : magnitude x = |x| := by
  unfold magnitude
  by_cases negative : x < 0
  · rw [if_pos negative, abs_of_neg negative]
  · rw [if_neg negative, abs_of_nonneg (not_lt.mp negative)]

theorem smaller_eq_min (x y : Rat) : smaller x y = min x y := by
  unfold smaller
  by_cases below : y ≤ x
  · rw [if_pos below, min_eq_right below]
  · rw [if_neg below, min_eq_left (not_le.mp below).le]

/-! ## Sums -/

theorem sum_eq_sum (values : List Rat) : sum values = values.sum := by
  have general : ∀ (values : List Rat) (total : Rat),
      values.foldl (· + ·) total = total + values.sum := by
    intro values
    induction values with
    | nil => intro total; exact (add_zero total).symm
    | cons value values inductionHypothesis =>
        intro total
        rw [List.foldl_cons, inductionHypothesis, List.sum_cons, add_assoc]
  unfold sum
  rw [show (-0 : Rat) = 0 from neg_zero]
  exact (general values 0).trans (zero_add _)

theorem sum_eq_sum_range (values : List Rat) :
    sum values = ∑ position ∈ Finset.range values.length, values.getD position 0 := by
  rw [sum_eq_sum, ← Fin.sum_univ_getElem, Finset.sum_range]
  refine Finset.sum_congr rfl fun position _ => ?_
  rw [List.getD_eq_getElem _ _ position.isLt]

theorem getD_map_neg (values : List Rat) (position : Nat) :
    (values.map (- ·)).getD position 0 = -values.getD position 0 := by
  rw [List.getD_eq_getElem?_getD, List.getElem?_map, List.getD_eq_getElem?_getD]
  cases values[position]? with
  | none => exact neg_zero.symm
  | some value => rfl

/-- A sum of products by positions.  Positions beyond either list add nothing,
so one range serves for lists of different lengths. -/
theorem dot_eq_sum_range {left : List Rat} {count : Nat} (right : List Rat)
    (covered : left.length ≤ count) :
    dot left right = ∑ j ∈ Finset.range count, left.getD j 0 * right.getD j 0 := by
  rw [dot_eq_sum, sum_eq_sum]
  induction left generalizing right count with
  | nil => simp
  | cons x left inductionHypothesis =>
      obtain ⟨rest, rfl⟩ : ∃ rest, count = rest + 1 :=
        ⟨count - 1, by simp only [List.length_cons] at covered; omega⟩
      rw [Finset.sum_range_succ']
      cases right with
      | nil => simp
      | cons y right =>
          rw [List.zipWith_cons_cons, List.sum_cons, add_comm,
            inductionHypothesis right (Nat.le_of_succ_le_succ covered)]
          rfl

theorem dot_map_neg (left right : List Rat) : dot (left.map (- ·)) right = -dot left right := by
  have covered : (left.map (- ·)).length ≤ left.length := (List.length_map _).le
  rw [dot_eq_sum_range right covered, dot_eq_sum_range right (Nat.le_refl _),
    ← Finset.sum_neg_distrib]
  refine Finset.sum_congr rfl fun position _ => ?_
  rw [getD_map_neg, neg_mul]

/-! ## Minima -/

/-- The search for the least value finds the first of the least.  Less is
better there, so the values are compared in the dual order. -/
theorem leastIndex_cons (best : Nat × Rat) (rest : List (Nat × Rat)) :
    ∃ chosen, leastIndex (best :: rest) = some chosen.1 ∧
      IsFirstBest (fun one other => one.2 < other.2) (best :: rest) chosen := by
  let lower (champion candidate : Nat × Rat) : Nat × Rat :=
    if candidate.2 < champion.2 then candidate else champion
  have kept : rest.foldl keepBelow (some best) = some (rest.foldl lower best) :=
    List.foldl_hom some fun champion candidate => (apply_ite some _ _ _).symm
  have first : IsFirstBest
      (fun one other : Nat × Rat => OrderDual.toDual other.2 < OrderDual.toDual one.2)
      (best :: rest) (rest.foldl lower best) :=
    isFirstBest_foldl (fun _ _ => rfl) best rest
  exact ⟨_, congrArg (Option.map Prod.fst) kept, first⟩

theorem leastIndex_eq_none {candidates : List (Nat × Rat)}
    (nothing : leastIndex candidates = none) : candidates = [] := by
  cases candidates with
  | nil => rfl
  | cons best rest =>
      rcases leastIndex_cons best rest with ⟨chosen, found, -⟩
      rw [found] at nothing
      cases nothing

/-- The chosen candidate lies strictly below the ones before it, and none
after it lies below. -/
theorem leastIndex_eq_some {candidates : List (Nat × Rat)} {index : Nat}
    (chosen : leastIndex candidates = some index) :
    ∃ before value after, candidates = before ++ (index, value) :: after ∧
      (∀ candidate ∈ before, value < candidate.2) ∧
      ∀ candidate ∈ after, value ≤ candidate.2 := by
  cases candidates with
  | nil => cases chosen
  | cons best rest =>
      rcases leastIndex_cons best rest with ⟨found, same, before, after, split, above, notBelow⟩
      rw [same] at chosen
      cases chosen
      exact ⟨before, found.2, after, split, above,
        fun candidate member => not_lt.mp (notBelow candidate member)⟩

theorem foldl_keepSmaller (rest : List Rat) (best : Rat) :
    rest.foldl keepSmaller (some best) = some (rest.foldl min best) := by
  induction rest generalizing best with
  | nil => rfl
  | cons next rest inductionHypothesis =>
      rw [List.foldl_cons, List.foldl_cons, ← smaller_eq_min]
      exact inductionHypothesis _

theorem least_cons (first : Rat) (rest : List Rat) :
    least (first :: rest) = rest.foldl min first :=
  congrArg (fun smallest : Option Rat => smallest.getD 0) (foldl_keepSmaller rest first)

/-- The least entry of a list that has one is an entry of it, and a bound. -/
theorem least_mem {values : List Rat} (nonempty : values ≠ []) :
    least values ∈ values ∧ ∀ value ∈ values, least values ≤ value := by
  cases values with
  | nil => exact absurd rfl nonempty
  | cons first rest =>
      rw [least_cons]
      induction rest generalizing first with
      | nil => simp
      | cons next rest inductionHypothesis =>
          rw [List.foldl_cons]
          rcases inductionHypothesis (min first next) (by simp) with ⟨member, bound⟩
          constructor
          · rcases List.mem_cons.mp member with same | later
            · rw [same]
              rcases min_choice first next with first | next <;> simp [*]
            · exact List.mem_cons_of_mem _ (List.mem_cons_of_mem _ later)
          · have below := bound _ List.mem_cons_self
            intro value among
            rcases List.mem_cons.mp among with rfl | among
            · exact below.trans (min_le_left _ _)
            · rcases List.mem_cons.mp among with rfl | among
              · exact below.trans (min_le_right _ _)
              · exact bound value (List.mem_cons_of_mem _ among)

end Scalar
end Optimum
