import Optimum.Proofs.Tableau.History

namespace Optimum
namespace Tableau

/-!
# What a tolerance hides

The rules take an entry for positive only if it lies above the tolerance.  A
positive entry below it is passed over by the ratio test, and then a
right-hand side may become negative.  As long as no tableau of a run has such
an entry, the run keeps the basic solution feasible, as it does without a
tolerance.
-/

variable {tableau start last : Tableau Rat} {tolerance : Rat} {index : Nat}
  {iterations : List (Iteration Rat)}

/-- Whether every positive entry of the constraint rows, right-hand sides
included, lies above the tolerance. -/
def Visible (tolerance : Rat) (tableau : Tableau Rat) : Prop :=
  ∀ row < tableau.height, ∀ column ≤ tableau.width, 0 < tableau.entry row column →
    tolerance < tableau.entry row column

instance (tolerance : Rat) (tableau : Tableau Rat) : Decidable (Visible tolerance tableau) :=
  inferInstanceAs (Decidable (∀ row < tableau.height, ∀ column ≤ tableau.width,
    0 < tableau.entry row column → tolerance < tableau.entry row column))

theorem visible_zero (tableau : Tableau Rat) : Visible 0 tableau :=
  fun _ _ _ _ positive => positive

theorem Visible.nonpos (visible : Visible tolerance tableau) {row column : Nat}
    (rowInside : row < tableau.height) (columnInside : column ≤ tableau.width)
    (small : tableau.entry row column ≤ tolerance) : tableau.entry row column ≤ 0 := by
  by_contra positive
  exact absurd (visible row rowInside column columnInside (not_le.mp positive)) (not_lt.mpr small)

/-- A run of the primal rule that hides nothing ends at a feasible basic
solution. -/
theorem Trail.feasible (trail : Trail (primalRule tolerance) index start iterations last)
    (nonneg : 0 ≤ tolerance) (based : start.HasBasis) (feasible : start.Feasible)
    (visible : ∀ current ∈ start :: iterations.map Iteration.tableau, Visible tolerance current) :
    last.Feasible := by
  induction trail with
  | done => exact feasible
  | @pivot _ row column tableau next _ _ move succeeds _ inductionHypothesis =>
      rw [List.map_cons, List.forall_mem_cons] at visible
      have chosen : PrimalMove tolerance tableau (.pivot row column) := move ▸ primalRule_move
      rcases (admissible_primalRule nonneg).pivotsTo (Reached.refl based) move succeeds with
        ⟨step, after⟩
      refine inductionHypothesis after.based ?_ visible.2
      refine feasible.of_visible nonneg chosen (fun other inside positive => ?_) step
      exact visible.1 other inside column (chosen.pivot_pos nonneg).2.1.le positive

end Tableau
end Optimum
