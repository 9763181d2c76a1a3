import Mathlib.Order.Filter.AtTopBot.Finite
import Mathlib.Order.Filter.AtTopBot.Basic
import Optimum.Proofs.Linear.PenaltyAnswer
import Optimum.Proofs.Tableau.Edges

namespace Optimum
namespace Linear

open Scalar Tableau

/-!
# How much penalty is enough

Raising a column changes the gain of the variables, and it changes the total
of the artificial columns.  The objective row charges the second change with
the penalty and adds it to the first.  `PenaltyDecides` says that in a tableau
the charge is what counts, column by column: a column that lowers the total
looks improving, and one that raises it does not.

The changes belong to the basis alone, and a problem has finitely many bases.
So some penalty is large enough to decide in every tableau that any run from
it, or from a larger one, can reach.
-/

variable {problem : Problem Rat} {penalty tolerance : Rat} {tableau : Tableau Rat}
  {column : Nat} {point : Nat → Rat}

namespace Problem

/-- How much the total of the artificial columns grows along the edge of a
column. -/
def shortfallRate (problem : Problem Rat) (tableau : Tableau Rat) (column : Nat) : Rat :=
  problem.artificialTotal (tableau.edge column)

section Rates

variable (reached : Reached (problem.penalized penalty) tableau) (shaped : problem.WellShaped)

include reached shaped

theorem width_reached : tableau.width = problem.dimension + problem.counts.total := by
  rw [reached.equivalent.width_eq, width_penalized shaped]

/-- The two parts of an objective entry: the penalty times what a column does to
the artificial total, less what it gains. -/
theorem entry_height_reached (inside : column < tableau.width) :
    tableau.entry tableau.height column =
      penalty * problem.shortfallRate tableau column -
        problem.system.value (tableau.edge column) := by
  have balanced : ∀ row < tableau.height, tableau.leftSide row (tableau.edge column) = 0 :=
    fun row bounded => reached.based.leftSide_edge inside bounded
  rw [← reached.based.leftSide_height_edge inside,
    reached.equivalent.leftSide_objective_eq (reached.equivalent.leftSide_eq_zero balanced),
    leftSide_objective_penalized shaped, shortfallRate]

/-- The artificial total of a solution, by the edges that lead to it. -/
theorem artificialTotal_of_solves (solves : (problem.penalized penalty).Solves point) :
    problem.artificialTotal point = problem.artificialTotal tableau.valueOf +
      ∑ raised ∈ Finset.range tableau.width,
        point raised * problem.shortfallRate tableau raised := by
  have here := reached.equivalent.solves_iff.mpr solves
  simp only [shortfallRate, artificialTotal, ← width_reached reached shaped, Finset.mul_sum]
  rw [Finset.sum_comm, ← Finset.sum_add_distrib]
  refine Finset.sum_congr rfl fun column member => ?_
  rw [here.eq_valueOf_add reached.based (Finset.mem_range.mp member), mul_add, Finset.mul_sum]
  congr 1
  exact Finset.sum_congr rfl fun raised _ => by ring

end Rates

/-! ## Penalties that decide -/

/-- Whether the penalty, and not the gain or the tolerance, decides which
columns look improving, as far as they change the artificial total. -/
structure PenaltyDecides (problem : Problem Rat) (tolerance : Rat) (tableau : Tableau Rat) :
    Prop where
  visible : Visible tolerance tableau
  falling : ∀ column < tableau.width, problem.shortfallRate tableau column < 0 →
    tableau.entry tableau.height column < -tolerance
  rising : ∀ column < tableau.width, 0 < problem.shortfallRate tableau column →
    -tolerance ≤ tableau.entry tableau.height column

instance (problem : Problem Rat) (tolerance : Rat) (tableau : Tableau Rat) :
    Decidable (problem.PenaltyDecides tolerance tableau) :=
  decidable_of_iff
    (Visible tolerance tableau ∧
      (∀ column < tableau.width, problem.shortfallRate tableau column < 0 →
        tableau.entry tableau.height column < -tolerance) ∧
      ∀ column < tableau.width, 0 < problem.shortfallRate tableau column →
        -tolerance ≤ tableau.entry tableau.height column)
    ⟨fun ⟨visible, falling, rising⟩ => ⟨visible, falling, rising⟩,
      fun decides => ⟨decides.visible, decides.falling, decides.rising⟩⟩

theorem rowSpace_penalized_le (first second : Rat) :
    (problem.penalized first).rowSpace ≤ (problem.penalized second).rowSpace := by
  refine rowSpace_le fun row inside => ?_
  have bounded : row < (problem.penalized second).height := by
    rw [height_penalized] at inside ⊢
    exact inside
  have same : (problem.penalized first).entry row = (problem.penalized second).entry row := by
    funext column
    rw [entry, entry, row_of_lt inside, row_of_lt bounded]
    rfl
  rw [same]
  exact entry_mem_rowSpace bounded

/-- Tableaus with one basis have one set of edges, whatever their penalties
are. -/
theorem edge_eq_of_penalized {other : Rat} {first second : Tableau Rat}
    (reached : Reached (problem.penalized penalty) first)
    (otherReached : Reached (problem.penalized other) second)
    (same : ∀ row < problem.constraints.length, first.basic row = second.basic row)
    (raised : Nat) : first.edge raised = second.edge raised := by
  have height : first.height = problem.constraints.length :=
    reached.equivalent.height_eq.trans height_penalized
  have otherHeight : second.height = problem.constraints.length :=
    otherReached.equivalent.height_eq.trans height_penalized
  refine edge_eq_of_basis_eq reached.based otherReached.based ?_ ?_ raised
  · refine List.ext_getElem ?_ fun row inside otherInside => ?_
    · rw [reached.based.length_basis, otherReached.based.length_basis, height, otherHeight]
    · have owned := same row (by rwa [reached.based.length_basis, height] at inside)
      rwa [basic, basic, List.getD_eq_getElem _ _ inside, List.getD_eq_getElem _ _ otherInside]
        at owned
  · rw [reached.equivalent.rowSpace_eq, otherReached.equivalent.rowSpace_eq]
    exact le_antisymm (rowSpace_penalized_le penalty other) (rowSpace_penalized_le other penalty)

/-- A charge that is larger than the gain has the sign of the rate.  This is why
a large enough penalty decides. -/
theorem sign_of_charge {rate gain : Rat} (large : |gain| / |rate| < penalty) :
    (rate < 0 → penalty * rate - gain < 0) ∧ (0 < rate → 0 ≤ penalty * rate - gain) := by
  have upper := le_abs_self gain
  have lower := neg_abs_le gain
  constructor
  · intro falls
    rw [abs_of_neg falls, div_lt_iff₀ (neg_pos.mpr falls)] at large
    linarith
  · intro rises
    rw [abs_of_pos rises, div_lt_iff₀ rises] at large
    linarith

open Filter in
theorem eventually_decides (shaped : problem.WellShaped)
    (basis : Fin problem.constraints.length → Fin (problem.dimension + problem.counts.total))
    (column : Fin (problem.dimension + problem.counts.total)) :
    ∀ᶠ penalty in atTop, ∀ tableau, Reached (problem.penalized penalty) tableau →
      (∀ row : Fin problem.constraints.length, tableau.basic row = basis row) →
      (problem.shortfallRate tableau column < 0 → tableau.entry tableau.height column < 0) ∧
        (0 < problem.shortfallRate tableau column → 0 ≤ tableau.entry tableau.height column) := by
  by_cases occurs : ∃ other tableau, Reached (problem.penalized other) tableau ∧
      ∀ row : Fin problem.constraints.length, tableau.basic row = basis row
  · rcases occurs with ⟨other, model, modelReached, modelBasis⟩
    filter_upwards [eventually_gt_atTop (|problem.system.value (model.edge column)| /
      |problem.shortfallRate model column|)] with penalty large tableau reached owned
    have edges : tableau.edge column = model.edge column :=
      edge_eq_of_penalized reached modelReached
        (fun row inside => (owned ⟨row, inside⟩).trans (modelBasis ⟨row, inside⟩).symm) column
    have inside : (column : Nat) < tableau.width := (width_reached reached shaped).symm ▸ column.isLt
    rw [entry_height_reached reached shaped inside, shortfallRate, edges]
    exact sign_of_charge large
  · exact .of_forall fun penalty tableau reached owned =>
      absurd ⟨penalty, tableau, reached, owned⟩ occurs

open Filter in
/-- Every large enough penalty decides in every tableau that it leads to.  There
are finitely many bases, and each of them asks for no more than a bound of its
own. -/
theorem exists_threshold (shaped : problem.WellShaped) :
    ∃ threshold, ∀ penalty, threshold ≤ penalty → ∀ tableau,
      Reached (problem.penalized penalty) tableau → problem.PenaltyDecides 0 tableau := by
  -- One threshold for each basis and each column; there are finitely many of both.
  have decides := eventually_all.mpr fun basis => eventually_all.mpr fun column =>
    eventually_decides shaped basis column
  rcases eventually_atTop.mp decides with ⟨threshold, enough⟩
  refine ⟨threshold, fun penalty large tableau reached => ?_⟩
  have width := width_reached reached shaped
  have height := reached.equivalent.height_eq.trans height_penalized
  have inside : ∀ row : Fin problem.constraints.length,
      tableau.basic row < problem.dimension + problem.counts.total := by
    intro row
    rw [← width]
    exact reached.based.basic_lt row (height.symm ▸ row.isLt)
  have chosen : ∀ column < tableau.width,
      (problem.shortfallRate tableau column < 0 → tableau.entry tableau.height column < 0) ∧
        (0 < problem.shortfallRate tableau column → 0 ≤ tableau.entry tableau.height column) := by
    intro column bounded
    rw [width] at bounded
    exact enough penalty large (fun row => ⟨tableau.basic row, inside row⟩) ⟨column, bounded⟩ tableau
      reached fun _ => rfl
  refine ⟨visible_zero tableau, fun column bounded => ?_, fun column bounded => ?_⟩
  · rw [neg_zero]
    exact (chosen column bounded).1
  · rw [neg_zero]
    exact (chosen column bounded).2

end Problem
end Linear
end Optimum
