import Optimum.Proofs.Tableau.RowSpace

namespace Optimum
namespace Tableau

/-!
# Tableaus with a basis

A tableau has a basis if each constraint row owns a column that is one there
and zero in every other row, the objective row included.  Two families of
points can be read off it.  The basic solution sets the owned columns to the
right-hand sides and all others to zero.  The edge of a column raises that
column by one and moves the owned columns so that the rows stay balanced.
-/

variable {tableau : Tableau Rat}

/-- The column that a constraint row owns. -/
def basic (tableau : Tableau Rat) (index : Nat) : Nat :=
  tableau.basis.getD index 0

structure HasBasis (tableau : Tableau Rat) : Prop extends Shaped tableau where
  basic_lt : ∀ index < tableau.height, tableau.basic index < tableau.width
  entry_basic : ∀ index < tableau.height, ∀ k ≤ tableau.height,
    tableau.entry k (tableau.basic index) = if k = index then 1 else 0

namespace HasBasis

theorem entry_basic_self (based : tableau.HasBasis) {index : Nat}
    (inside : index < tableau.height) : tableau.entry index (tableau.basic index) = 1 := by
  rw [based.entry_basic index inside index inside.le, if_pos rfl]

theorem entry_basic_of_ne (based : tableau.HasBasis) {index k : Nat}
    (inside : index < tableau.height) (bounded : k ≤ tableau.height) (different : k ≠ index) :
    tableau.entry k (tableau.basic index) = 0 := by
  rw [based.entry_basic index inside k bounded, if_neg different]

/-- No column is owned twice, since its entry would have to be one and zero in
the same row. -/
theorem basic_injective (based : tableau.HasBasis) {first second : Nat}
    (firstInside : first < tableau.height) (secondInside : second < tableau.height)
    (same : tableau.basic first = tableau.basic second) : first = second := by
  by_contra different
  have one := based.entry_basic_self firstInside
  rw [same, based.entry_basic_of_ne secondInside firstInside.le different] at one
  exact zero_ne_one one

theorem basicRow?_eq_some_iff (based : tableau.HasBasis) {column index : Nat} :
    tableau.basicRow? column = some index ↔
      index < tableau.height ∧ tableau.basic index = column := by
  rw [basicRow?, List.findIdx?_eq_some_iff_getElem]
  constructor
  · rintro ⟨inside, found, -⟩
    rw [basic, List.getD_eq_getElem _ _ inside]
    exact ⟨based.length_basis ▸ inside, of_decide_eq_true found⟩
  · rintro ⟨inside, rfl⟩
    have bounded : index < tableau.basis.length := based.length_basis.symm ▸ inside
    refine ⟨bounded, decide_eq_true ?_, fun earlier before => ?_⟩
    · rw [basic, List.getD_eq_getElem _ _ bounded]
    · -- An earlier row does not own the column, for no column is owned twice.
      intro found
      have owned : tableau.basic earlier = tableau.basic index := by
        rw [basic, List.getD_eq_getElem _ _ (before.trans bounded)]
        exact of_decide_eq_true found
      exact before.ne (based.basic_injective (before.trans inside) inside owned)

end HasBasis

/-! ## Points carried by the basis -/

/-- The point that gives each owned column the amount of its row.  The basic
solution is such a point, and so is every direction along an edge. -/
def spread (tableau : Tableau Rat) (amounts : Nat → Rat) (column : Nat) : Rat :=
  match tableau.basicRow? column with
  | some index => amounts index
  | none => 0

theorem valueOf_eq_spread : tableau.valueOf = tableau.spread tableau.rhs := rfl

namespace HasBasis

theorem spread_eq_sum (based : tableau.HasBasis) (amounts : Nat → Rat) (column : Nat) :
    tableau.spread amounts column = ∑ index ∈ Finset.range tableau.height,
      if tableau.basic index = column then amounts index else 0 := by
  unfold spread
  cases found : tableau.basicRow? column with
  | some index =>
      rcases based.basicRow?_eq_some_iff.mp found with ⟨inside, owned⟩
      rw [Finset.sum_eq_single_of_mem index (Finset.mem_range.mpr inside), if_pos owned]
      intro other member different
      refine if_neg fun same => different ?_
      exact based.basic_injective (Finset.mem_range.mp member) inside (same.trans owned.symm)
  | none =>
      refine (Finset.sum_eq_zero fun index member => if_neg fun owned => ?_).symm
      have some := based.basicRow?_eq_some_iff.mpr ⟨Finset.mem_range.mp member, owned⟩
      rw [found] at some
      cases some

/-- A weighted sum over the columns is one over the rows that own them.  The
columns without an owner add nothing. -/
theorem sum_mul_spread (based : tableau.HasBasis) (weights amounts : Nat → Rat) :
    ∑ column ∈ Finset.range tableau.width, weights column * tableau.spread amounts column =
      ∑ index ∈ Finset.range tableau.height,
        weights (tableau.basic index) * amounts index := by
  calc ∑ column ∈ Finset.range tableau.width, weights column * tableau.spread amounts column
      = ∑ column ∈ Finset.range tableau.width, ∑ index ∈ Finset.range tableau.height,
          if tableau.basic index = column then weights column * amounts index else 0 := by
        refine Finset.sum_congr rfl fun column _ => ?_
        rw [based.spread_eq_sum, Finset.mul_sum]
        exact Finset.sum_congr rfl fun index _ => by rw [mul_ite, mul_zero]
    _ = ∑ index ∈ Finset.range tableau.height, ∑ column ∈ Finset.range tableau.width,
          if tableau.basic index = column then weights column * amounts index else 0 :=
        Finset.sum_comm
    _ = ∑ index ∈ Finset.range tableau.height,
          weights (tableau.basic index) * amounts index := by
        refine Finset.sum_congr rfl fun index member => ?_
        have inside := based.basic_lt index (Finset.mem_range.mp member)
        rw [Finset.sum_ite_eq, if_pos (Finset.mem_range.mpr inside)]

theorem leftSide_spread (based : tableau.HasBasis) (amounts : Nat → Rat) {index : Nat}
    (inside : index < tableau.height) :
    tableau.leftSide index (tableau.spread amounts) = amounts index := by
  rw [leftSide, based.sum_mul_spread, Finset.sum_eq_single_of_mem index
    (Finset.mem_range.mpr inside), based.entry_basic_self inside, one_mul]
  intro other member different
  rw [based.entry_basic_of_ne (Finset.mem_range.mp member) inside.le different.symm, zero_mul]

theorem leftSide_height_spread (based : tableau.HasBasis) (amounts : Nat → Rat) :
    tableau.leftSide tableau.height (tableau.spread amounts) = 0 := by
  rw [leftSide, based.sum_mul_spread]
  refine Finset.sum_eq_zero fun index member => ?_
  have inside := Finset.mem_range.mp member
  rw [based.entry_basic_of_ne inside (Nat.le_refl _) inside.ne', zero_mul]

/-! ## The basic solution -/

theorem solves_valueOf (based : tableau.HasBasis) : tableau.Solves tableau.valueOf := by
  intro index inside
  rw [valueOf_eq_spread, based.leftSide_spread _ inside]

theorem valueAt_valueOf (based : tableau.HasBasis) :
    tableau.valueAt tableau.valueOf = tableau.objectiveValue := by
  rw [valueAt, valueOf_eq_spread, based.leftSide_height_spread, sub_zero, objectiveValue_eq_rhs]

end HasBasis

theorem spread_nonneg {amounts : Nat → Rat} (based : tableau.HasBasis)
    (nonneg : ∀ index < tableau.height, 0 ≤ amounts index) (column : Nat) :
    0 ≤ tableau.spread amounts column := by
  unfold spread
  cases found : tableau.basicRow? column with
  | some index => exact nonneg index (based.basicRow?_eq_some_iff.mp found).1
  | none => exact le_refl 0

/-! ## The edge of a column -/

/-- How the columns move when one is raised by one.  The basic columns give way
so that the rows stay balanced, and the others stay where they are. -/
def edge (tableau : Tableau Rat) (raised column : Nat) : Rat :=
  (if column = raised then 1 else 0) + tableau.spread (fun index => -tableau.entry index raised) column

namespace HasBasis

theorem leftSide_edge (based : tableau.HasBasis) {raised index : Nat}
    (inside : raised < tableau.width) (bounded : index < tableau.height) :
    tableau.leftSide index (tableau.edge raised) = 0 := by
  have carried := based.leftSide_spread (fun index => -tableau.entry index raised) bounded
  simp only [leftSide] at carried
  simp only [leftSide, edge, mul_add, Finset.sum_add_distrib, carried]
  rw [Finset.sum_eq_single_of_mem raised (Finset.mem_range.mpr inside)]
  · rw [if_pos rfl, mul_one, add_neg_cancel]
  · intro other _ different
    rw [if_neg different, mul_zero]

theorem leftSide_height_edge (based : tableau.HasBasis) {raised : Nat}
    (inside : raised < tableau.width) :
    tableau.leftSide tableau.height (tableau.edge raised) =
      tableau.entry tableau.height raised := by
  have carried := based.leftSide_height_spread fun index => -tableau.entry index raised
  simp only [leftSide] at carried
  simp only [leftSide, edge, mul_add, Finset.sum_add_distrib, carried, add_zero]
  rw [Finset.sum_eq_single_of_mem raised (Finset.mem_range.mpr inside)]
  · rw [if_pos rfl, mul_one]
  · intro other _ different
    rw [if_neg different, mul_zero]

theorem edge_nonneg (based : tableau.HasBasis) {raised : Nat}
    (blocked : ∀ index < tableau.height, tableau.entry index raised ≤ 0) (column : Nat) :
    0 ≤ tableau.edge raised column := by
  have carried := spread_nonneg based (fun index inside => neg_nonneg.mpr (blocked index inside))
    column
  unfold edge
  by_cases same : column = raised
  · rw [if_pos same]
    exact add_nonneg zero_le_one carried
  · rw [if_neg same, zero_add]
    exact carried

end HasBasis

/-! ## Pivots -/

/-- A pivot hands the row's ownership to the pivot column. -/
theorem PivotsTo.basic_eq {row column : Nat} {next : Tableau Rat}
    (step : tableau.PivotsTo row column next) (shaped : tableau.Shaped)
    (inside : row < tableau.height) (index : Nat) :
    next.basic index = if index = row then column else tableau.basic index := by
  rw [basic, step.basis_eq, List.getD_eq_getElem?_getD, List.getElem?_set]
  by_cases same : row = index
  · rw [if_pos same, if_pos (shaped.length_basis.symm ▸ inside), if_pos same.symm]
    rfl
  · rw [if_neg same, if_neg (Ne.symm same), ← List.getD_eq_getElem?_getD]
    rfl

theorem PivotsTo.hasBasis {row column : Nat} {next : Tableau Rat}
    (step : tableau.PivotsTo row column next) (based : tableau.HasBasis)
    (rowInside : row < tableau.height) (columnInside : column < tableau.width)
    (nonzero : tableau.entry row column ≠ 0) : next.HasBasis where
  toShaped := step.shaped
  basic_lt := by
    intro index inside
    rw [step.basic_eq based.toShaped rowInside, step.width_eq]
    split
    · exact columnInside
    · exact based.basic_lt index (step.height_eq ▸ inside)
  entry_basic := by
    intro index inside k bounded
    rw [step.height_eq] at inside bounded
    rw [step.basic_eq based.toShaped rowInside]
    by_cases own : index = row
    · subst own
      rw [if_pos rfl]
      by_cases same : k = index
      · rw [if_pos same, same, step.entry_pivotRow, div_self nonzero]
      · rw [if_neg same, step.entry_of_ne k same, step.entry_pivotRow, div_self nonzero, mul_one,
          sub_self]
    · -- The pivot row is zero in the columns of the other rows, so they stay as they are.
      have empty : next.entry row (tableau.basic index) = 0 := by
        rw [step.entry_pivotRow, based.entry_basic_of_ne inside rowInside.le (Ne.symm own),
          zero_div]
      rw [if_neg own]
      by_cases same : k = row
      · rw [same, empty, if_neg (Ne.symm own)]
      · rw [step.entry_of_ne k same, empty, mul_zero, sub_zero,
          based.entry_basic index inside k bounded]

end Tableau
end Optimum
