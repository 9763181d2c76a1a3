import Optimum.Proofs.Tableau.Run

namespace Optimum
namespace Tableau

/-!
# Solutions along the edges of a basis

Every solution of the rows comes from the basic solution by going along the
edges, along each one as far as the solution raises its column.  Which edges
there are depends only on the space of the rows and on the basis, not on the
objective row, and so not on the pivots that led to the basis either.
-/

variable {tableau first second : Tableau Rat} {point combination : Nat → Rat}

theorem sum_mul_edge (tableau : Tableau Rat) (point : Nat → Rat) {column : Nat}
    (inside : column < tableau.width) :
    ∑ raised ∈ Finset.range tableau.width, point raised * tableau.edge raised column =
      point column - tableau.spread (fun index => tableau.leftSide index point) column := by
  have own : ∑ raised ∈ Finset.range tableau.width, point raised * (if column = raised then 1 else 0) =
      point column := by
    simp [Finset.mem_range.mpr inside]
  simp only [edge, mul_add, Finset.sum_add_distrib, own, sub_eq_add_neg]
  congr 1
  unfold spread
  cases tableau.basicRow? column with
  | none => simp
  | some index =>
      simp only [leftSide, ← Finset.sum_neg_distrib]
      exact Finset.sum_congr rfl fun raised _ => by ring

/-- A solution is the basic solution moved along the edges, by as much as it has
in the columns that are not basic. -/
theorem Solves.eq_valueOf_add (solves : tableau.Solves point) (based : tableau.HasBasis)
    {column : Nat} (inside : column < tableau.width) :
    point column = tableau.valueOf column +
      ∑ raised ∈ Finset.range tableau.width, point raised * tableau.edge raised column := by
  have carried : tableau.spread (fun index => tableau.leftSide index point) column =
      tableau.valueOf column := by
    rw [valueOf_eq_spread, spread, spread]
    cases found : tableau.basicRow? column with
    | none => rfl
    | some index => exact solves index (based.basicRow?_eq_some_iff.mp found).1
  rw [sum_mul_edge tableau point inside, carried, add_sub_cancel]

/-- The entries of a combination in the basic columns are its weights, so a
combination is known from these entries alone. -/
theorem HasBasis.combination_eq (based : tableau.HasBasis)
    (member : combination ∈ tableau.rowSpace) (column : Nat) :
    combination column = ∑ row ∈ Finset.range tableau.height,
      combination (tableau.basic row) * tableau.entry row column := by
  rcases mem_rowSpace_iff.mp member with ⟨weights, equal⟩
  have owned : ∀ row < tableau.height, combination (tableau.basic row) = weights row := by
    intro row inside
    rw [equal, Finset.sum_eq_single_of_mem row (Finset.mem_range.mpr inside),
      based.entry_basic_self inside, mul_one]
    intro other otherMember different
    rw [based.entry_basic_of_ne inside (Finset.mem_range.mp otherMember).le different, mul_zero]
  rw [equal]
  exact Finset.sum_congr rfl fun row rowMember => by rw [owned row (Finset.mem_range.mp rowMember)]

section SameBasis

variable (based : first.HasBasis) (otherBased : second.HasBasis) (same : first.basis = second.basis)
  (spaces : first.rowSpace = second.rowSpace)

include based otherBased same

theorem height_eq_of_basis_eq : first.height = second.height := by
  rw [← based.length_basis, same, otherBased.length_basis]

include spaces

theorem entry_eq_of_basis_eq {row : Nat} (inside : row < first.height) (column : Nat) :
    first.entry row column = second.entry row column := by
  have heights := height_eq_of_basis_eq based otherBased same
  have basics : second.basic = first.basic := by
    funext index
    rw [basic, basic, same]
  have member : first.entry row ∈ second.rowSpace := spaces ▸ entry_mem_rowSpace inside
  rw [otherBased.combination_eq member column, basics,
    Finset.sum_eq_single_of_mem row (Finset.mem_range.mpr (heights ▸ inside)),
    based.entry_basic_self inside, one_mul]
  intro other member different
  rw [based.entry_basic_of_ne (heights ▸ Finset.mem_range.mp member) inside.le different.symm,
    zero_mul]

/-- The edges are those of the basis.  Two tableaus of a run with the same basic
columns have the same edges, whatever the pivots between them. -/
theorem edge_eq_of_basis_eq (raised : Nat) : first.edge raised = second.edge raised := by
  funext column
  have searched : second.basicRow? column = first.basicRow? column := by
    rw [basicRow?, basicRow?, same]
  rw [edge, edge, spread, spread, searched]
  cases found : first.basicRow? column with
  | none => rfl
  | some index =>
      have inside := (based.basicRow?_eq_some_iff.mp found).1
      simp only [entry_eq_of_basis_eq based otherBased same spaces inside]

end SameBasis

end Tableau
end Optimum
