import Optimum.Proofs.Linear.Bounds

namespace Optimum
namespace Linear

open Scalar Tableau

/-!
# The slack tableau of a problem

The start of the dual method is the slack tableau of its problem, read as a
system of bounds.  For a problem all of whose constraints bound from above it
is also the start of the simplex method.
-/

variable {problem : Problem Rat}

/-! ## Rows in three parts -/

section Parts

variable {entries added : List Rat} {side : Rat} {left right column : Nat}

theorem getD_parts_left (inside : column < entries.length) :
    (entries ++ added ++ [side]).getD column 0 = entries.getD column 0 := by
  rw [List.append_assoc, List.getD_append _ _ _ _ inside]

theorem getD_parts_middle (leftLength : entries.length = left)
    (inside : column < added.length) :
    (entries ++ added ++ [side]).getD (left + column) 0 = added.getD column 0 := by
  rw [← leftLength, List.append_assoc, List.getD_append_right _ _ _ _ (Nat.le_add_right _ _),
    Nat.add_sub_cancel_left, List.getD_append _ _ _ _ inside]

theorem getD_parts_last (leftLength : entries.length = left)
    (rightLength : added.length = right) :
    (entries ++ added ++ [side]).getD (left + right) 0 = side := by
  rw [← leftLength, ← rightLength, ← List.length_append,
    List.getD_append_right _ _ _ _ (Nat.le_refl _), Nat.sub_self]
  rfl

theorem length_parts :
    (entries ++ added ++ [side]).length = entries.length + added.length + 1 := by
  rw [List.length_append, List.length_append, List.length_singleton]

end Parts

theorem length_unitRow (count position : Nat) :
    (unitRow count position : List Rat).length = count := by
  rw [unitRow, List.length_set, List.length_replicate]

theorem getD_unitRow {count position column : Nat} (inside : column < count) :
    (unitRow count position : List Rat).getD column 0 = if position = column then 1 else 0 := by
  rw [unitRow, List.getD_eq_getElem?_getD, List.getElem?_set, List.length_replicate]
  by_cases same : position = column
  · rw [if_pos same, if_pos (same ▸ inside), if_pos same]
    rfl
  · rw [if_neg same, if_neg same, List.getElem?_replicate, if_pos inside]
    rfl

theorem length_numbered (letter : String) (count : Nat) : (numbered letter count).length = count := by
  rw [numbered, List.length_map, List.length_range]

/-! ## The tableau -/

/-- A constraint's row in the slack tableau. -/
private def slackRow (problem : Problem Rat) (row : Nat) (constraint : Constraint Rat) : List Rat :=
  constraint.coefficients.map (constraint.relation.sign * ·) ++
    unitRow problem.constraints.length row ++ [constraint.relation.sign * constraint.rhs]

private theorem row_dualTableau {row : Nat} (inside : row < problem.constraints.length) :
    (dualTableau problem).row row = slackRow problem row problem.constraints[row] := by
  have below : row < (dualTableau problem).height := by
    rw [height, dualTableau, List.length_mapIdx]
    exact inside
  rw [row_of_lt below, List.getD_eq_getElem _ _ below]
  simp only [dualTableau, List.getElem_mapIdx]
  rfl

private theorem height_dualTableau : (dualTableau problem).height = problem.constraints.length :=
  List.length_mapIdx

private theorem width_dualTableau (shaped : problem.WellShaped) :
    (dualTableau problem).width = problem.dimension + problem.constraints.length := by
  rw [width, dualTableau, List.length_append, length_numbered, shaped.length_names]

private theorem entry_objective_dualTableau (column : Nat) :
    (dualTableau problem).entry problem.constraints.length column =
      (problem.objectiveRow (List.replicate problem.constraints.length 0)).getD column 0 := by
  rw [← height_dualTableau, entry_height, height_dualTableau]
  rfl

private theorem length_scaled (shaped : problem.WellShaped) {row : Nat}
    (inside : row < problem.constraints.length) (factor : Rat) :
    (problem.constraints[row].coefficients.map (factor * ·)).length = problem.dimension := by
  rw [List.length_map, shaped.length_coefficients _ (List.getElem_mem inside)]

theorem length_negatedObjective :
    (problem.objective.map fun coefficient => -problem.sense.sign * coefficient).length =
      problem.dimension :=
  List.length_map _

theorem getD_scaled (factor : Rat) (values : List Rat) (j : Nat) :
    (values.map (factor * ·)).getD j 0 = factor * values.getD j 0 := by
  rw [List.getD_eq_getElem?_getD, List.getElem?_map, List.getD_eq_getElem?_getD]
  cases values[j]? with
  | none => exact (mul_zero factor).symm
  | some value => rfl

theorem shaped_dualTableau (shaped : problem.WellShaped) : (dualTableau problem).Shaped where
  length_rows := by
    intro entries member
    rcases List.mem_iff_getElem.mp member with ⟨row, inside, rfl⟩
    have bounded : row < problem.constraints.length := by
      rwa [dualTableau, List.length_mapIdx] at inside
    rw [width_dualTableau shaped]
    simp only [dualTableau, List.getElem_mapIdx]
    rw [length_parts, List.length_map, length_unitRow,
      shaped.length_coefficients _ (List.getElem_mem bounded)]
  length_objective := by
    rw [width_dualTableau shaped]
    simp only [dualTableau, Problem.objectiveRow]
    rw [length_parts, List.length_map, List.length_replicate]
    rfl
  length_basis := by
    rw [height_dualTableau]
    simp only [dualTableau, List.length_map, List.length_range]

theorem isSlackTableau_dualTableau (shaped : problem.WellShaped) :
    IsSlackTableau problem.system (dualTableau problem) where
  shaped := shaped_dualTableau shaped
  height_eq := height_dualTableau
  width_eq := width_dualTableau shaped
  basic_eq := by
    intro row inside
    change row < problem.constraints.length at inside
    rw [basic, dualTableau, List.getD_eq_getElem?_getD, List.getElem?_map,
      List.getElem?_range inside]
    rfl
  entry_unknown := by
    intro row inside j bounded
    change row < problem.constraints.length at inside
    rw [entry, row_dualTableau inside, slackRow, getD_parts_left, getD_scaled,
      Problem.system_matrix inside]
    rw [length_scaled shaped inside]
    exact bounded
  entry_slack := by
    intro k bounded row inside
    change row < problem.constraints.length at inside
    change (dualTableau problem).entry k (problem.dimension + row) = _
    rcases Nat.lt_or_eq_of_le bounded with constraint | objective
    · change k < problem.constraints.length at constraint
      rw [entry, row_dualTableau constraint, slackRow,
        getD_parts_middle (length_scaled shaped constraint _), getD_unitRow inside]
      rw [length_unitRow]
      exact inside
    · change k = problem.constraints.length at objective
      rw [objective, entry_objective_dualTableau, Problem.objectiveRow,
        getD_parts_middle length_negatedObjective, if_neg inside.ne']
      · rw [List.getD_eq_getElem?_getD, List.getElem?_replicate, if_pos inside]
        rfl
      · rw [List.length_replicate]
        exact inside
  rhs_eq := by
    intro row inside
    change row < problem.constraints.length at inside
    rw [rhs, entry, row_dualTableau inside, slackRow, Problem.system_bound inside,
      width_dualTableau shaped,
      getD_parts_last (length_scaled shaped inside _) (length_unitRow _ _)]
  entry_objective := by
    intro j bounded
    change (dualTableau problem).entry problem.constraints.length j = _
    rw [entry_objective_dualTableau, Problem.objectiveRow, getD_parts_left, getD_scaled, neg_mul]
    · rfl
    · rw [length_negatedObjective]
      exact bounded
  rhs_objective := by
    change (dualTableau problem).entry problem.constraints.length _ = 0
    rw [entry_objective_dualTableau, Problem.objectiveRow, width_dualTableau shaped,
      getD_parts_last length_negatedObjective List.length_replicate]

/-- For bounds from above no row is negated.  So the two starts are one, and
their theory is shared. -/
theorem slackTableau_eq_dualTableau
    (bounds : ∀ constraint ∈ problem.constraints, constraint.relation = .le) :
    slackTableau problem = dualTableau problem := by
  have rows : (slackTableau problem).rows = (dualTableau problem).rows := by
    apply List.ext_getElem
    · simp only [slackTableau, dualTableau, List.length_mapIdx]
    · intro row inside _
      have bounded : row < problem.constraints.length := by
        rwa [slackTableau, List.length_mapIdx] at inside
      have relation := bounds _ (List.getElem_mem bounded)
      simp only [slackTableau, dualTableau, List.getElem_mapIdx, relation]
      simp
  unfold slackTableau dualTableau at rows ⊢
  rw [Tableau.mk.injEq]
  exact ⟨rfl, rows, rfl, rfl⟩

end Linear
end Optimum
