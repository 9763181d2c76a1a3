import Optimum.Proofs.Linear.PenaltyColumns

namespace Optimum
namespace Linear

open Scalar Tableau

/-!
# The tableau of the method of penalties

The tableau that the method builds is read here once, entry by entry.
`Problem.rowAt` is a constraint as the method has it, with a right-hand side
that is not negative; its column for the slack or surplus and its artificial
column are `Problem.boundColumn` and `Problem.artificialColumn`.
-/

namespace Problem

variable {problem : Problem Rat} {penalty : Rat} {row : Nat}

/-! ## Constraints with right-hand sides that are not negative -/

/-- The constraints as the method reads them. -/
def normalForm (problem : Problem Rat) : List (Constraint Rat) :=
  problem.constraints.map BigM.normalized

/-- The columns that are added to a problem. -/
def counts (problem : Problem Rat) : BigM.Counts :=
  BigM.Counts.of problem.normalForm

/-- The columns that are added for the constraints above a row. -/
def countsAbove (problem : Problem Rat) (row : Nat) : BigM.Counts :=
  BigM.Counts.of (problem.normalForm.take row)

/-- The constraint of a row; beyond the last row the equation of zeros, so that
no lookup has to be guarded. -/
def rowAt (problem : Problem Rat) (row : Nat) : Constraint Rat :=
  problem.normalForm.getD row ⟨"", [], .eq, 0⟩

/-- The column that takes up the slack of a row. -/
def boundColumn (problem : Problem Rat) (row : Nat) : Nat :=
  problem.dimension + BigM.boundPosition problem.counts (problem.countsAbove row)
    (problem.rowAt row).relation

/-- The column from which on all columns are artificial.  The method tells them
by their position alone. -/
def firstArtificial (problem : Problem Rat) : Nat :=
  problem.dimension + problem.counts.slack + problem.counts.surplus

def artificialColumn (problem : Problem Rat) (row : Nat) : Nat :=
  problem.dimension + BigM.artificialPosition problem.counts (problem.countsAbove row)

theorem length_normalForm : problem.normalForm.length = problem.constraints.length :=
  List.length_map _

theorem rowAt_eq (inside : row < problem.constraints.length) :
    problem.rowAt row = BigM.normalized problem.constraints[row] := by
  rw [rowAt, List.getD_eq_getElem _ _ (length_normalForm.symm ▸ inside)]
  exact List.getElem_map _

theorem getElem_normalForm (inside : row < problem.normalForm.length) :
    problem.normalForm[row] = problem.rowAt row :=
  (List.getD_eq_getElem _ _ inside).symm

theorem rhs_rowAt_nonneg (inside : row < problem.constraints.length) :
    0 ≤ (problem.rowAt row).rhs := by
  rw [rowAt_eq inside, BigM.normalized]
  split
  · rename_i negative
    exact neg_nonneg.mpr negative.le
  · rename_i notNegative
    exact not_lt.mp notNegative

theorem length_coefficients_rowAt (shaped : problem.WellShaped)
    (inside : row < problem.constraints.length) :
    (problem.rowAt row).coefficients.length = problem.dimension := by
  rw [rowAt_eq inside, BigM.normalized]
  split
  · rw [Constraint.negated, List.length_map]
    exact shaped.length_coefficients _ (List.getElem_mem inside)
  · exact shaped.length_coefficients _ (List.getElem_mem inside)

/-! ## The columns of the rows -/

theorem after_within (inside : row < problem.constraints.length) :
    ((problem.countsAbove row).after (problem.rowAt row).relation).Within problem.counts := by
  rw [← length_normalForm] at inside
  rw [← getElem_normalForm inside]
  exact BigM.Counts.after_within_of inside

theorem apart {other : Nat} (different : row ≠ other) (inside : row < problem.constraints.length)
    (otherInside : other < problem.constraints.length) :
    BigM.Apart (problem.countsAbove row) (problem.rowAt row).relation
      (problem.countsAbove other) (problem.rowAt other).relation := by
  rw [← length_normalForm] at inside otherInside
  rw [← getElem_normalForm inside, ← getElem_normalForm otherInside]
  rcases Nat.lt_or_gt_of_ne different with before | after
  · exact .inl (BigM.Counts.after_within_of_take inside before otherInside.le)
  · exact .inr (BigM.Counts.after_within_of_take otherInside after inside.le)

theorem le_boundColumn : problem.dimension ≤ problem.boundColumn row :=
  Nat.le_add_right _ _

theorem boundColumn_lt (inside : row < problem.constraints.length)
    (bound : (problem.rowAt row).relation ≠ .eq) :
    problem.boundColumn row < problem.firstArtificial := by
  rw [boundColumn, firstArtificial, Nat.add_assoc]
  exact Nat.add_lt_add_left (BigM.boundPosition_lt (after_within inside) bound) _

theorem firstArtificial_le_artificialColumn :
    problem.firstArtificial ≤ problem.artificialColumn row := by
  rw [artificialColumn, firstArtificial, BigM.artificialPosition, ← Nat.add_assoc, ← Nat.add_assoc]
  exact Nat.le_add_right _ _

theorem le_artificialColumn : problem.dimension ≤ problem.artificialColumn row :=
  Nat.le_add_right _ _

theorem artificialColumn_lt (inside : row < problem.constraints.length)
    (needed : (problem.rowAt row).relation ≠ .le) :
    problem.artificialColumn row < problem.dimension + problem.counts.total :=
  Nat.add_lt_add_left (BigM.artificialPosition_lt (after_within inside) needed) _

theorem firstArtificial_le : problem.firstArtificial ≤ problem.dimension + problem.counts.total := by
  rw [firstArtificial, BigM.Counts.total, Nat.add_assoc]
  exact Nat.add_le_add_left (Nat.le_add_right _ _) _

theorem boundColumn_injective {other : Nat} (inside : row < problem.constraints.length)
    (otherInside : other < problem.constraints.length)
    (bound : (problem.rowAt row).relation ≠ .eq) (otherBound : (problem.rowAt other).relation ≠ .eq)
    (same : problem.boundColumn row = problem.boundColumn other) : row = other := by
  by_contra different
  exact BigM.boundPosition_ne (apart different inside otherInside) (after_within inside)
    (after_within otherInside) bound otherBound (Nat.add_left_cancel same)

theorem artificialColumn_injective {other : Nat} (inside : row < problem.constraints.length)
    (otherInside : other < problem.constraints.length)
    (needed : (problem.rowAt row).relation ≠ .le)
    (otherNeeded : (problem.rowAt other).relation ≠ .le)
    (same : problem.artificialColumn row = problem.artificialColumn other) : row = other := by
  by_contra different
  exact BigM.artificialPosition_ne (apart different inside otherInside) needed otherNeeded
    (Nat.add_left_cancel same)

/-! ## The tableau before the elimination -/

def penalized (problem : Problem Rat) (penalty : Rat) : Tableau Rat :=
  BigM.penalizedTableau problem problem.normalForm penalty

/-- The share of a column in the total of the artificial columns. -/
def artificialWeight (problem : Problem Rat) (column : Nat) : Rat :=
  if problem.firstArtificial ≤ column then 1 else 0

private def entriesAt (problem : Problem Rat) (row : Nat) : List Rat :=
  (problem.rowAt row).coefficients ++
    BigM.addedEntries problem.counts (problem.countsAbove row) (problem.rowAt row).relation ++
    [(problem.rowAt row).rhs]

private theorem getElem?_startRows (inside : row < problem.constraints.length) :
    (BigM.startRows problem.counts problem.dimension .zero problem.normalForm)[row]? =
      some (problem.entriesAt row, problem.dimension +
        BigM.basicPosition problem.counts (problem.countsAbove row) (problem.rowAt row).relation) := by
  rw [← length_normalForm] at inside
  rw [BigM.getElem?_startRows, List.getElem?_eq_getElem inside, getElem_normalForm inside]
  rfl

theorem height_penalized : (problem.penalized penalty).height = problem.constraints.length := by
  rw [height, penalized, BigM.penalizedTableau, List.length_map, BigM.length_startRows,
    length_normalForm]

theorem width_penalized (shaped : problem.WellShaped) :
    (problem.penalized penalty).width = problem.dimension + problem.counts.total := by
  simp only [width, penalized, BigM.penalizedTableau, List.length_append, length_numbered,
    shaped.length_names, counts, BigM.Counts.total, Nat.add_assoc]

private theorem row_penalized (inside : row < problem.constraints.length) :
    (problem.penalized penalty).row row = problem.entriesAt row := by
  have found := getElem?_startRows inside
  rw [row_of_lt (height_penalized.symm ▸ inside), List.getD_eq_getElem?_getD, penalized,
    BigM.penalizedTableau, List.getElem?_map]
  change (Option.map Prod.fst
    (BigM.startRows problem.counts problem.dimension .zero problem.normalForm)[row]?).getD [] = _
  rw [found]
  rfl

theorem basic_penalized (inside : row < problem.constraints.length) :
    (problem.penalized penalty).basic row =
      if (problem.rowAt row).relation = .le then problem.boundColumn row
      else problem.artificialColumn row := by
  have found := getElem?_startRows inside
  rw [basic, List.getD_eq_getElem?_getD, penalized, BigM.penalizedTableau, List.getElem?_map]
  change (Option.map Prod.snd
    (BigM.startRows problem.counts problem.dimension .zero problem.normalForm)[row]?).getD 0 = _
  rw [found, Option.map_some, Option.getD_some, BigM.basicPosition_eq, apply_ite (problem.dimension + ·)]
  rfl

section Shaped

variable (shaped : problem.WellShaped)

include shaped

theorem entry_penalized_unknown (inside : row < problem.constraints.length) {column : Nat}
    (unknown : column < problem.dimension) :
    (problem.penalized penalty).entry row column =
      (problem.rowAt row).coefficients.getD column 0 := by
  rw [entry, row_penalized inside, entriesAt, getD_parts_left]
  rw [length_coefficients_rowAt shaped inside]
  exact unknown

theorem entry_penalized_added (inside : row < problem.constraints.length) {column : Nat}
    (added : problem.dimension ≤ column) (bounded : column < problem.dimension + problem.counts.total) :
    (problem.penalized penalty).entry row column =
      (if column = problem.boundColumn row then (problem.rowAt row).relation.slackSign else 0) +
        if column = problem.artificialColumn row then (problem.rowAt row).relation.artificialShare
        else 0 := by
  obtain ⟨position, rfl⟩ := Nat.exists_eq_add_of_le added
  rw [entry, row_penalized inside, entriesAt,
    getD_parts_middle (length_coefficients_rowAt shaped inside),
    BigM.getD_addedEntries (after_within inside)]
  · simp only [boundColumn, artificialColumn, Nat.add_left_cancel_iff]
  · rw [BigM.length_addedEntries]
    exact Nat.lt_of_add_lt_add_left bounded

theorem rhs_penalized (inside : row < problem.constraints.length) :
    (problem.penalized penalty).rhs row = (problem.rowAt row).rhs := by
  rw [rhs, entry, row_penalized inside, entriesAt, width_penalized shaped,
    getD_parts_last (length_coefficients_rowAt shaped inside) BigM.length_addedEntries]

theorem shaped_penalized : (problem.penalized penalty).Shaped where
  length_rows := by
    intro entries member
    rcases List.mem_iff_getElem.mp member with ⟨row, inside, rfl⟩
    have bounded : row < problem.constraints.length := height_penalized ▸ inside
    have same : (problem.penalized penalty).row row = problem.entriesAt row := row_penalized bounded
    rw [row_of_lt inside, List.getD_eq_getElem _ _ inside] at same
    rw [same, entriesAt, length_parts, length_coefficients_rowAt shaped bounded,
      BigM.length_addedEntries, width_penalized shaped]
  length_objective := by
    rw [width_penalized shaped]
    simp only [penalized, BigM.penalizedTableau, objectiveRow, List.length_map, List.length_append,
      List.length_replicate]
    rfl
  length_basis := by
    rw [height_penalized, penalized, BigM.penalizedTableau, List.length_map,
      BigM.length_startRows, length_normalForm]

omit shaped in
theorem gain_of_le {column : Nat} (beyond : problem.dimension ≤ column) :
    problem.system.gain column = 0 := by
  change problem.sense.sign * problem.objective.getD column 0 = 0
  rw [List.getD_eq_default _ _ beyond, mul_zero]

omit shaped in
/-- The objective row before the elimination: the negated gains of the
variables, and the penalty in each artificial column. -/
theorem objective_penalized {column : Nat}
    (inside : column < problem.dimension + problem.counts.total) :
    (problem.penalized penalty).entry (problem.penalized penalty).height column =
      -problem.system.gain column + penalty * problem.artificialWeight column := by
  rw [entry_height, penalized, BigM.penalizedTableau, objectiveRow]
  rcases Nat.lt_or_ge column problem.dimension with unknown | added
  · have notArtificial : ¬ problem.firstArtificial ≤ column := by
      rw [firstArtificial]
      omega
    rw [getD_parts_left (length_negatedObjective.symm ▸ unknown), getD_scaled, artificialWeight,
      if_neg notArtificial, mul_zero, add_zero, neg_mul]
    rfl
  · rw [gain_of_le added, neg_zero, zero_add, artificialWeight, firstArtificial]
    obtain ⟨position, rfl⟩ := Nat.exists_eq_add_of_le added
    have bounded : position < problem.counts.slack + problem.counts.surplus +
        problem.counts.artificial := Nat.lt_of_add_lt_add_left inside
    change List.getD (_ ++ (List.replicate (problem.counts.slack + problem.counts.surplus) 0 ++
      List.replicate problem.counts.artificial penalty) ++ [0]) _ 0 = _
    rw [getD_parts_middle length_negatedObjective]
    · by_cases artificial : problem.counts.slack + problem.counts.surplus ≤ position
      · rw [if_pos (by omega), mul_one, List.getD_append_right _ _ _ _ (by simpa using artificial),
          List.getD_replicate]
        rw [List.length_replicate]
        omega
      · have below : position < problem.counts.slack + problem.counts.surplus := by omega
        rw [if_neg (by omega), mul_zero, List.getD_append _ _ _ _ (by simpa using below),
          List.getD_replicate _ below]
    · rw [List.length_append, List.length_replicate, List.length_replicate]
      exact bounded

omit shaped in
theorem rhs_objective_penalized (shaped : problem.WellShaped) :
    (problem.penalized penalty).rhs (problem.penalized penalty).height = 0 := by
  rw [rhs, entry_height, width_penalized shaped, penalized, BigM.penalizedTableau, objectiveRow]
  refine getD_parts_last length_negatedObjective ?_
  rw [List.length_append, List.length_replicate, List.length_replicate]
  rfl

theorem entry_boundColumn (inside : row < problem.constraints.length)
    (bound : (problem.rowAt row).relation ≠ .eq) {other : Nat}
    (otherInside : other < problem.constraints.length) :
    (problem.penalized penalty).entry other (problem.boundColumn row) =
      if other = row then (problem.rowAt row).relation.slackSign else 0 := by
  have below := boundColumn_lt inside bound
  have notArtificial : problem.boundColumn row ≠ problem.artificialColumn other :=
    (below.trans_le firstArtificial_le_artificialColumn).ne
  rw [entry_penalized_added shaped otherInside le_boundColumn (below.trans_le firstArtificial_le),
    if_neg notArtificial, add_zero]
  by_cases same : other = row
  · rw [if_pos same, same, if_pos rfl]
  · rw [if_neg same]
    by_cases otherBound : (problem.rowAt other).relation = .eq
    · rw [otherBound, Relation.slackSign, ite_self]
    · exact if_neg fun shared =>
        same (boundColumn_injective otherInside inside otherBound bound shared.symm)

theorem entry_artificialColumn (inside : row < problem.constraints.length)
    (needed : (problem.rowAt row).relation ≠ .le) {other : Nat}
    (otherInside : other < problem.constraints.length) :
    (problem.penalized penalty).entry other (problem.artificialColumn row) =
      if other = row then 1 else 0 := by
  have notBound : (if problem.artificialColumn row = problem.boundColumn other then
      (problem.rowAt other).relation.slackSign else 0) = 0 := by
    by_cases otherBound : (problem.rowAt other).relation = .eq
    · rw [otherBound, Relation.slackSign, ite_self]
    · have below := boundColumn_lt otherInside otherBound
      exact if_neg (below.trans_le firstArtificial_le_artificialColumn).ne'
  rw [entry_penalized_added shaped otherInside le_artificialColumn
    (artificialColumn_lt inside needed), notBound, zero_add]
  by_cases same : other = row
  · rw [if_pos same, same, if_pos rfl, Relation.artificialShare_eq_one needed]
  · rw [if_neg same]
    by_cases otherNeeded : (problem.rowAt other).relation = .le
    · rw [otherNeeded, Relation.artificialShare, ite_self]
    · exact if_neg fun shared =>
        same (artificialColumn_injective otherInside inside otherNeeded needed shared.symm)

/-- The basic column of a row is one there and zero in the other rows. -/
theorem entry_basic_penalized (inside : row < problem.constraints.length) {other : Nat}
    (otherInside : other < problem.constraints.length) :
    (problem.penalized penalty).entry other ((problem.penalized penalty).basic row) =
      if other = row then 1 else 0 := by
  rw [basic_penalized inside]
  by_cases above : (problem.rowAt row).relation = .le
  · rw [if_pos above, entry_boundColumn shaped inside (by rw [above]; decide) otherInside, above]
    rfl
  · rw [if_neg above, entry_artificialColumn shaped inside above otherInside]

end Shaped

end Problem
end Linear
end Optimum
