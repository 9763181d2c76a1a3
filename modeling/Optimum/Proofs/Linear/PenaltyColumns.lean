import Optimum.Linear.BigM
import Optimum.Proofs.Linear.SlackStart

namespace Optimum
namespace Linear

open Scalar Tableau

/-!
# Where the added columns stand

The method of penalties counts the slack, surplus and artificial columns of
the constraints above a row to find the place of its own.  The counts only
grow from row to row, so no two rows share a column, and one formula gives the
entries of all three kinds of rows.
-/

/-- The entry of a constraint in the column that takes up its slack.  An
equation has no such column, and zero stands for that. -/
def Relation.slackSign : Relation → Rat
  | .le => 1
  | .eq => 0
  | .ge => -1

/-- The entry of a constraint in its artificial column. -/
def Relation.artificialShare : Relation → Rat
  | .le => 0
  | _ => 1

theorem Relation.artificialShare_eq_one {relation : Relation} (needed : relation ≠ .le) :
    relation.artificialShare = 1 := by
  cases relation with
  | le => exact absurd rfl needed
  | eq | ge => rfl

namespace BigM
namespace Counts

/-- Whether no kind of column is counted more often than in other counts.
Positions within the counts of the whole problem are then positions of
columns. -/
structure Within (counts all : Counts) : Prop where
  slack : counts.slack ≤ all.slack
  surplus : counts.surplus ≤ all.surplus
  artificial : counts.artificial ≤ all.artificial

theorem Within.refl (counts : Counts) : counts.Within counts :=
  ⟨Nat.le_refl _, Nat.le_refl _, Nat.le_refl _⟩

theorem Within.trans {first second third : Counts} (left : first.Within second)
    (right : second.Within third) : first.Within third :=
  ⟨left.slack.trans right.slack, left.surplus.trans right.surplus,
    left.artificial.trans right.artificial⟩

theorem within_after (counts : Counts) (relation : Relation) :
    counts.Within (counts.after relation) := by
  cases relation with
  | le => exact ⟨Nat.le_succ _, Nat.le_refl _, Nat.le_refl _⟩
  | eq => exact ⟨Nat.le_refl _, Nat.le_refl _, Nat.le_succ _⟩
  | ge => exact ⟨Nat.le_refl _, Nat.le_succ _, Nat.le_succ _⟩

variable {constraints : List (Constraint Rat)} {row : Nat}

theorem of_take_succ (inside : row < constraints.length) :
    of (constraints.take (row + 1)) =
      (of (constraints.take row)).after constraints[row].relation := by
  rw [List.take_succ_eq_append_getElem inside, of, List.foldl_append]
  rfl

theorem within_of_take {next : Nat} (ordered : row ≤ next) (bounded : next ≤ constraints.length) :
    (of (constraints.take row)).Within (of (constraints.take next)) := by
  induction next, ordered using Nat.le_induction with
  | base => exact .refl _
  | succ next _ inductionHypothesis =>
      rw [of_take_succ bounded]
      exact (inductionHypothesis (Nat.le_of_succ_le bounded)).trans (within_after _ _)

/-- The columns of a row are counted in every row below it. -/
theorem after_within_of_take {next : Nat} (inside : row < constraints.length) (before : row < next)
    (bounded : next ≤ constraints.length) :
    ((of (constraints.take row)).after constraints[row].relation).Within
      (of (constraints.take next)) := by
  rw [← of_take_succ inside]
  exact within_of_take before bounded

theorem after_within_of (inside : row < constraints.length) :
    ((of (constraints.take row)).after constraints[row].relation).Within (of constraints) := by
  have within := after_within_of_take inside inside (Nat.le_refl _)
  rwa [List.take_length] at within

end Counts

/-! ## Entries of one row -/

variable {all before : Counts} {relation : Relation}

/-- The position among the added columns of the one that takes up the slack of
a constraint.  An equation has none, and its entry there is zero. -/
def boundPosition (all before : Counts) : Relation → Nat
  | .le => before.slack
  | _ => all.slack + before.surplus

/-- The position among the added columns of the artificial one. -/
def artificialPosition (all before : Counts) : Nat :=
  all.slack + all.surplus + before.artificial

theorem basicPosition_eq :
    basicPosition all before relation =
      if relation = .le then boundPosition all before relation else artificialPosition all before := by
  cases relation with
  | le | eq | ge => rfl

theorem length_addedEntries :
    (addedEntries all before relation : List Rat).length = all.total := by
  cases relation with
  | le | eq | ge =>
      simp only [addedEntries, List.length_append, length_unitRow, List.length_set,
        List.length_replicate, Counts.total, Nat.add_assoc]

private theorem getD_append (left right : List Rat) (column : Nat) :
    (left ++ right).getD column 0 =
      if column < left.length then left.getD column 0 else right.getD (column - left.length) 0 := by
  split
  · rename_i inside
    exact List.getD_append _ _ _ _ inside
  · rename_i outside
    exact List.getD_append_right _ _ _ _ (not_lt.mp outside)

private theorem getD_zeros (count column : Nat) : (List.replicate count (0 : Rat)).getD column 0 = 0 := by
  rw [List.getD_eq_getElem?_getD, List.getElem?_replicate]
  split <;> rfl

private theorem getD_single {count position : Nat} (inside : position < count) (value : Rat)
    (column : Nat) :
    ((List.replicate count 0).set position value).getD column 0 =
      if column = position then value else 0 := by
  rw [List.getD_eq_getElem?_getD, List.getElem?_set, List.length_replicate]
  by_cases same : column = position
  · rw [if_pos same.symm, if_pos inside, if_pos same]
    rfl
  · rw [if_neg (Ne.symm same), if_neg same, ← List.getD_eq_getElem?_getD, getD_zeros]

/-- The entries of a row in the added columns, whatever its relation is.  The
two parts are zero where there is no such column. -/
theorem getD_addedEntries (within : (before.after relation).Within all) (column : Nat) :
    (addedEntries all before relation : List Rat).getD column 0 =
      (if column = boundPosition all before relation then relation.slackSign else 0) +
        if column = artificialPosition all before then relation.artificialShare else 0 := by
  -- A row is made of stretches of zeros with single entries between them.
  cases relation with
  | le =>
      have slackInside : before.slack < all.slack := within.slack
      simp only [addedEntries, unitRow, getD_append, getD_zeros, getD_single slackInside,
        List.length_set, List.length_replicate, boundPosition, Relation.slackSign,
        Relation.artificialShare, ite_self, add_zero]
      grind
  | eq =>
      have artificialInside : before.artificial < all.artificial := within.artificial
      simp only [addedEntries, unitRow, getD_append, getD_zeros, getD_single artificialInside,
        List.length_replicate, artificialPosition, Relation.slackSign,
        Relation.artificialShare, ite_self, zero_add]
      grind
  | ge =>
      have surplusInside : before.surplus < all.surplus := within.surplus
      have artificialInside : before.artificial < all.artificial := within.artificial
      simp only [addedEntries, unitRow, getD_append, getD_zeros, getD_single surplusInside,
        getD_single artificialInside, List.length_append, List.length_set, List.length_replicate,
        boundPosition, artificialPosition, Relation.slackSign, Relation.artificialShare]
      grind

/-- A row of the first tableau, by the counts of the rows above it. -/
theorem getElem?_startRows (all : Counts) (first : Nat) (before : Counts)
    (constraints : List (Constraint Rat)) (row : Nat) :
    (startRows all first before constraints)[row]? = constraints[row]?.map fun constraint =>
      let above := (constraints.take row).foldl
        (fun counts earlier => counts.after earlier.relation) before
      (constraint.coefficients ++ addedEntries all above constraint.relation ++ [constraint.rhs],
        first + basicPosition all above constraint.relation) := by
  induction constraints generalizing before row with
  | nil => rfl
  | cons constraint others inductionHypothesis =>
      cases row with
      | zero => rfl
      | succ row => exact inductionHypothesis _ row

theorem length_startRows (all : Counts) (first : Nat) (before : Counts)
    (constraints : List (Constraint Rat)) :
    (startRows all first before constraints).length = constraints.length := by
  induction constraints generalizing before with
  | nil => rfl
  | cons constraint others inductionHypothesis =>
      rw [startRows, List.length_cons, List.length_cons, inductionHypothesis]

/-! ## No two rows share a column -/

/-- Two rows are apart if the columns of one are counted above the other. -/
def Apart (first : Counts) (firstRelation : Relation) (second : Counts)
    (secondRelation : Relation) : Prop :=
  (first.after firstRelation).Within second ∨ (second.after secondRelation).Within first

section Apart

variable {first second : Counts} {firstRelation secondRelation : Relation}

theorem boundPosition_lt (within : (before.after relation).Within all) (bound : relation ≠ .eq) :
    boundPosition all before relation < all.slack + all.surplus := by
  cases relation with
  | le => exact Nat.lt_of_lt_of_le within.slack (Nat.le_add_right _ _)
  | eq => exact absurd rfl bound
  | ge => exact Nat.add_lt_add_left within.surplus _

theorem artificialPosition_lt (within : (before.after relation).Within all)
    (needed : relation ≠ .le) : artificialPosition all before < all.total := by
  cases relation with
  | le => exact absurd rfl needed
  | eq | ge => exact Nat.add_lt_add_left within.artificial _

theorem boundPosition_ne_of_within (ordered : (first.after firstRelation).Within second)
    (firstWithin : (first.after firstRelation).Within all)
    (secondWithin : (second.after secondRelation).Within all)
    (firstBound : firstRelation ≠ .eq) (secondBound : secondRelation ≠ .eq) :
    boundPosition all first firstRelation ≠ boundPosition all second secondRelation := by
  -- Columns of one kind are counted in order; those of two kinds lie in different stretches.
  cases firstRelation with
  | eq => exact absurd rfl firstBound
  | le =>
      cases secondRelation with
      | eq => exact absurd rfl secondBound
      | le => exact Nat.ne_of_lt ordered.slack
      | ge => exact Nat.ne_of_lt (Nat.lt_of_lt_of_le firstWithin.slack (Nat.le_add_right _ _))
  | ge =>
      cases secondRelation with
      | eq => exact absurd rfl secondBound
      | le => exact Nat.ne_of_gt (Nat.lt_of_lt_of_le secondWithin.slack (Nat.le_add_right _ _))
      | ge => exact Nat.ne_of_lt (Nat.add_lt_add_left ordered.surplus _)

theorem boundPosition_ne (apart : Apart first firstRelation second secondRelation)
    (firstWithin : (first.after firstRelation).Within all)
    (secondWithin : (second.after secondRelation).Within all)
    (firstBound : firstRelation ≠ .eq) (secondBound : secondRelation ≠ .eq) :
    boundPosition all first firstRelation ≠ boundPosition all second secondRelation := by
  rcases apart with above | below
  · exact boundPosition_ne_of_within above firstWithin secondWithin firstBound secondBound
  · exact (boundPosition_ne_of_within below secondWithin firstWithin secondBound firstBound).symm

theorem artificialPosition_ne (apart : Apart first firstRelation second secondRelation)
    (firstNeeded : firstRelation ≠ .le) (secondNeeded : secondRelation ≠ .le) :
    artificialPosition all first ≠ artificialPosition all second := by
  have different : first.artificial ≠ second.artificial := by
    rcases apart with ⟨-, -, artificial⟩ | ⟨-, -, artificial⟩
    · cases firstRelation with
      | le => exact absurd rfl firstNeeded
      | eq | ge => exact Nat.ne_of_lt artificial
    · cases secondRelation with
      | le => exact absurd rfl secondNeeded
      | eq | ge => exact Nat.ne_of_gt artificial
  exact fun same => different (Nat.add_left_cancel same)

end Apart

end BigM
end Linear
end Optimum
