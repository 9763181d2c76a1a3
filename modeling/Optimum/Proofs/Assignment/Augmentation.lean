import Optimum.Proofs.Assignment.Covering

namespace Optimum
namespace Assignment

/-!
# Augmentation finds a largest matching

A search that succeeds adds its row to the rows of the matching.  A search that
fails has touched columns whose owners, like the row itself, may take no column
beyond them.  So a tight cover of the earlier rows is turned into one that
includes the new row: it gives up the lines of all rows that are so confined and
takes the touched columns instead, of which each replaces the line of its owner.
That is why a row for which the search has failed is never tried again.
-/

namespace Matching

variable {allowed : Nat → Nat → Bool} {matching : Matching} {row column : Nat}

/-! ## Owners -/

theorem rowOf?_eq_none_iff :
    matching.rowOf? column = none ↔ ∀ pair ∈ matching, pair.2 ≠ column := by
  simp [rowOf?]

theorem mem_of_rowOf?_eq_some (found : matching.rowOf? column = some row) :
    (row, column) ∈ matching := by
  rcases Option.map_eq_some_iff.mp found with ⟨pair, search, first⟩
  have second : pair.2 = column := by simpa using List.find?_some search
  rw [← first, ← second]
  exact List.mem_of_find?_eq_some search

theorem Proper.rowOf?_eq_some_iff (proper : Proper allowed matching) :
    matching.rowOf? column = some row ↔ (row, column) ∈ matching := by
  refine ⟨mem_of_rowOf?_eq_some, fun member => ?_⟩
  cases found : matching.rowOf? column with
  | none => exact absurd rfl (rowOf?_eq_none_iff.mp found _ member)
  | some owner =>
      have owned := mem_of_rowOf?_eq_some found
      exact congrArg some (proper.owner_unique owned member)

theorem give_of_free (free : matching.rowOf? column = none) :
    matching.give row column = (row, column) :: matching := by
  rw [give, List.filter_eq_self.mpr]
  intro pair member
  exact decide_eq_true (rowOf?_eq_none_iff.mp free pair member)

theorem Proper.perm_filter (proper : Proper allowed matching) (owned : (row, column) ∈ matching) :
    matching.Perm ((row, column) :: matching.filter fun pair => pair.2 ≠ column) := by
  have distinct : matching.Nodup := proper.nodup_columns.of_map Prod.snd
  have others : matching.erase (row, column) = matching.filter fun pair => pair.2 ≠ column := by
    rw [distinct.erase_eq_filter]
    refine List.filter_congr fun pair member => ?_
    apply Bool.eq_iff_iff.mpr
    rw [bne_iff_ne, decide_eq_true_iff]
    refine not_congr ⟨fun same => congrArg Prod.snd same, fun same => ?_⟩
    exact List.inj_on_of_nodup_map proper.nodup_columns member owned same
  rw [← others]
  exact List.perm_cons_erase owned

/-! ## Searches that succeed -/

theorem untouched_sublist (matching : Matching) (row : Nat) (untouched : List Nat) :
    (augment allowed matching row untouched).untouched.Sublist untouched := by
  fun_induction augment allowed matching row untouched with
  | case1 row untouched nothing => exact List.Sublist.refl untouched
  | case2 row untouched column candidate shorter free => exact List.erase_sublist
  | case3 row untouched column candidate shorter owner owned deeper deeperLimit moved search
      inductionHypothesis =>
      exact inductionHypothesis.trans List.erase_sublist
  | case4 row untouched column candidate shorter owner owned deeper deeperLimit search again
      deeperHypothesis againHypothesis =>
      exact againHypothesis.trans (deeperHypothesis.trans List.erase_sublist)

/-- What becomes of a matching when a row is added to it with columns from a
list of untouched ones. -/
structure Enlarges (matching moved : Matching) (row : Nat) (untouched : List Nat) : Prop where
  rows_perm : (moved.map Prod.fst).Perm (row :: matching.map Prod.fst)
  column_from : ∀ pair ∈ moved, pair ∈ matching ∨ pair.2 ∈ untouched
  keeps : ∀ pair ∈ matching, pair.2 ∉ untouched → pair ∈ moved

theorem Enlarges.mono {moved : Matching} {fewer untouched : List Nat}
    (enlarges : Enlarges matching moved row fewer) (subset : fewer ⊆ untouched) :
    Enlarges matching moved row untouched where
  rows_perm := enlarges.rows_perm
  column_from := fun pair member => (enlarges.column_from pair member).imp_right (@subset _)
  keeps := fun pair member outside =>
    enlarges.keeps pair member fun inside => outside (subset inside)

theorem Enlarges.give_free (free : matching.rowOf? column = none) {untouched : List Nat}
    (member : column ∈ untouched) :
    Enlarges matching (matching.give row column) row untouched := by
  rw [give_of_free free]
  constructor
  · rw [List.map_cons]
  · intro pair among
    rcases List.mem_cons.mp among with rfl | among
    · exact .inr member
    · exact .inl among
  · intro pair among _
    exact List.mem_cons_of_mem _ among

/-- The owner was found another column, so its old one goes to the row.  No
column is owned twice on the way. -/
theorem Enlarges.give_owned {moved : Matching} {owner : Nat} {untouched : List Nat}
    (enlarges : Enlarges matching moved owner (untouched.erase column))
    (owned : (owner, column) ∈ matching) (proper : Proper allowed moved)
    (distinct : untouched.Nodup) (member : column ∈ untouched) :
    Enlarges matching (moved.give row column) row untouched := by
  have kept : (owner, column) ∈ moved := enlarges.keeps _ owned distinct.not_mem_erase
  constructor
  · have divided := ((proper.perm_filter kept).map Prod.fst).symm.trans enlarges.rows_perm
    rw [give, List.map_cons]
    exact (List.Perm.cons_inv divided).cons row
  · intro pair among
    rcases List.mem_cons.mp among with rfl | among
    · exact .inr member
    · rcases enlarges.column_from pair (List.mem_of_mem_filter among) with old | new
      · exact .inl old
      · exact .inr (List.mem_of_mem_erase new)
  · intro pair among outside
    have different : pair.2 ≠ column := fun same => outside (same ▸ member)
    have present := enlarges.keeps pair among fun inside => outside (List.mem_of_mem_erase inside)
    exact List.mem_cons_of_mem _ (List.mem_filter.mpr ⟨present, decide_eq_true different⟩)

theorem enlarges_of_augment (proper : Proper allowed matching) (row : Nat)
    (untouched : List Nat) (distinct : untouched.Nodup) :
    ∀ moved, (augment allowed matching row untouched).found = some moved →
      Enlarges matching moved row untouched := by
  fun_induction augment allowed matching row untouched with
  | case1 row untouched nothing =>
      intro moved impossible
      cases impossible
  | case2 row untouched column candidate shorter free =>
      intro moved found
      cases found
      exact .give_free free (List.mem_of_find?_eq_some candidate)
  | case3 row untouched column candidate shorter owner owned deeper deeperLimit moved search
      inductionHypothesis =>
      intro result found
      cases found
      exact (inductionHypothesis (distinct.erase column) moved search).give_owned
        (mem_of_rowOf?_eq_some owned) (augment_proper proper owner _ moved search) distinct
        (List.mem_of_find?_eq_some candidate)
  | case4 row untouched column candidate shorter owner owned deeper deeperLimit search again
      deeperHypothesis againHypothesis =>
      have left : deeper.untouched.Sublist untouched :=
        (untouched_sublist _ _ _).trans List.erase_sublist
      intro moved found
      exact (againHypothesis (distinct.sublist left) moved found).mono left.subset

/-! ## Searches that fail -/

/-- Whether a row may take none of some columns. -/
def Misses (allowed : Nat → Nat → Bool) (row : Nat) (columns : List Nat) : Prop :=
  ∀ column ∈ columns, allowed row column = false

instance (row : Nat) (columns : List Nat) : Decidable (Misses allowed row columns) :=
  inferInstanceAs (Decidable (∀ column ∈ columns, allowed row column = false))

theorem Misses.mono {fewer columns : List Nat} (misses : Misses allowed row columns)
    (subset : fewer ⊆ columns) : Misses allowed row fewer :=
  fun column member => misses column (subset member)

/-- What a search without success leaves: neither its row nor the owner of a
column that it has touched may take one that it has not touched.  From this the
columns that it has touched can be made a part of a cover. -/
structure DeadEnd (allowed : Nat → Nat → Bool) (matching : Matching) (row : Nat)
    (before after : List Nat) : Prop where
  subset : after ⊆ before
  row_misses : Misses allowed row after
  owner_misses : ∀ column ∈ before, column ∉ after →
    ∃ owner, (owner, column) ∈ matching ∧ Misses allowed owner after

theorem deadEnd_of_augment (matching : Matching) (row : Nat) (untouched : List Nat) :
    (augment allowed matching row untouched).found = none →
      DeadEnd allowed matching row untouched
        (augment allowed matching row untouched).untouched := by
  fun_induction augment allowed matching row untouched with
  | case1 row untouched nothing =>
      intro _
      refine ⟨List.Subset.refl _, fun column member => ?_, fun column member outside => ?_⟩
      · exact Bool.eq_false_iff.mpr (List.find?_eq_none.mp nothing column member)
      · exact absurd member outside
  | case2 row untouched column candidate shorter free =>
      intro impossible
      cases impossible
  | case3 row untouched column candidate shorter owner owned deeper deeperLimit moved search
      inductionHypothesis =>
      intro impossible
      cases impossible
  | case4 row untouched column candidate shorter owner owned deeper deeperLimit search again
      deeperHypothesis againHypothesis =>
      intro nothing
      have first := deeperHypothesis search
      have second := againHypothesis nothing
      refine ⟨?_, second.row_misses, fun other member outside => ?_⟩
      · exact List.Subset.trans second.subset
          (List.Subset.trans first.subset List.erase_sublist.subset)
      · by_cases same : other = column
        · rw [same]
          exact ⟨owner, mem_of_rowOf?_eq_some owned, first.row_misses.mono second.subset⟩
        · by_cases later : other ∈ deeper.untouched
          · exact second.owner_misses other later outside
          · have inside : other ∈ untouched.erase column := (List.mem_erase_of_ne same).mpr member
            rcases first.owner_misses other inside later with ⟨holder, held, misses⟩
            exact ⟨holder, held, misses.mono second.subset⟩

/-! ## One more row -/

variable {height width : Nat} {rows columns : Finset Nat}

theorem OnTable.enlarges {moved : Matching} (onTable : matching.OnTable allowed height width)
    (enlarges : Enlarges matching moved height (List.range width))
    (proper : Proper allowed moved) : moved.OnTable allowed (height + 1) width where
  toProper := proper
  nodup_rows := by
    refine enlarges.rows_perm.nodup_iff.mpr (List.nodup_cons.mpr ⟨?_, onTable.nodup_rows⟩)
    intro member
    rcases List.mem_map.mp member with ⟨pair, paired, same⟩
    exact absurd same (onTable.inside pair paired).1.ne
  inside := by
    intro pair member
    constructor
    · have listed := enlarges.rows_perm.mem_iff.mp (List.mem_map_of_mem member)
      rcases List.mem_cons.mp listed with same | old
      · exact same ▸ Nat.lt_succ_self height
      · rcases List.mem_map.mp old with ⟨other, paired, same⟩
        exact same ▸ Nat.lt_succ_of_lt (onTable.inside other paired).1
    · rcases enlarges.column_from pair member with old | new
      · exact (onTable.inside pair old).2
      · exact List.mem_range.mp new

/-- With a cell more, a line more may be taken: that of the new row.  This is
the case of a search that succeeds. -/
theorem TightCover.insertRow (tight : matching.TightCover allowed height width rows columns)
    {moved : Matching} (longer : moved.length = matching.length + 1) :
    moved.TightCover allowed (height + 1) width (insert height rows) columns where
  covers := by
    intro row rowInside column columnInside permitted
    rcases Nat.lt_succ_iff_lt_or_eq.mp rowInside with before | same
    · exact (tight.covers row before column columnInside permitted).imp_left
        (Finset.mem_insert_of_mem ·)
    · exact .inl (same ▸ Finset.mem_insert_self height rows)
  card_le := by
    have inserted := Finset.card_insert_le height rows
    have bound := tight.card_le
    omega

/-- After a search without success, the columns that it has touched take the
place of all rows that may take no other. -/
theorem TightCover.confine (onTable : matching.OnTable allowed height width)
    (tight : matching.TightCover allowed height width rows columns) {untouched : List Nat}
    (dead : DeadEnd allowed matching height (List.range width) untouched) :
    matching.TightCover allowed (height + 1) width
      (rows.filter fun row => ¬ Misses allowed row untouched)
      (columns ∪ (Finset.range width).filter fun column => column ∉ untouched) where
  covers := by
    intro row rowInside column columnInside permitted
    by_cases left : column ∈ untouched
    · have meets : ¬ Misses allowed row untouched := fun misses => by
        rw [misses column left] at permitted
        cases permitted
      have before : row < height := by
        refine Nat.lt_of_le_of_ne (Nat.le_of_lt_succ rowInside) fun same => meets ?_
        exact same ▸ dead.row_misses
      rcases tight.covers row before column columnInside permitted with byRow | byColumn
      · exact .inl (Finset.mem_filter.mpr ⟨byRow, meets⟩)
      · exact .inr (Finset.mem_union_left _ byColumn)
    · have inside := Finset.mem_range.mpr columnInside
      exact .inr (Finset.mem_union_right _ (Finset.mem_filter.mpr ⟨inside, left⟩))
  card_le := by
    apply card_add_card_le
    · intro row member
      exact tight.exists_column onTable (Finset.mem_filter.mp member).1
    · intro column member
      rcases Finset.mem_union.mp member with old | new
      · rcases tight.exists_row onTable old with ⟨row, paired, outside⟩
        exact ⟨row, paired, fun kept => outside (Finset.mem_filter.mp kept).1⟩
      · rcases Finset.mem_filter.mp new with ⟨inside, touched⟩
        have listed := List.mem_range.mpr (Finset.mem_range.mp inside)
        rcases dead.owner_misses column listed touched with ⟨owner, paired, misses⟩
        exact ⟨owner, paired, fun kept => (Finset.mem_filter.mp kept).2 misses⟩

/-- A matching of the first rows and a cover that is tight for it.  The cover is
the reason why no matching is larger. -/
structure Maximum (allowed : Nat → Nat → Bool) (height width : Nat) (matching : Matching) :
    Prop where
  onTable : matching.OnTable allowed height width
  tight : ∃ rows columns, matching.TightCover allowed height width rows columns

theorem Maximum.enlarge (maximum : matching.Maximum allowed height width) :
    (enlarge allowed width matching height).Maximum allowed (height + 1) width := by
  rcases maximum.tight with ⟨rows, columns, tight⟩
  have proper := maximum.onTable.toProper
  unfold Assignment.enlarge
  cases search : (augment allowed matching height (List.range width)).found with
  | none =>
      have dead := deadEnd_of_augment matching height (List.range width) search
      refine ⟨⟨proper, maximum.onTable.nodup_rows, fun pair paired => ?_⟩, _, _,
        tight.confine maximum.onTable dead⟩
      exact (maximum.onTable.inside pair paired).imp_left Nat.lt_succ_of_lt
  | some moved =>
      have enlarges := enlarges_of_augment proper height _ List.nodup_range moved search
      have longer : moved.length = matching.length + 1 := by
        have lengths := enlarges.rows_perm.length_eq
        rwa [List.length_cons, List.length_map, List.length_map] at lengths
      exact ⟨maximum.onTable.enlarges enlarges (augment_proper proper height _ moved search),
        _, _, tight.insertRow longer⟩

theorem maximum_maximumMatching (allowed : Nat → Nat → Bool) (size : Nat) :
    (maximumMatching allowed size).Maximum allowed size size := by
  have general : ∀ count, ((List.range count).foldl (Assignment.enlarge allowed size) []).Maximum
      allowed count size := by
    intro count
    induction count with
    | zero =>
        refine ⟨⟨Proper.nil, List.nodup_nil, fun _ impossible => nomatch impossible⟩, ∅, ∅, ?_⟩
        exact ⟨fun row impossible => absurd impossible (Nat.not_lt_zero row), Nat.le_refl 0⟩
    | succ count inductionHypothesis =>
        rw [List.range_succ, List.foldl_append]
        exact inductionHypothesis.enlarge
  exact general size

end Matching

end Assignment
end Optimum
