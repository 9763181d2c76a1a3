import Optimum.Assignment.Cover
import Optimum.Proofs.Assignment.MaximumMatching

namespace Optimum
namespace Assignment

/-!
# The cover of a largest matching is a smallest one

The alternating paths from the unmatched rows close a set of rows and columns:
an allowed cell of a reached row lies in a reached column, and the owner of a
reached column is reached.  So the other rows and the reached columns are a cover,
for any matching.

Every tight cover leaves out the reached rows and contains the reached columns,
by induction along the paths.  Since a largest matching has a tight cover, its
reached columns have owners, and the lines of the cover are as many as its cells.
The same induction serves for a table whose allowed cells differ from those of
the search, as long as the cells of reached rows stay allowed.
-/

/-! ## The lines of a cover -/

namespace Cover

def rowSet (cover : Cover) : Finset Nat :=
  (covered cover.rows).toFinset

def columnSet (cover : Cover) : Finset Nat :=
  (covered cover.columns).toFinset

theorem mem_covered_iff {flags : List Bool} {index : Nat} :
    index ∈ covered flags ↔ flags[index]? = some true := by
  rw [covered, List.mem_map]
  constructor
  · rintro ⟨⟨flag, position⟩, kept, rfl⟩
    rcases List.mem_filter.mp kept with ⟨indexed, raised⟩
    rw [← show flag = true from raised]
    exact List.mem_zipIdx_iff_getElem?.mp indexed
  · intro found
    refine ⟨(true, index), List.mem_filter.mpr ⟨?_, rfl⟩, rfl⟩
    exact List.mem_zipIdx_iff_getElem?.mpr found

theorem nodup_covered (flags : List Bool) : (covered flags).Nodup := by
  have distinct : (flags.zipIdx.map Prod.snd).Nodup := by
    rw [List.zipIdx_map_snd]
    exact List.nodup_range'
  exact distinct.sublist (List.filter_sublist.map Prod.snd)

theorem length_covered (flags : List Bool) : (covered flags).length = flags.count true := by
  have flagged : flags.zipIdx.map Prod.fst = flags := List.zipIdx_map_fst 0 flags
  rw [covered, List.length_map, ← List.countP_eq_length_filter, List.count]
  conv_rhs => rw [← flagged, List.countP_map]
  refine List.countP_congr fun entry _ => ?_
  rw [Function.comp_apply, beq_iff_eq]

theorem card_lines (cover : Cover) :
    cover.rowSet.card + cover.columnSet.card = cover.lineCount := by
  rw [rowSet, columnSet, List.toFinset_card_of_nodup (nodup_covered _),
    List.toFinset_card_of_nodup (nodup_covered _), length_covered, length_covered, lineCount]

theorem mem_covered_map_range_iff {size index : Nat} {flag : Nat → Bool} :
    index ∈ covered ((List.range size).map flag) ↔ index < size ∧ flag index = true := by
  rw [mem_covered_iff, List.getElem?_map]
  by_cases inside : index < size
  · simp [inside]
  · simp [inside]

end Cover

/-! ## Alternating paths -/

open Matching

variable {allowed : Nat → Nat → Bool} {matching : Matching} {size row column : Nat}

/-- What a search along alternating paths comes to: rows that may take no column
beyond the reached ones, and owners of all columns that it has reached. -/
structure Closed (allowed : Nat → Nat → Bool) (matching : Matching)
    (pending unreached : List Nat) (result : List Nat × List Nat) : Prop where
  pending_subset : pending ⊆ result.1
  unreached_subset : result.2 ⊆ unreached
  misses : ∀ row ∈ result.1, Misses allowed row result.2
  owner_reached : ∀ column ∈ unreached, column ∉ result.2 →
    ∀ owner, matching.rowOf? column = some owner → owner ∈ result.1

theorem mem_partners_or_mem_strangers (allowed : Nat → Nat → Bool) (row : Nat)
    {columns : List Nat} (member : column ∈ columns) :
    column ∈ partners allowed row columns ∨ column ∈ strangers allowed row columns := by
  cases permitted : allowed row column with
  | true => exact .inl (List.mem_filter.mpr ⟨member, permitted⟩)
  | false => exact .inr (List.mem_filter.mpr ⟨member, by rw [permitted]; rfl⟩)

theorem misses_strangers (allowed : Nat → Nat → Bool) (row : Nat) (columns : List Nat) :
    Misses allowed row (strangers allowed row columns) := by
  intro column member
  have refused := (List.mem_filter.mp member).2
  rwa [Bool.not_eq_true'] at refused

theorem closed_reach (pending unreached : List Nat) :
    Closed allowed matching pending unreached (reach allowed matching pending unreached) := by
  fun_induction reach allowed matching pending unreached with
  | case1 unreached =>
      refine ⟨List.Subset.refl _, List.Subset.refl _, fun row impossible => ?_, ?_⟩
      · exact absurd impossible List.not_mem_nil
      · exact fun column member outside => absurd member outside
  | case2 row pending unreached owners reached inductionHypothesis =>
      have fewer : reached.2 ⊆ strangers allowed row unreached :=
        inductionHypothesis.unreached_subset
      constructor
      · intro other member
        rcases List.mem_cons.mp member with rfl | later
        · exact List.mem_cons_self
        · have kept := inductionHypothesis.pending_subset (List.mem_append_right owners later)
          exact List.mem_cons_of_mem row kept
      · exact List.Subset.trans fewer List.filter_sublist.subset
      · intro other member
        rcases List.mem_cons.mp member with rfl | later
        · exact (misses_strangers allowed other unreached).mono fewer
        · exact inductionHypothesis.misses other later
      · intro column member outside owner owned
        apply List.mem_cons_of_mem
        rcases mem_partners_or_mem_strangers allowed row member with partner | stranger
        · have listed : owner ∈ owners := List.mem_filterMap.mpr ⟨column, partner, owned⟩
          exact inductionHypothesis.pending_subset (List.mem_append_left pending listed)
        · exact inductionHypothesis.owner_reached column stranger outside owner owned

/-- What holds of the pending rows, and is passed on along allowed cells and to
owners, holds of all that a search reaches. -/
theorem reach_induction {P Q : Nat → Prop} {limit : List Nat}
    (toColumn : ∀ row, P row → ∀ column ∈ limit, allowed row column = true → Q column)
    (toOwner : ∀ column, Q column → ∀ owner, matching.rowOf? column = some owner → P owner)
    (pending unreached : List Nat) (starts : ∀ row ∈ pending, P row)
    (within : unreached ⊆ limit) :
    (∀ row ∈ (reach allowed matching pending unreached).1, P row) ∧
      ∀ column ∈ unreached, column ∉ (reach allowed matching pending unreached).2 → Q column := by
  fun_induction reach allowed matching pending unreached with
  | case1 unreached =>
      refine ⟨fun row impossible => absurd impossible List.not_mem_nil, ?_⟩
      exact fun column member outside => absurd member outside
  | case2 row pending unreached owners reached inductionHypothesis =>
      have holds : P row := starts row List.mem_cons_self
      have partner : ∀ column ∈ partners allowed row unreached, Q column := by
        intro column member
        rcases List.mem_filter.mp member with ⟨inside, permitted⟩
        exact toColumn row holds column (within inside) permitted
      have later : ∀ other ∈ owners ++ pending, P other := by
        intro other member
        rcases List.mem_append.mp member with owner | waiting
        · rcases List.mem_filterMap.mp owner with ⟨column, taken, owned⟩
          exact toOwner column (partner column taken) other owned
        · exact starts other (List.mem_cons_of_mem row waiting)
      rcases inductionHypothesis later (List.Subset.trans List.filter_sublist.subset within) with
        ⟨rows, columns⟩
      constructor
      · intro other member
        rcases List.mem_cons.mp member with rfl | reachedLater
        · exact holds
        · exact rows other reachedLater
      · intro column member outside
        rcases mem_partners_or_mem_strangers allowed row member with taken | stranger
        · exact partner column taken
        · exact columns column stranger outside

/-! ## The cover of a matching -/

/-- The rows without a column. -/
def unmatchedRows (size : Nat) (matching : Matching) : List Nat :=
  (List.range size).filter fun row => (matching.columnOf? row).isNone

/-- The rows that alternating paths reach from those without a column. -/
def reachedRows (allowed : Nat → Nat → Bool) (size : Nat) (matching : Matching) : List Nat :=
  (reach allowed matching (unmatchedRows size matching) (List.range size)).1

/-- The columns that no alternating path reaches. -/
def unreachedColumns (allowed : Nat → Nat → Bool) (size : Nat) (matching : Matching) : List Nat :=
  (reach allowed matching (unmatchedRows size matching) (List.range size)).2

theorem closed_reached (allowed : Nat → Nat → Bool) (size : Nat) (matching : Matching) :
    Closed allowed matching (unmatchedRows size matching) (List.range size)
      (reachedRows allowed size matching, unreachedColumns allowed size matching) :=
  closed_reach _ _

theorem mem_rowSet_iff : row ∈ (matchingCover allowed size matching).rowSet ↔
    row < size ∧ row ∉ reachedRows allowed size matching := by
  rw [Cover.rowSet, List.mem_toFinset, matchingCover, Cover.mem_covered_map_range_iff,
    Bool.not_eq_true', List.contains_eq_mem, decide_eq_false_iff_not]
  rfl

theorem mem_columnSet_iff : column ∈ (matchingCover allowed size matching).columnSet ↔
    column < size ∧ column ∉ unreachedColumns allowed size matching := by
  rw [Cover.columnSet, List.mem_toFinset, matchingCover, Cover.mem_covered_map_range_iff,
    Bool.not_eq_true', List.contains_eq_mem, decide_eq_false_iff_not]
  rfl

/-- The lines that a matching leads to contain every allowed cell, whether or
not it is a largest one. -/
theorem covers_matchingCover (allowed : Nat → Nat → Bool) (size : Nat) (matching : Matching) :
    Covers allowed size size (matchingCover allowed size matching).rowSet
      (matchingCover allowed size matching).columnSet := by
  intro row rowInside column columnInside permitted
  by_cases reached : row ∈ reachedRows allowed size matching
  · refine .inr (mem_columnSet_iff.mpr ⟨columnInside, fun left => ?_⟩)
    have refused := (closed_reached allowed size matching).misses row reached column left
    rw [permitted] at refused
    cases refused
  · exact .inl (mem_rowSet_iff.mpr ⟨rowInside, reached⟩)

/-- A tight cover of a table that allows the cells of reached rows leaves out
the reached rows and contains the reached columns. -/
theorem reached_of_tightCover {permitted : Nat → Nat → Bool} {rows columns : Finset Nat}
    (onTable : matching.OnTable permitted size size)
    (tight : matching.TightCover permitted size size rows columns)
    (stays : ∀ row ∈ reachedRows allowed size matching, row < size → ∀ column < size,
      allowed row column = true → permitted row column = true) :
    (∀ row ∈ reachedRows allowed size matching, row ∉ rows) ∧
      (matchingCover allowed size matching).columnSet ⊆ columns := by
  have closed := closed_reached allowed size matching
  have toColumn : ∀ row,
      row ∈ reachedRows allowed size matching ∧ row < size ∧ row ∉ rows →
      ∀ column ∈ List.range size, allowed row column = true →
        column ∉ unreachedColumns allowed size matching ∧ column < size ∧ column ∈ columns := by
    rintro row ⟨reached, rowInside, outside⟩ column listed cell
    have inside := List.mem_range.mp listed
    have kept := stays row reached rowInside column inside cell
    have covered := tight.covers row rowInside column inside kept
    refine ⟨fun left => ?_, inside, covered.resolve_left outside⟩
    have refused := closed.misses row reached column left
    rw [cell] at refused
    cases refused
  have toOwner : ∀ column,
      column ∉ unreachedColumns allowed size matching ∧ column < size ∧ column ∈ columns →
      ∀ owner, matching.rowOf? column = some owner →
        owner ∈ reachedRows allowed size matching ∧ owner < size ∧ owner ∉ rows := by
    rintro column ⟨outside, inside, member⟩ owner owned
    have paired := mem_of_rowOf?_eq_some owned
    exact ⟨closed.owner_reached column (List.mem_range.mpr inside) outside owner owned,
      (onTable.inside _ paired).1, tight.row_not_mem onTable paired member⟩
  have starts : ∀ row ∈ unmatchedRows size matching,
      row ∈ reachedRows allowed size matching ∧ row < size ∧ row ∉ rows := by
    intro row member
    rcases List.mem_filter.mp member with ⟨listed, unmatched⟩
    refine ⟨closed.pending_subset member, List.mem_range.mp listed, fun inside => ?_⟩
    rcases tight.exists_column onTable inside with ⟨column, paired⟩
    rw [onTable.columnOf?_eq_some_iff.mpr paired] at unmatched
    cases unmatched
  rcases reach_induction toColumn toOwner _ _ starts (List.Subset.refl _) with ⟨among, beyond⟩
  refine ⟨fun row member => (among row member).2.2, fun column member => ?_⟩
  rcases mem_columnSet_iff.mp member with ⟨inside, outside⟩
  exact (beyond column (List.mem_range.mpr inside) outside).2.2

/-- The cover of a largest matching has no more lines than the matching has
cells. -/
theorem Matching.Maximum.tightCover (maximum : matching.Maximum allowed size size) :
    matching.TightCover allowed size size (matchingCover allowed size matching).rowSet
      (matchingCover allowed size matching).columnSet where
  covers := covers_matchingCover allowed size matching
  card_le := by
    have closed := closed_reached allowed size matching
    have onTable := maximum.onTable
    rcases maximum.tight with ⟨rows, columns, tight⟩
    have contained := (reached_of_tightCover onTable tight fun row _ _ column _ cell => cell).2
    apply card_add_card_le
    · intro row member
      rcases mem_rowSet_iff.mp member with ⟨inside, outside⟩
      cases found : matching.columnOf? row with
      | some column => exact ⟨column, mem_of_columnOf?_eq_some found⟩
      | none =>
          refine absurd (closed.pending_subset (List.mem_filter.mpr ⟨?_, ?_⟩)) outside
          · exact List.mem_range.mpr inside
          · rw [found]
            rfl
    · intro column member
      rcases tight.exists_row onTable (contained member) with ⟨row, paired, -⟩
      refine ⟨row, paired, fun lined => (mem_rowSet_iff.mp lined).2 ?_⟩
      rcases mem_columnSet_iff.mp member with ⟨inside, outside⟩
      exact closed.owner_reached column (List.mem_range.mpr inside) outside row
        (onTable.rowOf?_eq_some_iff.mpr paired)

/-! ## Tables of entries -/

section Tables

variable {α : Type} {test : α → Bool} {table : List (List α)} {rows columns : Finset Nat}

/-- Lines that contain every entry of a table that passes a test. -/
def ContainsPassing (test : α → Bool) (table : List (List α)) (rows columns : Finset Nat) : Prop :=
  ∀ row column, Passes test table row column → row ∈ rows ∨ column ∈ columns

theorem containsPassing_iff_covers (square : ∀ entries ∈ table, entries.length = table.length) :
    ContainsPassing test table rows columns ↔
      Covers (CellSet.ofTest test table).has table.length table.length rows columns := by
  constructor
  · intro contains row _ column _ marked
    exact contains row column (CellSet.has_ofTest_iff.mp marked)
  · intro covers row column passes
    rcases passes.inside square with ⟨rowInside, columnInside⟩
    exact covers row rowInside column columnInside (CellSet.has_ofTest_iff.mpr passes)

/-- The cover that the largest matching of a square table leads to contains the
entries that pass the test, has a line for each matched row, and no other cover
has fewer lines.  Whatever matching is taken in its place, the lines that it
leads to are a cover. -/
theorem matchingCover_smallest (test : α → Bool) {table : List (List α)}
    (square : ∀ entries ∈ table, entries.length = table.length) :
    let allowed := (CellSet.ofTest test table).has
    let matching := maximumMatching allowed table.length
    let cover := matchingCover allowed table.length matching
    ContainsPassing test table cover.rowSet cover.columnSet ∧
      cover.lineCount = (matching.columns table.length).countP Option.isSome ∧
      (∀ rows columns, ContainsPassing test table rows columns →
        cover.lineCount ≤ rows.card + columns.card) ∧
      ∀ other, let lines := matchingCover allowed table.length other
        ContainsPassing test table lines.rowSet lines.columnSet := by
  intro allowed matching cover
  have maximum := maximum_maximumMatching allowed table.length
  have lines : cover.lineCount = matching.length := by
    rw [← cover.card_lines]
    exact maximum.tightCover.card_eq maximum.onTable
  refine ⟨?_, ?_, fun rows columns contains => ?_, fun other => ?_⟩
  · exact (containsPassing_iff_covers square).mpr maximum.tightCover.covers
  · rw [maximum.onTable.countP_columns]
    exact lines
  · rw [lines]
    exact maximum.onTable.length_le_of_covers ((containsPassing_iff_covers square).mp contains)
  · exact (containsPassing_iff_covers square).mpr (covers_matchingCover allowed table.length other)

/-- The first row and the first column hold all zeros, and one line would not do. -/
theorem matchingCover_smallest_sharedColumn :
    let table := [[0, 0, 4], [0, 7, 5], [0, 3, 9]]
    let cover : Cover := ⟨[true, false, false], [true, false, false]⟩
    (∀ entries ∈ table, entries.length = table.length) ∧
      matchingCover (CellSet.ofTest (· == 0) table).has 3
        (maximumMatching (CellSet.ofTest (· == 0) table).has 3) = cover ∧
      ContainsPassing (· == 0) table cover.rowSet cover.columnSet ∧
      ∀ rows columns, ContainsPassing (· == 0) table rows columns →
        2 ≤ rows.card + columns.card := by
  intro table cover
  have square : ∀ entries ∈ table, entries.length = table.length := by decide
  have found : matchingCover (CellSet.ofTest (· == 0) table).has 3
      (maximumMatching (CellSet.ofTest (· == 0) table).has 3) = cover := by
    decide +kernel
  rcases matchingCover_smallest (· == 0) square with ⟨contains, -, smallest, -⟩
  rw [show table.length = 3 from rfl, found] at contains smallest
  exact ⟨square, found, contains, smallest⟩

end Tables

end Assignment
end Optimum
