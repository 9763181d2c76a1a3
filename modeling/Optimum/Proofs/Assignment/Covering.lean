import Mathlib.Data.Finset.Card
import Mathlib.Data.List.Basic
import Optimum.Proofs.Assignment.Matching

namespace Optimum
namespace Assignment

/-!
# Matchings and covers

No two cells of a matching share a line, so a cover, which has a line for each
of them, has at least as many lines as the matching has cells.  A cover with no
more lines than that is called tight.  It shows that the matching is as large as
any, and its lines and the cells of the matching belong together one to one.
-/

/-- Lines that contain every allowed cell of a table.  They are told by sets, so
that their number is that of the rows and the columns. -/
def Covers (allowed : Nat → Nat → Bool) (height width : Nat) (rows columns : Finset Nat) : Prop :=
  ∀ row < height, ∀ column < width, allowed row column = true → row ∈ rows ∨ column ∈ columns

namespace Matching

/-- Allowed cells of a table, no two of them on one line.  The table need not be
square, since rows are added one at a time. -/
structure OnTable (allowed : Nat → Nat → Bool) (height width : Nat) (matching : Matching) : Prop
    extends Proper allowed matching where
  nodup_rows : (matching.map Prod.fst).Nodup
  inside : ∀ pair ∈ matching, pair.1 < height ∧ pair.2 < width

/-- A cover with at most as many lines as a matching has cells.  Either of them
shows that the other is best possible, since each cell of a matching needs a
line of its own. -/
structure TightCover (allowed : Nat → Nat → Bool) (height width : Nat) (matching : Matching)
    (rows columns : Finset Nat) : Prop where
  covers : Covers allowed height width rows columns
  card_le : rows.card + columns.card ≤ matching.length

/-- The rows of the cells that lie in some rows. -/
def rowsWithin (matching : Matching) (rows : Finset Nat) : List Nat :=
  (matching.filter fun pair => pair.1 ∈ rows).map Prod.fst

/-- The columns of the cells that lie in none of some rows. -/
def columnsWithout (matching : Matching) (rows : Finset Nat) : List Nat :=
  (matching.filter fun pair => pair.1 ∉ rows).map Prod.snd

variable {allowed : Nat → Nat → Bool} {height width row column : Nat} {matching : Matching}
  {rows columns : Finset Nat}

theorem length_rowsWithin_add_length_columnsWithout (matching : Matching) (rows : Finset Nat) :
    (matching.rowsWithin rows).length + (matching.columnsWithout rows).length =
      matching.length := by
  rw [rowsWithin, columnsWithout, List.length_map, List.length_map]
  simp only [decide_not]
  exact (List.length_eq_length_filter_add _).symm

theorem mem_rowsWithin_iff :
    row ∈ matching.rowsWithin rows ↔ row ∈ rows ∧ ∃ column, (row, column) ∈ matching := by
  constructor
  · intro member
    rcases List.mem_map.mp member with ⟨pair, kept, rfl⟩
    rcases List.mem_filter.mp kept with ⟨paired, inside⟩
    exact ⟨of_decide_eq_true inside, pair.2, paired⟩
  · rintro ⟨inside, column, paired⟩
    exact List.mem_map.mpr ⟨_, List.mem_filter.mpr ⟨paired, decide_eq_true inside⟩, rfl⟩

theorem mem_columnsWithout_iff :
    column ∈ matching.columnsWithout rows ↔ ∃ row, (row, column) ∈ matching ∧ row ∉ rows := by
  constructor
  · intro member
    rcases List.mem_map.mp member with ⟨pair, kept, rfl⟩
    rcases List.mem_filter.mp kept with ⟨paired, outside⟩
    exact ⟨pair.1, paired, of_decide_eq_true outside⟩
  · rintro ⟨row, paired, outside⟩
    exact List.mem_map.mpr ⟨_, List.mem_filter.mpr ⟨paired, decide_eq_true outside⟩, rfl⟩

theorem rowsWithin_subset (matching : Matching) (rows : Finset Nat) :
    (matching.rowsWithin rows).toFinset ⊆ rows := by
  intro row member
  exact (mem_rowsWithin_iff.mp (List.mem_toFinset.mp member)).1

/-- Where each line holds a cell of a matching, and no two lines hold the same
one, there are at most as many lines as cells. -/
theorem card_add_card_le (matchedRows : ∀ row ∈ rows, ∃ column, (row, column) ∈ matching)
    (matchedColumns : ∀ column ∈ columns, ∃ row, (row, column) ∈ matching ∧ row ∉ rows) :
    rows.card + columns.card ≤ matching.length := by
  have byRow : rows ⊆ (matching.rowsWithin rows).toFinset := by
    intro row member
    exact List.mem_toFinset.mpr (mem_rowsWithin_iff.mpr ⟨member, matchedRows row member⟩)
  have byColumn : columns ⊆ (matching.columnsWithout rows).toFinset := by
    intro column member
    exact List.mem_toFinset.mpr (mem_columnsWithout_iff.mpr (matchedColumns column member))
  rw [← length_rowsWithin_add_length_columnsWithout matching rows]
  apply Nat.add_le_add
  · exact (Finset.card_le_card byRow).trans (List.toFinset_card_le _)
  · exact (Finset.card_le_card byColumn).trans (List.toFinset_card_le _)

namespace OnTable

variable (onTable : matching.OnTable allowed height width)

include onTable

theorem column_unique {first second : Nat} (firstMember : (row, first) ∈ matching)
    (secondMember : (row, second) ∈ matching) : first = second := by
  have same := List.inj_on_of_nodup_map onTable.nodup_rows firstMember secondMember rfl
  exact congrArg Prod.snd same

theorem card_rowsWithin (rows : Finset Nat) :
    (matching.rowsWithin rows).toFinset.card = (matching.rowsWithin rows).length :=
  List.toFinset_card_of_nodup (onTable.nodup_rows.sublist (List.filter_sublist.map Prod.fst))

theorem card_columnsWithout (rows : Finset Nat) :
    (matching.columnsWithout rows).toFinset.card = (matching.columnsWithout rows).length :=
  List.toFinset_card_of_nodup (onTable.nodup_columns.sublist (List.filter_sublist.map Prod.snd))

theorem length_rowsWithin_le (rows : Finset Nat) :
    (matching.rowsWithin rows).length ≤ rows.card := by
  rw [← onTable.card_rowsWithin]
  exact Finset.card_le_card (matching.rowsWithin_subset rows)

section Covered

variable (covers : Covers allowed height width rows columns)

include covers

theorem columnsWithout_subset : (matching.columnsWithout rows).toFinset ⊆ columns := by
  intro column member
  rcases mem_columnsWithout_iff.mp (List.mem_toFinset.mp member) with ⟨row, paired, outside⟩
  rcases onTable.inside _ paired with ⟨rowInside, columnInside⟩
  exact (covers row rowInside column columnInside
    (onTable.allowed_of_mem _ paired)).resolve_left outside

theorem length_columnsWithout_le : (matching.columnsWithout rows).length ≤ columns.card := by
  rw [← onTable.card_columnsWithout]
  exact Finset.card_le_card (onTable.columnsWithout_subset covers)

/-- A matching has no more cells than a cover has lines, since each cell needs a
line of its own. -/
theorem length_le_of_covers : matching.length ≤ rows.card + columns.card := by
  rw [← length_rowsWithin_add_length_columnsWithout matching rows]
  exact Nat.add_le_add (onTable.length_rowsWithin_le rows) (onTable.length_columnsWithout_le covers)

end Covered

end OnTable

namespace TightCover

variable (onTable : matching.OnTable allowed height width)
  (tight : matching.TightCover allowed height width rows columns)

include onTable tight

theorem card_eq : rows.card + columns.card = matching.length :=
  Nat.le_antisymm tight.card_le (onTable.length_le_of_covers tight.covers)

/-- Every row of a tight cover holds a cell of the matching.  Otherwise fewer
lines would do than there are cells. -/
theorem exists_column (member : row ∈ rows) : ∃ column, (row, column) ∈ matching := by
  have divided := length_rowsWithin_add_length_columnsWithout matching rows
  have fewColumns := onTable.length_columnsWithout_le tight.covers
  have bound := tight.card_le
  have all : (matching.rowsWithin rows).toFinset = rows := by
    apply Finset.eq_of_subset_of_card_le (matching.rowsWithin_subset rows)
    rw [onTable.card_rowsWithin]
    omega
  rw [← all] at member
  exact (mem_rowsWithin_iff.mp (List.mem_toFinset.mp member)).2

/-- Every column of a tight cover holds a cell of the matching, which lies on no
row of the cover. -/
theorem exists_row (member : column ∈ columns) :
    ∃ row, (row, column) ∈ matching ∧ row ∉ rows := by
  have divided := length_rowsWithin_add_length_columnsWithout matching rows
  have fewRows := onTable.length_rowsWithin_le rows
  have bound := tight.card_le
  have all : (matching.columnsWithout rows).toFinset = columns := by
    apply Finset.eq_of_subset_of_card_le (onTable.columnsWithout_subset tight.covers)
    rw [onTable.card_columnsWithout]
    omega
  rw [← all] at member
  exact mem_columnsWithout_iff.mp (List.mem_toFinset.mp member)

/-- No cell of the matching lies on two lines of a tight cover. -/
theorem row_not_mem (paired : (row, column) ∈ matching) (member : column ∈ columns) :
    row ∉ rows := by
  rcases tight.exists_row onTable member with ⟨owner, owned, outside⟩
  rw [onTable.owner_unique paired owned]
  exact outside

end TightCover
end Matching

end Assignment
end Optimum
