import Optimum.Assignment.CellSet
import Optimum.Proofs.Assignment.Augmentation

namespace Optimum
namespace Assignment

/-!
# Largest matchings of a table

A matching is reported as a column, or none, for each row.  Here the cells of a
search are read as such a report and back, so that the matching found on the
entries of a table that pass some test can be compared with every other one.
-/

namespace Matching

variable {allowed : Nat → Nat → Bool} {height width row column : Nat} {matching : Matching}

/-! ## The column of each row -/

theorem columnOf?_eq_none_iff :
    matching.columnOf? row = none ↔ ∀ pair ∈ matching, pair.1 ≠ row := by
  simp [columnOf?]

theorem OnTable.columnOf?_eq_some_iff (onTable : matching.OnTable allowed height width) :
    matching.columnOf? row = some column ↔ (row, column) ∈ matching := by
  refine ⟨mem_of_columnOf?_eq_some, fun member => ?_⟩
  cases found : matching.columnOf? row with
  | none => exact absurd rfl (columnOf?_eq_none_iff.mp found _ member)
  | some other =>
      have owned := mem_of_columnOf?_eq_some found
      exact congrArg some (onTable.column_unique owned member)

theorem getElem?_columns_eq_some_iff {entry : Option Nat} :
    (matching.columns height)[row]? = some entry ↔
      row < height ∧ matching.columnOf? row = entry := by
  rw [columns, List.getElem?_map]
  by_cases inside : row < height
  · simp [inside]
  · simp [inside]

/-- As many rows have a column as the matching has cells. -/
theorem OnTable.countP_columns (onTable : matching.OnTable allowed height width) :
    (matching.columns height).countP Option.isSome = matching.length := by
  have matched : ((List.range height).filter fun row => (matching.columnOf? row).isSome).Perm
      (matching.map Prod.fst) := by
    apply (List.perm_ext_iff_of_nodup (List.nodup_range.filter _) onTable.nodup_rows).mpr
    intro row
    rw [List.mem_filter, List.mem_range, Option.isSome_iff_exists]
    constructor
    · rintro ⟨-, column, found⟩
      exact List.mem_map_of_mem (mem_of_columnOf?_eq_some found)
    · intro member
      rcases List.mem_map.mp member with ⟨pair, paired, rfl⟩
      exact ⟨(onTable.inside pair paired).1, pair.2, onTable.columnOf?_eq_some_iff.mpr paired⟩
  rw [columns, List.countP_map, List.countP_eq_length_filter]
  exact matched.length_eq.trans (List.length_map _)

theorem OnTable.all_columns_iff (onTable : matching.OnTable allowed height width) :
    (matching.columns height).all Option.isSome = true ↔ height ≤ matching.length := by
  have rows : (matching.columns height).length = height := by
    rw [columns, List.length_map, List.length_range]
  have bound : (matching.columns height).countP Option.isSome ≤ (matching.columns height).length :=
    List.countP_le_length
  rw [List.all_eq_true, ← List.countP_eq_length, onTable.countP_columns, rows]
  rw [onTable.countP_columns, rows] at bound
  exact ⟨fun same => same.ge, fun covered => Nat.le_antisymm bound covered⟩

end Matching

/-! ## Tables of entries -/

section Tables

variable {α : Type} {test : α → Bool} {table : List (List α)} {columns : List (Option Nat)}

/-- Whether a cell of a table holds an entry that passes a test. -/
def Passes (test : α → Bool) (table : List (List α)) (row column : Nat) : Prop :=
  ∃ entries value, table[row]? = some entries ∧ entries[column]? = some value ∧ test value = true

theorem Passes.inside (square : ∀ entries ∈ table, entries.length = table.length)
    {row column : Nat} (passes : Passes test table row column) :
    row < table.length ∧ column < table.length := by
  rcases passes with ⟨entries, value, found, entered, -⟩
  rcases List.getElem?_eq_some_iff.mp found with ⟨rowInside, -⟩
  rcases List.getElem?_eq_some_iff.mp entered with ⟨columnInside, -⟩
  exact ⟨rowInside, square entries (List.mem_of_getElem? found) ▸ columnInside⟩

/-- A column or none for each row of a table, such that the cells pass a test
and no column occurs twice. -/
structure IsMatching (test : α → Bool) (table : List (List α)) (columns : List (Option Nat)) :
    Prop where
  length_eq : columns.length = table.length
  passes : ∀ row column : Nat, columns[row]? = some (some column) → Passes test table row column
  row_unique : ∀ first second column : Nat, columns[first]? = some (some column) →
    columns[second]? = some (some column) → first = second

theorem Matching.OnTable.isMatching {matching : Matching} {width : Nat}
    (onTable : matching.OnTable (CellSet.ofTest test table).has table.length width) :
    IsMatching test table (matching.columns table.length) where
  length_eq := by rw [Matching.columns, List.length_map, List.length_range]
  passes := by
    intro row column found
    have paired := mem_of_columnOf?_eq_some (Matching.getElem?_columns_eq_some_iff.mp found).2
    exact CellSet.has_ofTest_iff.mp (onTable.allowed_of_mem _ paired)
  row_unique := by
    intro first second column firstFound secondFound
    exact onTable.owner_unique
      (mem_of_columnOf?_eq_some (Matching.getElem?_columns_eq_some_iff.mp firstFound).2)
      (mem_of_columnOf?_eq_some (Matching.getElem?_columns_eq_some_iff.mp secondFound).2)

/-- The cells of a list with a column or none for each row. -/
def pairsOf (columns : List (Option Nat)) : Matching :=
  (List.range columns.length).filterMap fun row =>
    columns[row]?.join.map fun column => (row, column)

theorem mem_pairsOf_iff {pair : Nat × Nat} :
    pair ∈ pairsOf columns ↔ columns[pair.1]? = some (some pair.2) := by
  rw [pairsOf, List.mem_filterMap]
  constructor
  · rintro ⟨row, -, kept⟩
    rcases Option.map_eq_some_iff.mp kept with ⟨column, found, rfl⟩
    exact Option.join_eq_some_iff.mp found
  · intro found
    rcases List.getElem?_eq_some_iff.mp found with ⟨inside, -⟩
    refine ⟨pair.1, List.mem_range.mpr inside, ?_⟩
    rw [found]
    rfl

theorem length_pairsOf (columns : List (Option Nat)) :
    (pairsOf columns).length = columns.countP Option.isSome := by
  have listed : columns = (List.range columns.length).map fun row => columns[row]?.join := by
    apply List.ext_getElem?
    intro row
    rw [List.getElem?_map]
    by_cases inside : row < columns.length
    · simp [inside]
    · simp [inside]
  rw [pairsOf, List.length_filterMap_eq_countP]
  conv_rhs => rw [listed, List.countP_map]
  refine List.countP_congr fun row _ => ?_
  rw [Option.isSome_map, Function.comp_apply]

theorem IsMatching.onTable (square : ∀ entries ∈ table, entries.length = table.length)
    (isMatching : IsMatching test table columns) :
    (pairsOf columns).OnTable (CellSet.ofTest test table).has table.length table.length where
  allowed_of_mem := by
    intro pair paired
    exact CellSet.has_ofTest_iff.mpr (isMatching.passes _ _ (mem_pairsOf_iff.mp paired))
  nodup_columns := by
    rw [pairsOf, List.map_filterMap]
    refine List.Nodup.filterMap ?_ List.nodup_range
    intro first second column firstFound secondFound
    simp only [Option.map_map, Option.mem_def, Option.map_eq_some_iff, Function.comp_apply,
      exists_eq_right, Option.join_eq_some_iff] at firstFound secondFound
    exact isMatching.row_unique first second column firstFound secondFound
  nodup_rows := by
    rw [pairsOf, List.map_filterMap]
    refine List.Nodup.filterMap ?_ List.nodup_range
    intro first second row firstFound secondFound
    simp only [Option.map_map, Option.mem_def, Option.map_eq_some_iff, Function.comp_apply,
      exists_and_right] at firstFound secondFound
    exact firstFound.2.trans secondFound.2.symm
  inside := by
    intro pair paired
    exact (isMatching.passes _ _ (mem_pairsOf_iff.mp paired)).inside square

/-- The matching of a square table, on the entries that pass any test, is as
large as a matching can be.  The induction is on the rows: a cover that is as
small as the matching is large is kept from one row to the next. -/
theorem maximumMatching_largest (test : α → Bool) {table : List (List α)}
    (square : ∀ entries ∈ table, entries.length = table.length) :
    let matching := maximumMatching (CellSet.ofTest test table).has table.length
    let columns := matching.columns table.length
    IsMatching test table columns ∧
      ∀ others, IsMatching test table others →
        others.countP Option.isSome ≤ columns.countP Option.isSome := by
  have maximum := Matching.maximum_maximumMatching (CellSet.ofTest test table).has table.length
  rcases maximum.tight with ⟨rows, lines, tight⟩
  refine ⟨maximum.onTable.isMatching, fun others isMatching => ?_⟩
  rw [← length_pairsOf, maximum.onTable.countP_columns]
  exact ((isMatching.onTable square).length_le_of_covers tight.covers).trans tight.card_le

/-- The zeros of the last two rows share a column, and the first row gives it up
for its other zero. -/
theorem maximumMatching_largest_sharedColumn :
    let table := [[0, 0, 4], [0, 7, 5], [0, 3, 9]]
    let columns := [some 1, some 0, none]
    (∀ entries ∈ table, entries.length = table.length) ∧
      (maximumMatching (CellSet.ofTest (· == 0) table).has 3).columns 3 = columns ∧
      IsMatching (· == 0) table columns ∧
      ∀ others, IsMatching (· == 0) table others → others.countP Option.isSome ≤ 2 := by
  intro table columns
  have square : ∀ entries ∈ table, entries.length = table.length := by decide
  have found : (maximumMatching (CellSet.ofTest (· == 0) table).has 3).columns 3 = columns := by
    decide +kernel
  rcases maximumMatching_largest (· == 0) square with ⟨isMatching, largest⟩
  rw [show table.length = 3 from rfl, found] at isMatching largest
  exact ⟨square, found, isMatching, largest⟩

end Tables

end Assignment
end Optimum
