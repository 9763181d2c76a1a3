namespace Optimum
namespace Assignment

/-!
# Sets of cells

A set of cells of a table, kept so that asking for one cell takes the same time
wherever it lies.  A cell outside the table is in no set.
-/

/-- For each row and each column, whether the cell is in the set.  The cells are
computed once, since searches ask for the same ones many times. -/
structure CellSet where
  flags : Array (Array Bool)
  deriving DecidableEq, Repr

namespace CellSet

/-- The cells of a table whose entries pass a test. -/
def ofTest {α : Type} (test : α → Bool) (table : List (List α)) : CellSet :=
  ⟨(table.map fun entries => (entries.map test).toArray).toArray⟩

/-- Whether a cell is in the set. -/
def has (cells : CellSet) (row column : Nat) : Bool :=
  (cells.flags.getD row #[]).getD column false

theorem has_ofTest_iff {α : Type} {test : α → Bool} {table : List (List α)} {row column : Nat} :
    (ofTest test table).has row column = true ↔
      ∃ entries value, table[row]? = some entries ∧ entries[column]? = some value ∧
        test value = true := by
  simp only [has, ofTest, Array.getD_eq_getD_getElem?, List.getElem?_toArray, List.getElem?_map]
  cases found : table[row]? with
  | none => simp
  | some entries =>
      simp only [Option.map_some, Option.getD_some, List.getElem?_toArray, List.getElem?_map]
      cases entered : entries[column]? <;> simp [entered]

end CellSet

end Assignment
end Optimum
