namespace Optimum
namespace Assignment

/-!
# Matchings

A matching pairs rows with columns, each at most once.  It is enlarged along
augmenting paths: a row takes a column that is free, or one whose owner can be
given another column.

The searches work with any test `allowed row column` that says which pairs may
be matched.
-/

/-- Pairs of a row and a column.  A valid one has no row and no column twice. -/
abbrev Matching := List (Nat × Nat)

namespace Matching

def rowOf? (matching : Matching) (column : Nat) : Option Nat :=
  (matching.find? fun pair => pair.2 = column).map Prod.fst

def columnOf? (matching : Matching) (row : Nat) : Option Nat :=
  (matching.find? fun pair => pair.1 = row).map Prod.snd

/-- Give a column to a row, whoever owned it.  Along an augmenting path the
owner has been given another column before. -/
def give (matching : Matching) (row column : Nat) : Matching :=
  (row, column) :: matching.filter fun pair => pair.2 ≠ column

end Matching

theorem length_erase_lt {β : Type} [DecidableEq β] {entries : List β} {entry : β}
    (member : entry ∈ entries) : (entries.erase entry).length < entries.length := by
  have positive := List.length_pos_of_mem member
  rw [List.length_erase_of_mem member]
  omega

/-- The outcome of a search: the enlarged matching if there was a path, and the
columns that the search has not touched. -/
structure Search (limit : Nat) where
  found : Option Matching
  untouched : List Nat
  within : untouched.length ≤ limit

/-- Search a column for a row among those not touched yet.  A column whose owner
cannot be given another one is touched and never tried again, in this search or
in one that it begins, so each search looks at a column once. -/
def augment (allowed : Nat → Nat → Bool) (matching : Matching) (row : Nat)
    (untouched : List Nat) : Search untouched.length :=
  match candidate : untouched.find? (allowed row) with
  | none => ⟨none, untouched, Nat.le_refl _⟩
  | some column =>
    have shorter := length_erase_lt (List.mem_of_find?_eq_some candidate)
    match matching.rowOf? column with
    | none => ⟨some (matching.give row column), untouched.erase column, Nat.le_of_lt shorter⟩
    | some owner =>
      let deeper := augment allowed matching owner (untouched.erase column)
      have deeperLimit := Nat.lt_of_le_of_lt deeper.within shorter
      match deeper.found with
      | some moved => ⟨some (moved.give row column), deeper.untouched, Nat.le_of_lt deeperLimit⟩
      | none =>
        let again := augment allowed matching row deeper.untouched
        ⟨again.found, again.untouched, Nat.le_trans again.within (Nat.le_of_lt deeperLimit)⟩
termination_by untouched.length
decreasing_by
  · exact shorter
  · exact deeperLimit

/-- Search a column for one more row, among all columns.  Each row starts with
every column untouched. -/
def enlarge (allowed : Nat → Nat → Bool) (size : Nat) (matching : Matching) (row : Nat) :
    Matching :=
  (augment allowed matching row (List.range size)).found.getD matching

/-- A matching of as many rows as possible.  A row that finds no column is
passed over for good, since no later row can make room for it. -/
def maximumMatching (allowed : Nat → Nat → Bool) (size : Nat) : Matching :=
  (List.range size).foldl (enlarge allowed size) []

/-- The column of every row, in row order. -/
def Matching.columns (matching : Matching) (size : Nat) : List (Option Nat) :=
  (List.range size).map matching.columnOf?

end Assignment
end Optimum
