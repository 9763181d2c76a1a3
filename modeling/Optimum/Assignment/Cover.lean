import Optimum.Assignment.Matching
import Optimum.Assignment.Tally

namespace Optimum
namespace Assignment

/-!
# Covers

A cover is a set of lines, rows and columns, that contains every allowed cell.
The greedy cover takes the line with the most open cells again and again.  The
other one is read off a maximum matching and is as small as a cover can be.
-/

/-- For each row and for each column, whether it is covered.  The flags tell the
number of lines without a search for repetitions. -/
structure Cover where
  rows : List Bool
  columns : List Bool
  deriving DecidableEq, Repr

namespace Cover

def lineCount (cover : Cover) : Nat :=
  cover.rows.count true + cover.columns.count true

/-- The positions of the lines that are covered, in ascending order. -/
def covered (flags : List Bool) : List Nat :=
  (flags.zipIdx.filter Prod.fst).map Prod.snd

end Cover

/-! ## The greedy cover -/

/-- A row or a column.  Covers are made of either kind, so a choice among lines
compares both. -/
inductive Line
  | row (index : Nat)
  | column (index : Nat)
  deriving DecidableEq, Repr

/-- Whether a cell, a row and a column, lies on a line. -/
def Line.passes : Line → Nat × Nat → Bool
  | .row index, cell => cell.1 = index
  | .column index, cell => cell.2 = index

/-- The allowed cells of a square table. -/
def allowedCells (allowed : Nat → Nat → Bool) (size : Nat) : List (Nat × Nat) :=
  (List.range size).flatMap fun row =>
    ((List.range size).filter (allowed row)).map fun column => (row, column)

/-- The lines of one direction with their counts. -/
def countedLines (line : Nat → Line) (counts : Array Nat) : List (Line × Nat) :=
  counts.toList.zipIdx.map fun (count, index) => (line index, count)

/-- Every line of a square table with the number of its cells among some, rows
before columns. -/
def lineCounts (size : Nat) (cells : List (Nat × Nat)) : List (Line × Nat) :=
  countedLines .row (tally size (cells.map Prod.fst)) ++
    countedLines .column (tally size (cells.map Prod.snd))

theorem count_of_mem_countedLines {line : Nat → Line} {size : Nat} {numbers : List Nat}
    {taken : Line} {count : Nat}
    (member : (taken, count) ∈ countedLines line (tally size numbers)) :
    ∃ index, taken = line index ∧ count = numbers.count index := by
  simp only [countedLines, List.mem_map] at member
  obtain ⟨⟨value, index⟩, indexed, equal⟩ := member
  rw [List.mem_zipIdx_iff_getElem?, Array.getElem?_toList, getElem?_tally] at indexed
  cases equal
  refine ⟨index, rfl, ?_⟩
  split at indexed
  · exact (Option.some.inj indexed).symm
  · cases indexed

/-- A line comes with the number of cells that it passes.  All lines are counted
in one pass over the cells, which is why this has to be shown. -/
theorem count_of_mem_lineCounts {size : Nat} {cells : List (Nat × Nat)} {line : Line}
    {count : Nat} (member : (line, count) ∈ lineCounts size cells) :
    count = cells.countP line.passes := by
  rcases List.mem_append.mp member with among | among <;>
    obtain ⟨index, rfl, rfl⟩ := count_of_mem_countedLines among <;>
    simp only [List.count, List.countP_map] <;> rfl

/-- The line with the largest positive count, the first of several.  Lines
without open cells are never taken, so every choice closes one. -/
def busiest? (counts : List (Line × Nat)) : Option (Line × Nat) :=
  let keep (best : Option (Line × Nat)) (next : Line × Nat) : Option (Line × Nat) :=
    if (best.map Prod.snd).getD 0 < next.2 then some next else best
  counts.foldl keep none

theorem busiest?_mem {counts : List (Line × Nat)} {busiest : Line × Nat}
    (chosen : busiest? counts = some busiest) : busiest ∈ counts ∧ 0 < busiest.2 := by
  have kept : ∀ (rest : List (Line × Nat)) (best : Option (Line × Nat)),
      (∀ found, best = some found → found ∈ counts ∧ 0 < found.2) →
      (∀ next ∈ rest, next ∈ counts) →
      rest.foldl (fun best next =>
        if (best.map Prod.snd).getD 0 < next.2 then some next else best) best = some busiest →
      busiest ∈ counts ∧ 0 < busiest.2 := by
    intro rest
    induction rest with
    | nil => exact fun best member _ final => member busiest final
    | cons next rest inductionHypothesis =>
        intro best member remaining final
        refine inductionHypothesis _ ?_ (fun other among =>
          remaining other (List.mem_cons_of_mem _ among)) final
        intro found equal
        dsimp only at equal
        split at equal
        · cases equal
          exact ⟨remaining _ List.mem_cons_self, by omega⟩
        · exact member found equal
  exact kept counts none (by simp) (fun _ among => among) chosen

/-- The cells that a line leaves open. -/
def Line.leaves (line : Line) (cells : List (Nat × Nat)) : List (Nat × Nat) :=
  cells.filter fun cell => !line.passes cell

theorem Line.length_leaves (line : Line) (cells : List (Nat × Nat)) :
    (line.leaves cells).length + cells.countP line.passes = cells.length := by
  rw [Line.leaves, ← List.countP_eq_length_filter, Nat.add_comm]
  simpa using (List.length_eq_countP_add_countP line.passes (l := cells)).symm

theorem Line.length_leaves_lt {size count : Nat} {cells : List (Nat × Nat)} {line : Line}
    (chosen : busiest? (lineCounts size cells) = some (line, count)) :
    (line.leaves cells).length < cells.length := by
  obtain ⟨among, positive⟩ := busiest?_mem chosen
  rw [count_of_mem_lineCounts among] at positive
  have divided := line.length_leaves cells
  omega

/-- The lines that are taken when the one with the most open cells is taken
again and again, until none has one.  A line that is taken closes its cells. -/
def busiestLines (size : Nat) (cells : List (Nat × Nat)) : List Line :=
  match chosen : busiest? (lineCounts size cells) with
  | none => []
  | some (line, _) =>
    have := Line.length_leaves_lt chosen
    line :: busiestLines size (line.leaves cells)
termination_by cells.length

/-- Take the line with the most open cells until none has one; rows go before
columns and lower indices before higher ones. -/
def greedyCover (allowed : Nat → Nat → Bool) (size : Nat) : Cover :=
  let lines := busiestLines size (allowedCells allowed size)
  { rows := (List.range size).map fun row => lines.contains (.row row)
    columns := (List.range size).map fun column => lines.contains (.column column) }

/-! ## The cover of a matching -/

/-- The columns that a row may be matched with. -/
def partners (allowed : Nat → Nat → Bool) (row : Nat) (columns : List Nat) : List Nat :=
  columns.filter (allowed row)

/-- The columns that a row may not be matched with. -/
def strangers (allowed : Nat → Nat → Bool) (row : Nat) (columns : List Nat) : List Nat :=
  columns.filter fun column => !allowed row column

theorem length_partners_add_length_strangers (allowed : Nat → Nat → Bool) (row : Nat)
    (columns : List Nat) :
    (partners allowed row columns).length + (strangers allowed row columns).length =
      columns.length := by
  induction columns with
  | nil => rfl
  | cons column columns inductionHypothesis =>
      simp only [partners, strangers, List.filter_cons] at inductionHypothesis ⊢
      cases allowed row column <;>
        simp only [Bool.not_true, Bool.not_false, Bool.false_eq_true, if_true, if_false,
          List.length_cons] <;> omega

/-- The rows that alternating paths reach from the pending ones, and the
columns that none of them reaches. -/
def reach (allowed : Nat → Nat → Bool) (matching : Matching) :
    (pending unreached : List Nat) → List Nat × List Nat
  | [], unreached => ([], unreached)
  | row :: pending, unreached =>
    let owners := (partners allowed row unreached).filterMap matching.rowOf?
    let reached := reach allowed matching (owners ++ pending) (strangers allowed row unreached)
    (row :: reached.1, reached.2)
termination_by pending unreached => 2 * unreached.length + pending.length
decreasing_by
  have divided := length_partners_add_length_strangers allowed row unreached
  have owned := List.length_filterMap_le matching.rowOf? (partners allowed row unreached)
  simp only [List.length_append, List.length_cons]
  omega

/-- The rows that no alternating path from an unmatched row reaches, and the
columns that one does. -/
def matchingCover (allowed : Nat → Nat → Bool) (size : Nat) (matching : Matching) : Cover :=
  let unmatched := (List.range size).filter fun row => (matching.columnOf? row).isNone
  let reached := reach allowed matching unmatched (List.range size)
  { rows := (List.range size).map fun row => !reached.1.contains row
    columns := (List.range size).map fun column => !reached.2.contains column }

end Assignment
end Optimum
