import Optimum.Proofs.Assignment.MinimumCover

namespace Optimum
namespace Assignment

/-!
# The greedy cover contains every allowed cell

The greedy cover stops when no line has an open cell, and a cell is closed only
by a line that passes it.  So every cell is on a line that was taken.
-/

theorem busiest?_eq_none {counts : List (Line × Nat)} (nothing : busiest? counts = none) :
    ∀ entry ∈ counts, entry.2 = 0 := by
  have kept : ∀ (rest : List (Line × Nat)) (best : Option (Line × Nat)),
      rest.foldl (fun best next =>
        if (best.map Prod.snd).getD 0 < next.2 then some next else best) best = none →
      best = none ∧ ∀ entry ∈ rest, entry.2 = 0 := by
    intro rest
    induction rest with
    | nil => exact fun best final => ⟨final, fun entry impossible => nomatch impossible⟩
    | cons next rest inductionHypothesis =>
        intro best final
        rcases inductionHypothesis _ final with ⟨passedOver, later⟩
        dsimp only at passedOver
        by_cases larger : (best.map Prod.snd).getD 0 < next.2
        · rw [if_pos larger] at passedOver
          cases passedOver
        · rw [if_neg larger] at passedOver
          refine ⟨passedOver, fun entry member => ?_⟩
          rcases List.mem_cons.mp member with rfl | among
          · rw [passedOver] at larger
            exact Nat.eq_zero_of_not_pos larger
          · exact later entry among
  exact (kept counts none nothing).2

theorem mem_countedLines (line : Nat → Line) {size index : Nat} (inside : index < size)
    (numbers : List Nat) :
    (line index, numbers.count index) ∈ countedLines line (tally size numbers) := by
  refine List.mem_map.mpr ⟨(numbers.count index, index), ?_, rfl⟩
  rw [List.mem_zipIdx_iff_getElem?, Array.getElem?_toList, getElem?_tally, if_pos inside]

variable {allowed : Nat → Nat → Bool} {size : Nat} {cells : List (Nat × Nat)} {cell : Nat × Nat}

/-- As long as a cell is open, some line has one. -/
theorem eq_nil_of_busiest?_eq_none (inside : ∀ cell ∈ cells, cell.1 < size)
    (nothing : busiest? (lineCounts size cells) = none) : cells = [] := by
  cases cells with
  | nil => rfl
  | cons cell rest =>
      have listed := mem_countedLines .row (inside cell List.mem_cons_self)
        ((cell :: rest).map Prod.fst)
      have none := busiest?_eq_none nothing _ (List.mem_append_left _ listed)
      rw [List.map_cons, List.count_cons_self] at none
      exact absurd none (Nat.succ_ne_zero _)

/-- Every cell is passed by a line that was taken.  The induction is on the
choices, since a line that is taken closes its cells. -/
theorem exists_mem_busiestLines (inside : ∀ cell ∈ cells, cell.1 < size) (member : cell ∈ cells) :
    ∃ line ∈ busiestLines size cells, line.passes cell = true := by
  fun_induction busiestLines size cells with
  | case1 cells nothing =>
      rw [eq_nil_of_busiest?_eq_none inside nothing] at member
      cases member
  | case2 cells line count chosen shorter inductionHypothesis =>
      cases passed : line.passes cell with
      | true => exact ⟨line, List.mem_cons_self, passed⟩
      | false =>
          have remains : cell ∈ line.leaves cells :=
            List.mem_filter.mpr ⟨member, by rw [passed]; rfl⟩
          rcases inductionHypothesis (fun other left => inside other (List.mem_of_mem_filter left))
            remains with ⟨later, among, passes⟩
          exact ⟨later, List.mem_cons_of_mem line among, passes⟩

theorem mem_allowedCells_iff {row column : Nat} :
    (row, column) ∈ allowedCells allowed size ↔
      row < size ∧ column < size ∧ allowed row column = true := by
  simp only [allowedCells, List.mem_flatMap, List.mem_map, List.mem_filter, List.mem_range]
  constructor
  · rintro ⟨_, rowInside, _, ⟨columnInside, permitted⟩, same⟩
    cases same
    exact ⟨rowInside, columnInside, permitted⟩
  · rintro ⟨rowInside, columnInside, permitted⟩
    exact ⟨row, rowInside, column, ⟨columnInside, permitted⟩, rfl⟩

theorem covers_greedyCover (allowed : Nat → Nat → Bool) (size : Nat) :
    Covers allowed size size (greedyCover allowed size).rowSet
      (greedyCover allowed size).columnSet := by
  intro row rowInside column columnInside permitted
  have member : (row, column) ∈ allowedCells allowed size :=
    mem_allowedCells_iff.mpr ⟨rowInside, columnInside, permitted⟩
  have inside : ∀ cell ∈ allowedCells allowed size, cell.1 < size :=
    fun cell listed => (mem_allowedCells_iff.mp listed).1
  rcases exists_mem_busiestLines inside member with ⟨line, taken, passes⟩
  rw [Cover.rowSet, Cover.columnSet, List.mem_toFinset, List.mem_toFinset, greedyCover,
    Cover.mem_covered_map_range_iff, Cover.mem_covered_map_range_iff, List.contains_iff_mem,
    List.contains_iff_mem]
  cases line with
  | row index =>
      have same : row = index := of_decide_eq_true passes
      exact .inl ⟨rowInside, same ▸ taken⟩
  | column index =>
      have same : column = index := of_decide_eq_true passes
      exact .inr ⟨columnInside, same ▸ taken⟩

end Assignment
end Optimum
