import Optimum.Proofs.Tableau.RowSpace

namespace Optimum
namespace Tableau

open Scalar

/-!
# Which pivot is chosen

The four choices of a pivot search the rows or the columns of a tableau for
the least of a number of values, among the positions that pass a test.  Each
is described by `IsFirstLeast`, which also says how ties are resolved.
-/

/-- The first position that passes a test and has the least value of those
that do. -/
structure IsFirstLeast (count : Nat) (passes : Nat → Prop) (value : Nat → Rat)
    (position : Nat) : Prop where
  lt : position < count
  passed : passes position
  least : ∀ other < count, passes other → value position ≤ value other
  first : ∀ other < position, passes other → value position < value other

section Search

variable {count : Nat} {passes : Nat → Prop} [DecidablePred passes] {value : Nat → Rat}

/-- The positions that pass a test, with their values. -/
def candidates (count : Nat) (passes : Nat → Prop) [DecidablePred passes]
    (value : Nat → Rat) : List (Nat × Rat) :=
  (List.range count).filterMap fun position =>
    if passes position then some (position, value position) else none

theorem mem_candidates_iff {candidate : Nat × Rat} :
    candidate ∈ candidates count passes value ↔
      candidate.1 < count ∧ passes candidate.1 ∧ candidate.2 = value candidate.1 := by
  simp only [candidates, List.mem_filterMap, List.mem_range]
  constructor
  · rintro ⟨position, inside, found⟩
    by_cases passed : passes position
    · rw [if_pos passed] at found
      cases Option.some.inj found
      exact ⟨inside, passed, rfl⟩
    · rw [if_neg passed] at found
      cases found
  · rintro ⟨inside, passed, same⟩
    exact ⟨candidate.1, inside, by rw [if_pos passed, ← same]⟩

theorem pairwise_candidates :
    (candidates count passes value).Pairwise fun first second => first.1 < second.1 := by
  refine List.Pairwise.filterMap _ ?_ List.pairwise_lt_range
  intro first second before left leftFound right rightFound
  by_cases firstPassed : passes first
  · by_cases secondPassed : passes second
    · rw [if_pos firstPassed] at leftFound
      rw [if_pos secondPassed] at rightFound
      cases Option.some.inj leftFound
      cases Option.some.inj rightFound
      exact before
    · rw [if_neg secondPassed] at rightFound
      cases rightFound
  · rw [if_neg firstPassed] at leftFound
    cases leftFound

theorem not_passes_of_leastIndex_eq_none
    (nothing : leastIndex (candidates count passes value) = none) {position : Nat}
    (inside : position < count) : ¬ passes position := by
  intro passed
  have member : (position, value position) ∈ candidates count passes value :=
    mem_candidates_iff.mpr ⟨inside, passed, rfl⟩
  rw [leastIndex_eq_none nothing] at member
  cases member

theorem isFirstLeast_of_leastIndex_eq_some {position : Nat}
    (chosen : leastIndex (candidates count passes value) = some position) :
    IsFirstLeast count passes value position := by
  rcases leastIndex_eq_some chosen with ⟨before, least, after, split, above, notBelow⟩
  have ordered : (before ++ (position, least) :: after).Pairwise
      fun first second => first.1 < second.1 := split ▸ pairwise_candidates
  have listed : ∀ candidate ∈ before ++ (position, least) :: after,
      candidate.1 < count ∧ passes candidate.1 ∧ candidate.2 = value candidate.1 :=
    fun candidate member => mem_candidates_iff.mp (split ▸ member)
  rcases listed (position, least) (by simp) with ⟨inside, passed, same⟩
  change least = value position at same
  subst same
  have located : ∀ other < count, passes other →
      (other, value other) ∈ before ++ (position, value position) :: after :=
    fun other below passedOther => split ▸ mem_candidates_iff.mpr ⟨below, passedOther, rfl⟩
  refine ⟨inside, passed, fun other below passedOther => ?_, fun other earlier passedOther => ?_⟩
  · rcases List.mem_append.mp (located other below passedOther) with left | right
    · exact (above _ left).le
    · rcases List.mem_cons.mp right with same | right
      · rw [(Prod.mk.inj same).1]
      · exact notBelow _ right
  · rcases List.mem_append.mp (located other (earlier.trans inside) passedOther) with left | right
    · exact above _ left
    · -- What follows the chosen position in the list has a larger index.
      rcases List.mem_cons.mp right with same | right
      · exact absurd (Prod.mk.inj same).1 earlier.ne
      · have later := (List.pairwise_cons.mp (List.pairwise_append.mp ordered).2.1).1 _ right
        exact absurd earlier (Nat.lt_asymm later)

theorem filter_map_eq_candidates (bound : Rat) :
    ((List.range count).map fun position => (position, value position)).filter
        (fun candidate => candidate.2 < bound) =
      candidates count (fun position => value position < bound) value := by
  rw [candidates, List.filter_map, ← List.filterMap_eq_map, List.filterMap_filter]
  refine List.filterMap_congr fun position _ => ?_
  simp only [Function.comp, decide_eq_true_eq]

end Search

/-! ## The four choices -/

variable {tableau : Tableau Rat} {tolerance : Rat}

theorem enteringColumn?_eq :
    tableau.enteringColumn? tolerance = leastIndex (candidates tableau.width
      (fun column => tableau.entry tableau.height column < -tolerance)
      (tableau.entry tableau.height)) := by
  rw [enteringColumn?, numberedEntries, ← filter_map_eq_candidates]
  simp only [entry_height]

theorem leavingRow?_eq {column : Nat} :
    tableau.leavingRow? column tolerance = leastIndex (candidates tableau.height
      (fun row => tolerance < tableau.entry row column)
      (fun row => tableau.rhs row / tableau.entry row column)) := by
  simp only [leavingRow?, candidates, belowCeiling_rat, and_true]

theorem dualLeavingRow?_eq :
    tableau.dualLeavingRow? tolerance = leastIndex (candidates tableau.height
      (fun row => tableau.rhs row < -tolerance) tableau.rhs) := by
  rw [dualLeavingRow?, ← filter_map_eq_candidates]

theorem dualEnteringColumn?_eq {row : Nat} :
    tableau.dualEnteringColumn? row tolerance = leastIndex (candidates tableau.width
      (fun column => tableau.entry row column < -tolerance)
      (fun column => |tableau.entry tableau.height column / tableau.entry row column|)) := by
  simp only [dualEnteringColumn?, candidates, belowCeiling_rat, and_true, magnitude_eq_abs,
    entry_height]

end Tableau
end Optimum
