namespace Optimum
namespace Assignment

/-!
# Tallies

How often each number below a bound occurs in a list, counted in one pass.
-/

/-- Count each number below `size`; larger ones are left out.  The counts are
kept in an array, so a table is counted in one pass. -/
def tally (size : Nat) (numbers : List Nat) : Array Nat :=
  numbers.foldl (fun counts number => counts.modify number (· + 1)) (Array.replicate size 0)

/-- One entry of a tally that started from some counts. -/
theorem getElem?_foldl_modify (numbers : List Nat) (counts : Array Nat) (number : Nat) :
    (numbers.foldl (fun counts number => counts.modify number (· + 1)) counts)[number]? =
      counts[number]?.map (· + numbers.count number) := by
  induction numbers generalizing counts with
  | nil => simp
  | cons first rest inductionHypothesis =>
      rw [List.foldl_cons, inductionHypothesis, Array.getElem?_modify]
      by_cases same : first = number
      · subst same
        cases counts[first]? <;> simp [Nat.add_assoc, Nat.add_comm 1]
      · simp [same]

theorem getElem?_tally (size : Nat) (numbers : List Nat) (number : Nat) :
    (tally size numbers)[number]? = if number < size then some (numbers.count number) else none := by
  rw [tally, getElem?_foldl_modify, Array.getElem?_replicate]
  split <;> simp

end Assignment
end Optimum
