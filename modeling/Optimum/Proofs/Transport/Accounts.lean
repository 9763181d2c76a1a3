import Optimum.Proofs.Transport.Tables

namespace Optimum
namespace Transport

open Assignment Scalar

/-!
# The accounts of a walk

A walk leaves a line for the next one as soon as no more than the tolerance is
left there, and what is left then is written off.  `Accounts` keeps the books
of one side, sources or destinations: the lines from the current one on still
have what was not moved, and the lines before it were written off with no more
than the tolerance each.

`Underway` is the invariant of a walk, with the books of both sides.  A step
keeps it, and since one of the two amounts at a cell is always used up, a walk
goes on until one side has no line left.
-/

/-- What was there and has not been moved.  Part of it may still be moved, and
part of it may have been written off. -/
def shortfall (amounts : List Rat) (moved : Nat → Rat) (line : Nat) : Rat :=
  amounts.getD line 0 - moved line

structure Accounts (tolerance : Rat) (amounts remaining : List Rat) (moved : Nat → Rat)
    (position : Nat) : Prop where
  length_eq : remaining.length = amounts.length
  nonneg : ∀ line < amounts.length, 0 ≤ shortfall amounts moved line
  writtenOff : ∀ line < amounts.length, line < position → shortfall amounts moved line ≤ tolerance
  remaining_eq : ∀ line < amounts.length, position ≤ line →
    remaining.getD line 0 = shortfall amounts moved line

variable {tolerance amount : Rat} {amounts remaining : List Rat} {moved : Nat → Rat}
  {position : Nat}

/-! ## One side -/

theorem withdraw_cases (tolerance available amount : Rat) :
    (available - amount ≤ tolerance ∧ withdraw tolerance available amount = (0, true)) ∨
      withdraw tolerance available amount = (available - amount, false) := by
  unfold withdraw
  by_cases small : available - amount ≤ tolerance
  · exact .inl ⟨small, if_pos small⟩
  · exact .inr (if_neg small)

namespace Accounts

theorem initial (nonneg : ∀ amount ∈ amounts, 0 ≤ amount) (empty : ∀ line, moved line = 0) :
    Accounts tolerance amounts amounts moved 0 where
  length_eq := rfl
  nonneg := by
    intro line inside
    rw [shortfall, empty line, sub_zero, List.getD_eq_getElem _ _ inside]
    exact nonneg _ (List.getElem_mem _)
  writtenOff := fun line _ before => absurd before (Nat.not_lt_zero line)
  remaining_eq := fun line _ _ => by rw [shortfall, empty line, sub_zero]

theorem current_nonneg (accounts : Accounts tolerance amounts remaining moved position)
    (inside : position < amounts.length) : 0 ≤ remaining.getD position 0 := by
  rw [accounts.remaining_eq position inside (le_refl position)]
  exact accounts.nonneg position inside

/-- Moving an amount from the current line keeps the books in order, whether the
line is exhausted by it or not. -/
theorem withdrawn (accounts : Accounts tolerance amounts remaining moved position)
    (inside : position < amounts.length) (available : amount ≤ remaining.getD position 0)
    {after : Nat → Rat}
    (moves : ∀ line, after line = moved line + if line = position then amount else 0) :
    let rest := withdraw tolerance (remaining.getD position 0) amount
    Accounts tolerance amounts (remaining.set position rest.1) after
      (if rest.2 then position + 1 else position) := by
  have here : shortfall amounts after position = remaining.getD position 0 - amount := by
    rw [accounts.remaining_eq position inside (le_refl position), shortfall, shortfall,
      moves position, if_pos rfl]
    ring
  have elsewhere : ∀ line, line ≠ position →
      shortfall amounts after line = shortfall amounts moved line := by
    intro line different
    rw [shortfall, moves line, if_neg different, add_zero, shortfall]
  have length : ∀ value, (remaining.set position value).length = amounts.length := by
    intro value
    rw [List.length_set, accounts.length_eq]
  have nonneg : ∀ line < amounts.length, 0 ≤ shortfall amounts after line := by
    intro line lineInside
    by_cases same : line = position
    · rw [same, here]
      exact sub_nonneg.mpr available
    · rw [elsewhere line same]
      exact accounts.nonneg line lineInside
  have later : ∀ value line, line < amounts.length → position < line →
      (remaining.set position value).getD line 0 = shortfall amounts after line := by
    intro value line lineInside behind
    rw [List.getD_eq_getElem?_getD, List.getElem?_set_ne behind.ne, ← List.getD_eq_getElem?_getD,
      accounts.remaining_eq line lineInside behind.le, elsewhere line behind.ne']
  have earlier : ∀ line < amounts.length, line < position →
      shortfall amounts after line ≤ tolerance := by
    intro line lineInside before
    rw [elsewhere line before.ne]
    exact accounts.writtenOff line lineInside before
  rcases withdraw_cases tolerance (remaining.getD position 0) amount with ⟨small, done⟩ | goesOn
  · simp only [done, if_true]
    refine ⟨length 0, nonneg, fun line lineInside before => ?_, fun line lineInside reached => ?_⟩
    · rcases Nat.lt_succ_iff_lt_or_eq.mp before with before | rfl
      · exact earlier line lineInside before
      · rw [here]
        exact small
    · exact later 0 line lineInside reached
  · simp only [goesOn, Bool.false_eq_true, if_false]
    refine ⟨length _, nonneg, earlier, fun line lineInside reached => ?_⟩
    rcases Nat.eq_or_lt_of_le reached with rfl | behind
    · rw [List.getD_eq_getElem _ _ (length _ ▸ inside), List.getElem_set_self, here]
    · exact later _ line lineInside behind

end Accounts

/-! ## Both sides -/

/-- The state of a walk at a cell: the books of both sides, and a table that
holds what the books say was moved.  A step keeps it, and what is said of a plan
is read off it where the walk ends. -/
structure Underway (tolerance : Rat) (problem : Problem Rat) (source destination : Nat)
    (supply demand : List Rat) (allocation : List (List Rat)) : Prop where
  sized : Sized allocation problem.supply.length problem.demand.length
  nonneg : ∀ row column, 0 ≤ cell allocation row column
  sources : Accounts tolerance problem.supply supply
    (rowTotal allocation problem.demand.length) source
  destinations : Accounts tolerance problem.demand demand
    (columnTotal allocation problem.supply.length) destination

variable {problem : Problem Rat} {source destination : Nat} {supply demand : List Rat}
  {allocation : List (List Rat)}

/-- One of the two amounts at a cell is used up, so the walk moves on.  This is
where the tolerance must not be negative. -/
theorem advances_stepAt (nonneg : 0 ≤ tolerance) (index source destination : Nat)
    (supply demand : List Rat) (allocation : List (List Rat)) :
    (stepAt tolerance index source destination supply demand allocation).advances = true := by
  have done : ∀ available, (withdraw tolerance available available).2 = true := by
    intro available
    rw [withdraw, sub_self, if_pos nonneg]
  simp only [Step.advances, stepAt, Bool.or_eq_true, smaller_eq_min]
  rcases min_choice (supply.getD source 0) (demand.getD destination 0) with least | least
  · rw [least]
    exact .inl (done _)
  · rw [least]
    exact .inr (done _)

theorem lastAllocation_cons (step : Step Rat) (steps : List (Step Rat))
    (before : List (List Rat)) :
    ((step :: steps).getLast?.map Step.allocation).getD before =
      (steps.getLast?.map Step.allocation).getD step.allocation := by
  rw [List.getLast?_cons]
  cases steps.getLast? with
  | none => rfl
  | some last => rfl

namespace Underway

/-- A step keeps the books of both sides in order.  What it moves is there on
either side, since it is the smaller amount. -/
theorem stepAt (underway : Underway tolerance problem source destination supply demand allocation)
    (sourceInside : source < problem.supply.length)
    (destinationInside : destination < problem.demand.length) (index : Nat) :
    let step := stepAt tolerance index source destination supply demand allocation
    Underway tolerance problem step.nextSource step.nextDestination step.remainingSupply
      step.remainingDemand step.allocation where
  sized := underway.sized.addAt source destination _
  nonneg := by
    intro row column
    simp only [Transport.stepAt, smaller_eq_min]
    rw [underway.sized.cell_addAt sourceInside destinationInside]
    refine add_nonneg (underway.nonneg row column) ?_
    split
    · exact le_min (underway.sources.current_nonneg sourceInside)
        (underway.destinations.current_nonneg destinationInside)
    · exact le_refl 0
  sources := by
    refine underway.sources.withdrawn sourceInside ?_ fun row =>
      underway.sized.rowTotal_addAt sourceInside destinationInside row
    rw [smaller_eq_min]
    exact min_le_left _ _
  destinations := by
    refine underway.destinations.withdrawn destinationInside ?_ fun column =>
      underway.sized.columnTotal_addAt sourceInside destinationInside column
    rw [smaller_eq_min]
    exact min_le_right _ _

/-- A walk ends with its books in order where one side has no line left.  The
induction is on the lines that are left of both sides. -/
theorem walk (nonneg : 0 ≤ tolerance) (index : Nat)
    (underway : Underway tolerance problem source destination supply demand allocation) :
    ∃ lastSource lastDestination leftSupply leftDemand,
      Underway tolerance problem lastSource lastDestination leftSupply leftDemand
        (((walk tolerance index source destination supply demand allocation).getLast?.map
          Step.allocation).getD allocation) ∧
      (problem.supply.length ≤ lastSource ∨ problem.demand.length ≤ lastDestination) := by
  fun_induction Transport.walk tolerance index source destination supply demand allocation with
  | case1 index source destination supply demand allocation inside step advances
      inductionHypothesis =>
      rw [underway.sources.length_eq, underway.destinations.length_eq] at inside
      rcases inductionHypothesis (underway.stepAt inside.1 inside.2 index) with
        ⟨lastSource, lastDestination, leftSupply, leftDemand, kept, ends⟩
      refine ⟨lastSource, lastDestination, leftSupply, leftDemand, ?_, ends⟩
      rw [lastAllocation_cons]
      exact kept
  | case2 index source destination supply demand allocation inside step stuck =>
      exact absurd (advances_stepAt nonneg index source destination supply demand allocation) stuck
  | case3 index source destination supply demand allocation outside =>
      rw [underway.sources.length_eq, underway.destinations.length_eq] at outside
      refine ⟨source, destination, supply, demand, underway, ?_⟩
      omega

end Underway

end Transport
end Optimum
