import Optimum.Proofs.Transport.Conservation

namespace Optimum
namespace Transport

open Assignment Scalar

/-!
# The steps of the northwest corner

The cells of a walk lead from the first one downwards and to the right until a
side has no line left, so there are fewer of them than lines.  Every step
records the state right after it: the plan holds the amounts of the steps so
far and nothing else, and if nothing is written off, what remains is what the
plan leaves of the amounts that were there.
-/

/-- The cell of a step. -/
def Step.place {α : Type} (step : Step α) : Nat × Nat :=
  (step.source, step.destination)

/-- Whether a cell is one down, one to the right, or both. -/
def IsNext (place next : Nat × Nat) : Prop :=
  next = (place.1 + 1, place.2) ∨ next = (place.1, place.2 + 1) ∨
    next = (place.1 + 1, place.2 + 1)

/-- A path of cells from the first one, down and to the right.  So it visits no
cell twice, and its length is less than the rows and columns together. -/
structure IsStair (places : List (Nat × Nat)) : Prop where
  starts : places.head? = some (0, 0)
  goesOn : places.IsChain IsNext

/-- A table that holds the amount of each step at its cell, and nothing
elsewhere. -/
structure Tallies (table : List (List Rat)) (steps : List (Step Rat)) : Prop where
  amount_eq : ∀ step ∈ steps, cell table step.source step.destination = step.amount
  empty : ∀ row column, (row, column) ∉ steps.map Step.place → cell table row column = 0

/-- Whether the lines before a position have nothing left. -/
def Cleared (remaining : List Rat) (position : Nat) : Prop :=
  ∀ line < position, remaining.getD line 0 = 0

variable {tolerance amount : Rat} {amounts remaining : List Rat} {moved : Nat → Rat}
  {position : Nat}

/-! ## Lines that were left -/

theorem Cleared.withdrawn (cleared : Cleared remaining position) (tolerance amount : Rat) :
    let rest := withdraw tolerance (remaining.getD position 0) amount
    Cleared (remaining.set position rest.1) (if rest.2 then position + 1 else position) := by
  have earlier : ∀ value, ∀ line < position, (remaining.set position value).getD line 0 = 0 := by
    intro value line before
    rw [List.getD_eq_getElem?_getD, List.getElem?_set_ne before.ne', ← List.getD_eq_getElem?_getD]
    exact cleared line before
  rcases withdraw_cases tolerance (remaining.getD position 0) amount with ⟨-, done⟩ | goesOn
  · simp only [done, if_true]
    intro line before
    rcases Nat.lt_succ_iff_lt_or_eq.mp before with before | rfl
    · exact earlier 0 line before
    · rw [List.getD_eq_getElem?_getD, List.getElem?_set_self']
      cases remaining[line]? with
      | none => rfl
      | some left => rfl
  · simp only [goesOn, Bool.false_eq_true, if_false]
    exact earlier _

/-- If nothing is written off, every line has left what was not moved. -/
theorem Accounts.remaining_eq_mapIdx (accounts : Accounts 0 amounts remaining moved position)
    (cleared : Cleared remaining position) :
    remaining = amounts.mapIdx fun line amount => amount - moved line := by
  have left : ∀ line < amounts.length, remaining.getD line 0 = shortfall amounts moved line := by
    intro line inside
    rcases Nat.lt_or_ge line position with before | reached
    · rw [cleared line before]
      exact le_antisymm (accounts.nonneg line inside) (accounts.writtenOff line inside before)
    · exact accounts.remaining_eq line inside reached
  refine List.ext_getElem (by rw [List.length_mapIdx, accounts.length_eq]) fun line within _ => ?_
  have inside : line < amounts.length := accounts.length_eq ▸ within
  rw [List.getElem_mapIdx, ← List.getD_eq_getElem remaining 0 within, left line inside, shortfall,
    List.getD_eq_getElem amounts 0 inside]

/-! ## The cell after a step -/

theorem isNext_of_advances {α : Type} {step : Step α} (advances : step.advances = true) :
    IsNext step.place (step.nextSource, step.nextDestination) := by
  rw [IsNext, Step.place, Step.nextSource, Step.nextDestination]
  rw [Step.advances] at advances
  cases sourceDone : step.sourceDone with
  | true =>
      cases step.destinationDone with
      | true => exact .inr (.inr rfl)
      | false => exact .inl rfl
  | false =>
      rw [sourceDone, Bool.false_or] at advances
      rw [advances]
      exact .inr (.inl rfl)

theorem IsStair.concat {places : List (Nat × Nat)} {place next : Nat × Nat}
    (isStair : IsStair (places ++ [place])) (isNext : IsNext place next) :
    IsStair (places ++ [place] ++ [next]) where
  starts := by
    rw [List.head?_append, isStair.starts]
    rfl
  goesOn := by
    refine List.isChain_append.mpr ⟨isStair.goesOn, List.isChain_singleton _, ?_⟩
    intro last isLast first isFirst
    rw [List.getLast?_concat] at isLast
    cases isLast
    cases isFirst
    exact isNext

/-- A path without its last cell is one too, unless nothing is left. -/
theorem IsStair.of_concat {places : List (Nat × Nat)} {place : Nat × Nat}
    (isStair : IsStair (places ++ [place])) (present : places ≠ []) : IsStair places where
  starts := by
    rw [← isStair.starts, List.head?_append_of_ne_nil _ present]
  goesOn := (List.isChain_append.mp isStair.goesOn).1

/-- A walk that is not over begins with the step at its cell and goes on behind
it. -/
theorem walk_eq_cons (nonneg : 0 ≤ tolerance) {index source destination : Nat}
    {supply demand : List Rat} {allocation : List (List Rat)} {step : Step Rat}
    {rest : List (Step Rat)}
    (leads : walk tolerance index source destination supply demand allocation = step :: rest) :
    (source < supply.length ∧ destination < demand.length) ∧
      step = stepAt tolerance index source destination supply demand allocation ∧
      rest = walk tolerance (index + 1) step.nextSource step.nextDestination step.remainingSupply
        step.remainingDemand step.allocation := by
  rw [walk] at leads
  split at leads
  · next inside =>
      rw [dif_pos (advances_stepAt nonneg index source destination supply demand allocation)]
        at leads
      rcases List.cons.inj leads with ⟨rfl, rfl⟩
      exact ⟨inside, rfl, rfl⟩
  · cases leads

theorem outside_of_walk_eq_nil {index source destination : Nat} {supply demand : List Rat}
    {allocation : List (List Rat)}
    (none : walk tolerance index source destination supply demand allocation = []) :
    ¬ (source < supply.length ∧ destination < demand.length) := by
  intro inside
  rw [walk, dif_pos inside] at none
  dsimp only at none
  split at none <;> cases none

/-! ## The state with the steps that led there -/

/-- The state of a walk at a cell after some steps.  It adds to the books what
the steps before have recorded and the path that they took. -/
structure Trodden (tolerance : Rat) (problem : Problem Rat) (before : List (Step Rat))
    (source destination : Nat) (supply demand : List Rat) (allocation : List (List Rat)) : Prop
    extends Underway tolerance problem source destination supply demand allocation where
  index_eq : ∀ (k : Nat) (step : Step Rat), before[k]? = some step → step.index = k
  isStair : IsStair (before.map Step.place ++ [(source, destination)])
  /-- The cells of earlier steps lie closer to the first cell. -/
  behind : ∀ step ∈ before, step.source + step.destination < source + destination
  length_le : before.length ≤ source + destination
  index_le : ∀ step ∈ before, step.index ≤ step.source + step.destination
  tallies : Tallies allocation before
  supplyCleared : Cleared supply source
  demandCleared : Cleared demand destination

variable {problem : Problem Rat} {before : List (Step Rat)} {source destination : Nat}
  {supply demand : List Rat} {allocation : List (List Rat)}

theorem Tallies.concat {rows columns : Nat} (tallies : Tallies allocation before)
    (sized : Sized allocation rows columns) (sourceInside : source < rows)
    (destinationInside : destination < columns) {step : Step Rat}
    (place_eq : step.place = (source, destination))
    (fresh : (source, destination) ∉ before.map Step.place) :
    Tallies (addAt allocation source destination step.amount) (before ++ [step]) where
  amount_eq := by
    intro other member
    rw [sized.cell_addAt sourceInside destinationInside]
    rcases List.mem_append.mp member with earlier | same
    · have elsewhere : ¬ (other.source = source ∧ other.destination = destination) := by
        rintro ⟨rfl, rfl⟩
        exact fresh (List.mem_map_of_mem earlier)
      rw [if_neg elsewhere, add_zero]
      exact tallies.amount_eq other earlier
    · rw [List.mem_singleton.mp same]
      rcases Prod.mk.inj place_eq with ⟨rfl, rfl⟩
      rw [if_pos ⟨rfl, rfl⟩, tallies.empty _ _ fresh, zero_add]
  empty := by
    intro row column absent
    rw [List.map_append, List.mem_append, not_or] at absent
    have elsewhere : ¬ (row = source ∧ column = destination) := by
      rintro ⟨rfl, rfl⟩
      exact absent.2 (List.mem_singleton.mpr place_eq.symm)
    rw [sized.cell_addAt sourceInside destinationInside, if_neg elsewhere, add_zero]
    exact tallies.empty row column absent.1

namespace Trodden

theorem fresh (trodden : Trodden tolerance problem before source destination supply demand
    allocation) : (source, destination) ∉ before.map Step.place := by
  intro visited
  rcases List.mem_map.mp visited with ⟨step, member, same⟩
  rcases Prod.mk.inj same with ⟨rfl, rfl⟩
  exact (trodden.behind step member).false

theorem stepAt (nonneg : 0 ≤ tolerance)
    (trodden : Trodden tolerance problem before source destination supply demand allocation)
    (sourceInside : source < problem.supply.length)
    (destinationInside : destination < problem.demand.length) :
    let step := stepAt tolerance before.length source destination supply demand allocation
    Trodden tolerance problem (before ++ [step]) step.nextSource step.nextDestination
      step.remainingSupply step.remainingDemand step.allocation := by
  intro step
  have advances : step.advances = true :=
    advances_stepAt nonneg before.length source destination supply demand allocation
  have place_eq : step.place = (source, destination) := rfl
  have placed : Tallies (addAt allocation source destination step.amount) (before ++ [step]) :=
    trodden.tallies.concat trodden.sized sourceInside destinationInside place_eq trodden.fresh
  have farther : source + destination < step.nextSource + step.nextDestination :=
    (step.lt_next_of_advances advances).2.2
  exact {
    toUnderway := trodden.toUnderway.stepAt sourceInside destinationInside before.length
    index_eq := by
      intro k other found
      rcases Nat.lt_or_ge k before.length with earlier | later
      · rw [List.getElem?_append_left earlier] at found
        exact trodden.index_eq k other found
      · rw [List.getElem?_append_right later] at found
        rcases List.getElem?_eq_some_iff.mp found with ⟨inside, rfl⟩
        rw [List.length_singleton] at inside
        have last : k = before.length := by omega
        subst last
        simp [step, Transport.stepAt]
    isStair := by
      rw [List.map_append, List.map_singleton]
      exact trodden.isStair.concat (isNext_of_advances advances)
    behind := by
      intro other member
      rcases List.mem_append.mp member with earlier | same
      · exact (trodden.behind other earlier).trans farther
      · rw [List.mem_singleton.mp same]
        exact farther
    length_le := by
      have bounded := trodden.length_le
      rw [List.length_append, List.length_singleton]
      omega
    index_le := by
      intro other member
      rcases List.mem_append.mp member with earlier | same
      · exact trodden.index_le other earlier
      · rw [List.mem_singleton.mp same]
        exact trodden.length_le
    tallies := placed
    supplyCleared := trodden.supplyCleared.withdrawn tolerance _
    demandCleared := trodden.demandCleared.withdrawn tolerance _ }

theorem inside_iff (trodden : Trodden tolerance problem before source destination supply demand
    allocation) : source < supply.length ∧ destination < demand.length ↔
      source < problem.supply.length ∧ destination < problem.demand.length := by
  rw [trodden.sources.length_eq, trodden.destinations.length_eq]

/-- The first step of a walk leads to the state that the rest starts from. -/
theorem stepOn (nonneg : 0 ≤ tolerance)
    (trodden : Trodden tolerance problem before source destination supply demand allocation)
    {step : Step Rat} {rest : List (Step Rat)}
    (leads : walk tolerance before.length source destination supply demand allocation =
      step :: rest) :
    (step.source < problem.supply.length ∧ step.destination < problem.demand.length) ∧
      step.advances = true ∧
      Trodden tolerance problem (before ++ [step]) step.nextSource step.nextDestination
        step.remainingSupply step.remainingDemand step.allocation ∧
      walk tolerance (before ++ [step]).length step.nextSource step.nextDestination
        step.remainingSupply step.remainingDemand step.allocation = rest := by
  rcases walk_eq_cons nonneg leads with ⟨inside, rfl, rfl⟩
  have within := trodden.inside_iff.mp inside
  refine ⟨within, advances_stepAt nonneg _ _ _ _ _ _, trodden.stepAt nonneg within.1 within.2, ?_⟩
  rw [List.length_append, List.length_singleton]

/-- Every step of a walk is inside the table and advances, and its record is
the state after the steps up to it.  Behind the last step there is no cell. -/
theorem walk (nonneg : 0 ≤ tolerance)
    (trodden : Trodden tolerance problem before source destination supply demand allocation)
    {passed rest : List (Step Rat)} {step : Step Rat}
    (leads : walk tolerance before.length source destination supply demand allocation =
      passed ++ step :: rest) :
    (step.source < problem.supply.length ∧ step.destination < problem.demand.length) ∧
      step.advances = true ∧
      Trodden tolerance problem (before ++ passed ++ [step]) step.nextSource
        step.nextDestination step.remainingSupply step.remainingDemand step.allocation ∧
      (rest = [] → problem.supply.length ≤ step.nextSource ∨
        problem.demand.length ≤ step.nextDestination) := by
  induction passed generalizing before source destination supply demand allocation with
  | nil =>
      rcases trodden.stepOn nonneg leads with ⟨within, advances, next, goesOn⟩
      refine ⟨within, advances, by rwa [List.append_nil], fun last => ?_⟩
      have outside := outside_of_walk_eq_nil (goesOn.trans last)
      rw [next.inside_iff] at outside
      omega
  | cons first passed inductionHypothesis =>
      rcases trodden.stepOn nonneg leads with ⟨-, -, next, goesOn⟩
      have later := inductionHypothesis next goesOn
      rwa [List.append_assoc before [first] passed] at later

end Trodden

/-! ## The answer -/

theorem trodden_start (accepted : problem.Accepted) (tolerance : Rat) :
    Trodden tolerance problem [] 0 0 problem.supply problem.demand
      (List.replicate problem.supply.length (List.replicate problem.demand.length 0)) where
  toUnderway := underway_start accepted tolerance
  index_eq := fun k step found => by cases found
  isStair := ⟨rfl, List.isChain_singleton _⟩
  behind := fun _ member => absurd member List.not_mem_nil
  length_le := Nat.zero_le _
  index_le := fun _ member => absurd member List.not_mem_nil
  tallies := ⟨fun _ member => absurd member List.not_mem_nil,
    fun row column _ => cell_replicate _ _ row column⟩
  supplyCleared := fun line before => absurd before (Nat.not_lt_zero line)
  demandCleared := fun line before => absurd before (Nat.not_lt_zero line)

/-- What the steps of a plan are to be: a path through the table, each with the
amount that it moved and the state that it left. -/
structure Solution.IsStaircase (problem : Problem Rat) (tolerance : Rat)
    (solution : Solution Rat) : Prop where
  length_lt : solution.steps.length < problem.supply.length + problem.demand.length
  advances : ∀ step ∈ solution.steps, step.advances = true
  index_eq : ∀ (k : Nat) (step : Step Rat), solution.steps[k]? = some step → step.index = k
  isStair : IsStair (solution.steps.map Step.place)
  inside : ∀ step ∈ solution.steps,
    step.source < problem.supply.length ∧ step.destination < problem.demand.length
  ends : ∃ last, solution.steps.getLast? = some last ∧ solution.allocation = last.allocation ∧
    (last.source + 1 = problem.supply.length ∨ last.destination + 1 = problem.demand.length)
  sized : ∀ step ∈ solution.steps,
    Sized step.allocation problem.supply.length problem.demand.length
  tallies : ∀ (k : Nat) (step : Step Rat), solution.steps[k]? = some step →
    Tallies step.allocation (solution.steps.take (k + 1))
  remaining_eq : tolerance = 0 → ∀ step ∈ solution.steps,
    (step.remainingSupply = problem.supply.mapIdx fun row amount =>
      amount - rowTotal step.allocation problem.demand.length row) ∧
    step.remainingDemand = problem.demand.mapIdx fun column amount =>
      amount - columnTotal step.allocation problem.supply.length column

theorem steps_of_northwest {solution : Solution Rat}
    (answers : northwest tolerance problem = .ok solution) :
    problem.Accepted ∧ ∃ empty, empty = List.replicate problem.supply.length
        (List.replicate problem.demand.length 0) ∧
      solution.steps = walk tolerance 0 0 0 problem.supply problem.demand empty ∧
      solution.allocation = (solution.steps.getLast?.map Step.allocation).getD empty := by
  rcases Checks.check_bind_eq_ok_iff.mp answers with ⟨valid, rest⟩
  split at rest
  · cases rest
  · cases rest
    exact ⟨Problem.validate_eq_ok_iff.mp valid, _, rfl, rfl, rfl⟩

/-- Each step of an answer records the state after the steps up to it, and the
last one leaves the table. -/
theorem trodden_of_northwest {solution : Solution Rat} (nonneg : 0 ≤ tolerance)
    (answers : northwest tolerance problem = .ok solution) {k : Nat} {step : Step Rat}
    (found : solution.steps[k]? = some step) :
    (step.source < problem.supply.length ∧ step.destination < problem.demand.length) ∧
      step.advances = true ∧
      Trodden tolerance problem (solution.steps.take (k + 1)) step.nextSource
        step.nextDestination step.remainingSupply step.remainingDemand step.allocation ∧
      (k + 1 = solution.steps.length → problem.supply.length ≤ step.nextSource ∨
        problem.demand.length ≤ step.nextDestination) := by
  rcases steps_of_northwest answers with ⟨accepted, empty, rfl, steps_eq, -⟩
  rcases List.getElem?_eq_some_iff.mp found with ⟨within, rfl⟩
  have cut : solution.steps =
      solution.steps.take k ++ solution.steps[k] :: solution.steps.drop (k + 1) := by
    rw [← List.drop_eq_getElem_cons within, List.take_append_drop]
  have leads := steps_eq.symm.trans cut
  rcases (trodden_start accepted tolerance).walk nonneg leads with ⟨inside, advances, state, ends⟩
  rw [List.nil_append, List.take_append_getElem within] at state
  exact ⟨inside, advances, state, fun last => ends (List.drop_eq_nil_of_le last.ge)⟩

theorem steps_ne_nil_of_northwest {solution : Solution Rat}
    (answers : northwest tolerance problem = .ok solution) : solution.steps ≠ [] := by
  rcases steps_of_northwest answers with ⟨accepted, empty, -, steps_eq, -⟩
  intro none
  exact outside_of_walk_eq_nil (steps_eq.symm.trans none)
    ⟨List.length_pos_iff.mpr accepted.supply_ne_nil, List.length_pos_iff.mpr accepted.demand_ne_nil⟩

/-- The step after which nothing is left on one side. -/
theorem exists_last_of_northwest {solution : Solution Rat} (nonneg : 0 ≤ tolerance)
    (answers : northwest tolerance problem = .ok solution) :
    ∃ last, solution.steps.getLast? = some last ∧ solution.allocation = last.allocation ∧
      Trodden tolerance problem solution.steps last.nextSource last.nextDestination
        last.remainingSupply last.remainingDemand last.allocation ∧
      (last.source + 1 = problem.supply.length ∨ last.destination + 1 = problem.demand.length) := by
  have present := steps_ne_nil_of_northwest answers
  have positive := List.length_pos_iff.mpr present
  rcases steps_of_northwest answers with ⟨-, empty, -, -, allocation_eq⟩
  have isLast := List.getLast?_eq_some_getLast present
  have found : solution.steps[solution.steps.length - 1]? = some (solution.steps.getLast present) :=
    List.getLast?_eq_getElem? ▸ isLast
  rcases trodden_of_northwest nonneg answers found with ⟨inside, -, state, ends⟩
  rw [Nat.sub_add_cancel positive, List.take_length] at state
  rw [isLast] at allocation_eq
  refine ⟨_, isLast, allocation_eq, state, ?_⟩
  have left := ends (Nat.sub_add_cancel positive)
  simp only [Step.nextSource, Step.nextDestination] at left
  split at left <;> split at left <;> omega

/-- With every tolerance that is not negative, the steps of an answer are a
staircase, and each of them records what the steps up to it moved.  The state
before a step is carried along the walk, so each record is compared with all the
steps before it. -/
theorem northwest_isStaircase {problem : Problem Rat} {tolerance : Rat} (nonneg : 0 ≤ tolerance)
    {solution : Solution Rat} (answers : northwest tolerance problem = .ok solution) :
    solution.IsStaircase problem tolerance := by
  have visited : ∀ step ∈ solution.steps,
      (step.source < problem.supply.length ∧ step.destination < problem.demand.length) ∧
        step.advances = true ∧ ∃ before, Trodden tolerance problem before step.nextSource
          step.nextDestination step.remainingSupply step.remainingDemand step.allocation := by
    intro step member
    rcases List.mem_iff_getElem?.mp member with ⟨k, found⟩
    rcases trodden_of_northwest nonneg answers found with ⟨inside, advances, after, -⟩
    exact ⟨inside, advances, _, after⟩
  have present := steps_ne_nil_of_northwest answers
  rcases exists_last_of_northwest nonneg answers with ⟨last, isLast, allocation_eq, state, ends⟩
  have lastMember := List.mem_of_getLast? isLast
  exact {
    length_lt := by
      -- The last step has the last index, and no step has an index beyond its cell.
      have index_eq := state.index_eq (solution.steps.length - 1) last
        (List.getLast?_eq_getElem? ▸ isLast)
      have index_le := state.index_le last lastMember
      have inside := (visited last lastMember).1
      omega
    advances := fun step member => (visited step member).2.1
    index_eq := state.index_eq
    isStair := state.isStair.of_concat (List.map_eq_nil_iff.not.mpr present)
    inside := fun step member => (visited step member).1
    ends := ⟨last, isLast, allocation_eq, ends⟩
    sized := by
      intro step member
      rcases (visited step member).2.2 with ⟨before, after⟩
      exact after.sized
    tallies := fun k step found => (trodden_of_northwest nonneg answers found).2.2.1.tallies
    remaining_eq := by
      intro zero step member
      subst zero
      rcases (visited step member).2.2 with ⟨before, after⟩
      exact ⟨after.sources.remaining_eq_mapIdx after.supplyCleared,
        after.destinations.remaining_eq_mapIdx after.demandCleared⟩ }

/-- Two mines for three mills.  The first step is a tie and moves on both
sides. -/
def mines : Problem Rat where
  sources := ["M1", "M2"]
  destinations := ["D1", "D2", "D3"]
  supply := [10, 20]
  demand := [10, 5, 15]
  costs := [[2, 3, 1], [5, 1, 4]]

theorem northwest_isStaircase_mines :
    (0 : Rat) ≤ 0 ∧ ∃ solution, northwest 0 mines = .ok solution ∧
      solution.steps.map Step.place = [(0, 0), (1, 1), (1, 2)] ∧
      solution.IsStaircase mines 0 := by
  have nonneg : (0 : Rat) ≤ 0 := le_refl 0
  have found : ((northwest 0 mines).map fun solution =>
      solution.steps.map Step.place).toOption = some [(0, 0), (1, 1), (1, 2)] := by
    decide +kernel
  cases answers : northwest 0 mines with
  | error error =>
      rw [answers] at found
      cases found
  | ok solution =>
      rw [answers] at found
      exact ⟨nonneg, solution, rfl, Option.some.inj found, northwest_isStaircase nonneg answers⟩

end Transport
end Optimum
