import Optimum.Proofs.Checks
import Optimum.Proofs.Tableau.Run

namespace Optimum
namespace Tableau

/-!
# Recorded runs

A run records a snapshot after each pivot.  `Trail` says what a record is, one
constructor for each way a run goes on, and every run that does not fail has
left one.  What a single pivot keeps therefore holds at every snapshot, not
only at the last tableau, and neighbouring snapshots tell of the same pivot.

`IsHistory` is the whole of what a recorded run shows: the count, the pivots
and the invariant of the tableaus.  It holds for every rule that pivots inside
the tableau on entries that are not zero.
-/

/-- The snapshots that the pivots of a rule leave between two tableaus.  What
holds along a run is shown by induction on it, one pivot at a time, and the
limit of the run plays no part in that. -/
inductive Trail (rule : Tableau Rat → Move) :
    Nat → Tableau Rat → List (Iteration Rat) → Tableau Rat → Prop
  | done (index : Nat) (tableau : Tableau Rat) : Trail rule index tableau [] tableau
  | pivot {index row column : Nat} {tableau next last : Tableau Rat}
      {later : List (Iteration Rat)} (move : rule tableau = .pivot row column)
      (succeeds : tableau.pivot row column = .ok next)
      (rest : Trail rule (index + 1) next later last) :
      Trail rule index tableau
        (⟨index, next, .pivot (tableau.label column) (tableau.label (tableau.basic row))
          (tableau.entry row column) row column⟩ :: later) last

variable {rule : Tableau Rat → Move} {index : Nat} {start last : Tableau Rat}
  {iterations : List (Iteration Rat)}

theorem trail_of_run {limit : Nat} {finished : Run Rat}
    (runs : run rule limit index start = .ok finished) :
    Trail rule index start finished.iterations finished.last := by
  induction limit generalizing index start finished with
  | zero =>
      unfold run at runs
      cases move : rule start with
      | pivot row column =>
          rw [move] at runs
          cases runs
          exact .done index start
      | stop verdict =>
          rw [move] at runs
          cases verdict with
          | optimal | unbounded | infeasible =>
              cases runs
              exact .done index start
  | succ limit inductionHypothesis =>
      unfold run at runs
      cases move : rule start with
      | stop verdict =>
          rw [move] at runs
          cases runs
          exact .done index start
      | pivot row column =>
          simp only [move] at runs
          rcases Checks.bind_eq_ok_iff.mp runs with ⟨next, succeeds, later⟩
          rcases Checks.bind_eq_ok_iff.mp later with ⟨continued, goesOn, same⟩
          cases same
          exact .pivot move succeeds (inductionHypothesis goesOn)

/-! ## What a record shows -/

namespace Trail

theorem map_index (trail : Trail rule index start iterations last) :
    iterations.map Iteration.index = List.range' index iterations.length := by
  induction trail with
  | done => rfl
  | pivot _ _ _ inductionHypothesis =>
      rw [List.map_cons, inductionHypothesis, List.length_cons, List.range'_succ]

/-- What every pivot of the rule keeps holds at each snapshot and at the end.
The induction on a run is made here, once for all invariants. -/
theorem keeps {Invariant : Tableau Rat → Prop}
    (advances : ∀ tableau row column next, Invariant tableau → rule tableau = .pivot row column →
      tableau.pivot row column = .ok next → Invariant next)
    (trail : Trail rule index start iterations last) (invariant : Invariant start) :
    (∀ snapshot ∈ iterations, Invariant snapshot.tableau) ∧ Invariant last := by
  induction trail with
  | done => exact ⟨by simp, invariant⟩
  | pivot move succeeds _ inductionHypothesis =>
      have kept := advances _ _ _ _ invariant move succeeds
      rcases inductionHypothesis kept with ⟨later, final⟩
      exact ⟨List.forall_mem_cons.mpr ⟨kept, later⟩, final⟩

/-- The run ends at the tableau of the last snapshot. -/
theorem getLast_map_tableau (trail : Trail rule index start iterations last) :
    (iterations.map Iteration.tableau).getLast?.getD start = last := by
  induction trail with
  | done => rfl
  | @pivot _ _ _ _ _ _ later _ _ _ inductionHypothesis =>
      rw [List.map_cons, List.getLast?_cons, Option.getD_some]
      exact inductionHypothesis

/-- If every pivot of the rule keeps an invariant and relates the snapshots at
its two ends, neighbouring snapshots are related. -/
theorem isChain (Invariant : Tableau Rat → Prop) {Related : Iteration Rat → Iteration Rat → Prop}
    (advances : ∀ (before after : Iteration Rat) (row column : Nat), Invariant before.tableau →
      rule before.tableau = .pivot row column →
      before.tableau.pivot row column = .ok after.tableau →
      after.event = .pivot (before.tableau.label column)
        (before.tableau.label (before.tableau.basic row)) (before.tableau.entry row column)
        row column →
      Invariant after.tableau ∧ Related before after)
    (trail : Trail rule index start iterations last) (invariant : Invariant start)
    (first : Iteration Rat) (initial : first.tableau = start) :
    (first :: iterations).IsChain Related := by
  induction trail generalizing first with
  | done => exact .singleton first
  | @pivot index row column tableau next _ _ move succeeds _ inductionHypothesis =>
      subst initial
      rcases advances first ⟨index, next, _⟩ row column invariant move succeeds rfl with
        ⟨kept, related⟩
      exact .cons_cons related (inductionHypothesis kept _ rfl)

end Trail

/-! ## Rules that pivot where they may -/

/-- Whether a rule pivots only inside the tableau, on entries that are not
zero. -/
def Admissible (rule : Tableau Rat → Move) : Prop :=
  ∀ tableau row column, rule tableau = .pivot row column →
    row < tableau.height ∧ column < tableau.width ∧ tableau.entry row column ≠ 0

theorem admissible_primalRule {tolerance : Rat} (nonneg : 0 ≤ tolerance) :
    Admissible (primalRule tolerance) := by
  intro tableau row column move
  have chosen : PrimalMove tolerance tableau (.pivot row column) := move ▸ primalRule_move
  rcases chosen.pivot_pos nonneg with ⟨rowInside, columnInside, positive⟩
  exact ⟨rowInside, columnInside, positive.ne'⟩

theorem admissible_dualRule {tolerance : Rat} (nonneg : 0 ≤ tolerance) :
    Admissible (dualRule tolerance) := by
  intro tableau row column move
  have chosen : DualMove tolerance tableau (.pivot row column) := move ▸ dualRule_move
  exact chosen.pivot_ne_zero nonneg

namespace Admissible

/-- Where a rule pivots only inside the tableau, a run from a basis comes to
an end. -/
theorem run_reaches (admissible : Admissible rule) (based : start.HasBasis) (limit index : Nat) :
    ∃ finished, run rule limit index start = .ok finished ∧ Reached start finished.last ∧
      ∀ verdict, finished.verdict = some verdict → rule finished.last = .stop verdict := by
  have advances : ∀ tableau : Tableau Rat, Reached start tableau → ∀ row column,
      rule tableau = .pivot row column →
      ∃ next, tableau.pivot row column = .ok next ∧ Reached start next := by
    intro tableau reached row column move
    rcases admissible tableau row column move with ⟨rowInside, columnInside, nonzero⟩
    rcases reached.pivot rowInside columnInside nonzero with ⟨next, succeeds, -, after⟩
    exact ⟨next, succeeds, after⟩
  exact run_keeps advances limit index start (Reached.refl based)

theorem pivotsTo (admissible : Admissible rule) {tableau next : Tableau Rat} {row column : Nat}
    (reached : Reached start tableau) (move : rule tableau = .pivot row column)
    (succeeds : tableau.pivot row column = .ok next) :
    tableau.PivotsTo row column next ∧ Reached start next := by
  rcases admissible tableau row column move with ⟨rowInside, columnInside, nonzero⟩
  rcases reached.pivot rowInside columnInside nonzero with ⟨found, result, step, after⟩
  rw [succeeds] at result
  cases result
  exact ⟨step, after⟩

theorem reached (admissible : Admissible rule) (based : start.HasBasis)
    (trail : Trail rule index start iterations last) :
    (∀ snapshot ∈ iterations, Reached start snapshot.tableau) ∧ Reached start last :=
  trail.keeps (fun _ _ _ _ reached move succeeds => (admissible.pivotsTo reached move succeeds).2)
    (Reached.refl based)

end Admissible

/-! ## Histories -/

/-- The invariant of the tableaus of a run, with its first tableau.  The
labels are as they were, each row has its unit column, and the solutions are
the same. -/
structure IsSnapshot (first current : Tableau Rat) : Prop where
  columns_eq : current.columns = first.columns
  length_rows : ∀ entries ∈ current.allRows, entries.length = current.columns.length + 1
  length_basis : current.basis.length = current.height
  basis_lt : ∀ column ∈ current.basis, column < current.columns.length
  nodup_basis : current.basis.Nodup
  entry_basic : ∀ index < current.height, ∀ k ≤ current.height,
    current.entry k (current.basic index) = if k = index then 1 else 0
  solves_iff : ∀ point, current.Solves point ↔ first.Solves point
  objective_eq : ∃ weights : Nat → Rat, ∀ column,
    current.entry current.height column - first.entry first.height column =
      ∑ row ∈ Finset.range first.height, weights row * first.entry row column

theorem HasBasis.nodup_basis {tableau : Tableau Rat} (based : tableau.HasBasis) :
    tableau.basis.Nodup := by
  refine List.pairwise_iff_getElem.mpr fun first second firstInside secondInside before same => ?_
  have owned : tableau.basic first = tableau.basic second := by
    rw [basic, basic, List.getD_eq_getElem _ _ firstInside, List.getD_eq_getElem _ _ secondInside,
      same]
  rw [based.length_basis] at firstInside secondInside
  exact before.ne (based.basic_injective firstInside secondInside owned)

theorem HasBasis.basis_lt {tableau : Tableau Rat} (based : tableau.HasBasis) :
    ∀ column ∈ tableau.basis, column < tableau.width := by
  intro column member
  rcases List.mem_iff_getElem.mp member with ⟨index, inside, rfl⟩
  have below := based.basic_lt index (based.length_basis ▸ inside)
  rwa [basic, List.getD_eq_getElem _ _ inside] at below

theorem Reached.isSnapshot {current : Tableau Rat} (reached : Reached start current) :
    IsSnapshot start current where
  columns_eq := reached.equivalent.columns_eq
  length_rows := by
    intro entries member
    rcases List.mem_append.mp member with constraint | objective
    · exact reached.based.length_rows entries constraint
    · rw [List.mem_singleton.mp objective]
      exact reached.based.length_objective
  length_basis := reached.based.length_basis
  basis_lt := reached.based.basis_lt
  nodup_basis := reached.based.nodup_basis
  entry_basic := reached.based.entry_basic
  solves_iff := fun _ => reached.equivalent.solves_iff
  objective_eq := mem_rowSpace_iff.mp reached.equivalent.objective_mem

/-- Whether two snapshots tell of one pivot: which row changed hands, and
between which columns. -/
def Follows (before after : Iteration Rat) : Prop :=
  ∃ row < before.tableau.height, ∃ column entering leaving element,
    after.event = .pivot entering leaving element row column ∧
      after.tableau.basis = before.tableau.basis.set row column ∧
      before.tableau.columns[column]? = some entering ∧
      before.tableau.columns[before.tableau.basic row]? = some leaving

theorem getElem?_columns {tableau : Tableau Rat} {column : Nat} (inside : column < tableau.width) :
    tableau.columns[column]? = some (tableau.label column) := by
  rw [label, List.getD_eq_getElem _ _ inside, List.getElem?_eq_getElem inside]

theorem Admissible.isChain (admissible : Admissible rule) (based : start.HasBasis)
    (trail : Trail rule index start iterations last) (first : Iteration Rat)
    (initial : first.tableau = start) : (first :: iterations).IsChain Follows := by
  refine trail.isChain HasBasis (fun before after row column based move succeeds event => ?_) based
    first initial
  rcases admissible before.tableau row column move with ⟨rowInside, columnInside, -⟩
  rcases admissible.pivotsTo (Reached.refl based) move succeeds with ⟨step, reached⟩
  refine ⟨reached.based, row, rowInside, column, _, _, _, event, step.basis_eq, ?_, ?_⟩
  · exact getElem?_columns columnInside
  · exact getElem?_columns (based.basic_lt row rowInside)

/-- What the record of a method shows: tableaus with a basis, each of them one
pivot after the one before, and counted from zero. -/
structure IsHistory (iterations : List (Iteration Rat)) : Prop where
  map_index : iterations.map Iteration.index = List.range iterations.length
  isSnapshot : ∀ first ∈ iterations.head?, ∀ snapshot ∈ iterations,
    IsSnapshot first.tableau snapshot.tableau
  isChain : iterations.IsChain Follows

/-- A run from a basis, with its start as the first snapshot, leaves a
history. -/
theorem Admissible.isHistory (admissible : Admissible rule) (based : start.HasBasis)
    (trail : Trail rule 1 start iterations last) (event : Event Rat) :
    IsHistory (⟨0, start, event⟩ :: iterations) where
  map_index := by
    rw [List.map_cons, trail.map_index, List.length_cons, List.range_eq_range', List.range'_succ]
  isSnapshot := by
    intro first head
    cases head
    refine List.forall_mem_cons.mpr ⟨(Reached.refl based).isSnapshot, fun snapshot member => ?_⟩
    exact ((admissible.reached based trail).1 snapshot member).isSnapshot
  isChain := admissible.isChain based trail _ rfl

end Tableau
end Optimum
