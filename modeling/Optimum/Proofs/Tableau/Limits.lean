import Mathlib.Data.List.Infix
import Optimum.Proofs.Checks
import Optimum.Tableau.Run

namespace Optimum
namespace Tableau

/-!
# Runs with a higher limit

A run asks its rule before every pivot and once more when its limit is
reached, and that last question is the one that a longer run asks at the same
place.  So a run that came to an end, with a verdict or with a fault, is the
run with any higher limit, and one that was cut off is the beginning of it.
Nothing is assumed of the numbers: both runs compute the same values.
-/

variable {α : Type}

/-- How a computation with a limit goes on with a higher one.  A result that
was not cut off stays as it is, and one that was cut off has `count` snapshots,
with which every result of the longer computation begins. -/
structure ExtendedBy {β : Type} (cutOff : β → Prop) (snapshots : β → List (Iteration α))
    (count : Nat) (short long : Except (SolveError α) β) : Prop where
  error : ∀ fault, short = .error fault → long = .error fault
  finished : ∀ result, short = .ok result → ¬ cutOff result → long = .ok result
  cut : ∀ result, short = .ok result → cutOff result →
    (snapshots result).length = count ∧
      ∀ longer, long = .ok longer → snapshots result <+: snapshots longer

namespace ExtendedBy

variable {β γ : Type} {cutOff : β → Prop} {snapshots : β → List (Iteration α)} {count : Nat}
  {short long : Except (SolveError α) β}

theorem of_error (fault : SolveError α) :
    ExtendedBy cutOff snapshots count (.error fault) (.error fault) :=
  ⟨fun _ same => same, nofun, nofun⟩

theorem of_finished {result : β} (whole : ¬ cutOff result) :
    ExtendedBy cutOff snapshots count (.ok result) (.ok result) := by
  refine ⟨nofun, fun _ same _ => same, fun other same cut => ?_⟩
  cases same
  exact absurd cut whole

theorem of_cut {result : β} (cut : cutOff result) (length : (snapshots result).length = count)
    (begins : ∀ longer, long = .ok longer → snapshots result <+: snapshots longer) :
    ExtendedBy cutOff snapshots count (.ok result) long := by
  refine ⟨nofun, fun other same whole => ?_, fun other same _ => ?_⟩
  · cases same
    exact absurd cut whole
  · cases same
    exact ⟨length, begins⟩

/-- A step before both computations that they share changes nothing. -/
theorem bind {δ : Type} (step : Except (SolveError α) δ)
    {short long : δ → Except (SolveError α) β}
    (extended : ∀ value, ExtendedBy cutOff snapshots count (short value) (long value)) :
    ExtendedBy cutOff snapshots count (step >>= short) (step >>= long) := by
  cases step with
  | error fault => exact of_error fault
  | ok value => exact extended value

/-- What is read off a result, with a first snapshot before those of the
result, is extended as the result is. -/
theorem read (extended : ExtendedBy cutOff snapshots count short long)
    {answer : β → Except (SolveError α) γ} {cutOffAfter : γ → Prop}
    {snapshotsAfter : γ → List (Iteration α)} {first : Iteration α}
    (answers : ∀ result, ∃ value, answer result = .ok value ∧
      (cutOffAfter value ↔ cutOff result) ∧ snapshotsAfter value = first :: snapshots result) :
    ExtendedBy cutOffAfter snapshotsAfter (count + 1) (short >>= answer) (long >>= answer) := by
  cases found : short with
  | error fault =>
      rw [extended.error fault found]
      exact of_error fault
  | ok result =>
      rcases answers result with ⟨value, succeeds, cutOff_iff, snapshots_eq⟩
      have short_eq : (Except.ok result >>= answer) = .ok value := succeeds
      rw [short_eq]
      by_cases cut : cutOff result
      · rcases extended.cut result found cut with ⟨length, begins⟩
        refine of_cut (cutOff_iff.mpr cut) ?_ fun longer answered => ?_
        · rw [snapshots_eq, List.length_cons, length]
        · rcases Checks.bind_eq_ok_iff.mp answered with ⟨source, goesOn, same⟩
          rcases answers source with ⟨found, readsAs, -, behind⟩
          cases readsAs.symm.trans same
          rw [snapshots_eq, behind]
          exact (List.prefix_cons_inj first).mpr (begins source goesOn)
      · rw [extended.finished result found cut, short_eq]
        exact of_finished fun cutAfter => cut (cutOff_iff.mp cutAfter)

end ExtendedBy

section Runs

variable [Scalar α] {rule : Tableau α → Move} {start : Tableau α}

/-- Whether a run was stopped by its limit. -/
def Run.CutOff (finished : Run α) : Prop :=
  finished.verdict = none

theorem run_of_stop {verdict : Verdict} (move : rule start = .stop verdict) (limit index : Nat) :
    run rule (limit + 1) index start = .ok ⟨[], start, some verdict⟩ := by
  rw [run, move]

theorem run_of_pivot {row column : Nat} (move : rule start = .pivot row column)
    (limit index : Nat) :
    run rule (limit + 1) index start = (start.pivot row column >>= fun next =>
      run rule limit (index + 1) next >>= fun continued =>
        let event := Event.pivot (start.label column) (start.label (start.basis.getD row 0))
          (start.entry row column) row column
        .ok { continued with iterations := ⟨index, next, event⟩ :: continued.iterations }) := by
  rw [run, move]
  rfl

/-- At its limit a run is over if the rule is satisfied, and cut off if not.
Other verdicts are not told there, as one more pivot would be needed for
them. -/
theorem run_zero (rule : Tableau α → Move) (index : Nat) (start : Tableau α) :
    (rule start = .stop .optimal ∧ run rule 0 index start = .ok ⟨[], start, some .optimal⟩) ∨
      run rule 0 index start = .ok ⟨[], start, none⟩ := by
  rw [run]
  split
  · next move => exact .inl ⟨move, rfl⟩
  · exact .inr rfl

/-- A run with a higher limit extends the run.  The rule sees the tableau only,
so both make the same moves as long as both go on. -/
theorem run_extendedBy (rule : Tableau α → Move) {limit higher : Nat} (least : limit ≤ higher)
    (index : Nat) (start : Tableau α) :
    ExtendedBy Run.CutOff Run.iterations limit (run rule limit index start)
      (run rule higher index start) := by
  induction limit generalizing higher index start with
  | zero =>
      rcases run_zero rule index start with ⟨satisfied, ended⟩ | cut
      · have longer : run rule higher index start = .ok ⟨[], start, some .optimal⟩ := by
          cases higher with
          | zero => exact ended
          | succ higher => exact run_of_stop satisfied higher index
        rw [ended, longer]
        exact .of_finished (Option.some_ne_none _)
      · rw [cut]
        exact .of_cut rfl rfl fun longer _ => List.nil_prefix
  | succ limit inductionHypothesis =>
      obtain ⟨higher, rfl⟩ := Nat.exists_eq_succ_of_ne_zero (Nat.ne_zero_of_lt least)
      cases move : rule start with
      | stop verdict =>
          rw [run_of_stop move, run_of_stop move]
          exact .of_finished (Option.some_ne_none _)
      | pivot row column =>
          rw [run_of_pivot move, run_of_pivot move]
          refine .bind _ fun next => ?_
          have later := inductionHypothesis (Nat.le_of_succ_le_succ least) (index + 1) next
          exact later.read fun continued => ⟨_, rfl, Iff.rfl, rfl⟩

end Runs

end Tableau
end Optimum
