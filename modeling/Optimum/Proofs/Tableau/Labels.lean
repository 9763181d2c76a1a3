import Optimum.Proofs.Checks
import Optimum.Tableau.Run

namespace Optimum
namespace Tableau

/-!
# Labels along a run

No pivot touches the labels of the columns, whatever the numbers are.  So all
snapshots of a run carry the labels of its start, and the last snapshot is the
tableau that the run ends at.
-/

variable {α : Type}

/-- What a run from a tableau leaves, as far as labels go.  A pivot moves
columns in and out of the basis but renames none, so a label stands for one
column from the first snapshot to the answer. -/
structure Labelled (start : Tableau α) (finished : Run α) : Prop where
  columns_eq : ∀ snapshot ∈ finished.iterations, snapshot.tableau.columns = start.columns
  getLast?_eq : (start :: finished.iterations.map Iteration.tableau).getLast? = some finished.last

namespace Labelled

variable {start next : Tableau α} {finished : Run α}

theorem nil (start : Tableau α) (verdict : Option Verdict) :
    Labelled start ⟨[], start, verdict⟩ :=
  ⟨nofun, rfl⟩

theorem cons (later : Labelled next finished) (same : next.columns = start.columns) (index : Nat)
    (event : Event α) :
    Labelled start { finished with iterations := ⟨index, next, event⟩ :: finished.iterations } where
  columns_eq := List.forall_mem_cons.mpr
    ⟨same, fun snapshot member => (later.columns_eq snapshot member).trans same⟩
  getLast?_eq := by
    rw [List.map_cons, List.getLast?_cons_cons]
    exact later.getLast?_eq

/-- The tableau that a run ends at has the labels of the start as well. -/
theorem columns_last (labelled : Labelled start finished) :
    finished.last.columns = start.columns := by
  rcases List.mem_cons.mp (List.mem_of_getLast? labelled.getLast?_eq) with same | later
  · rw [same]
  · rcases List.mem_map.mp later with ⟨snapshot, member, same⟩
    rw [← same]
    exact labelled.columns_eq snapshot member

end Labelled

variable [Scalar α]

theorem columns_of_pivot {tableau next : Tableau α} {row column : Nat}
    (succeeds : tableau.pivot row column = .ok next) : next.columns = tableau.columns := by
  simp only [pivot] at succeeds
  split at succeeds
  · cases succeeds
  · cases succeeds
    rfl

theorem labelled_of_run {rule : Tableau α → Move} {limit index : Nat} {start : Tableau α}
    {finished : Run α} (runs : run rule limit index start = .ok finished) :
    Labelled start finished := by
  induction limit generalizing index start finished with
  | zero =>
      unfold run at runs
      split at runs <;> cases runs <;> exact .nil start _
  | succ limit inductionHypothesis =>
      unfold run at runs
      split at runs
      · cases runs
        exact .nil start _
      · rcases Checks.bind_eq_ok_iff.mp runs with ⟨next, succeeds, later⟩
        rcases Checks.bind_eq_ok_iff.mp later with ⟨continued, goesOn, same⟩
        cases same
        exact (inductionHypothesis goesOn).cons (columns_of_pivot succeeds) _ _

end Tableau
end Optimum
