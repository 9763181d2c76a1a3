import Mathlib.Data.List.Induction
import Mathlib.Order.Lattice

namespace Optimum

/-!
# The first of the best

Several methods go through a list and replace their champion only by an entry
that is strictly better.  What they end with beats every entry before it, and
no entry after it beats it in turn.
-/

/-- An entry of a list that beats all entries before it and is beaten by none
after it. -/
def IsFirstBest {β : Type} (Beats : β → β → Prop) (values : List β) (champion : β) : Prop :=
  ∃ before after, values = before ++ champion :: after ∧
    (∀ other ∈ before, Beats champion other) ∧ ∀ other ∈ after, ¬ Beats other champion

namespace IsFirstBest

variable {β ι : Type} [LinearOrder ι] {value : β → ι} {values : List β} {champion : β}

theorem mem {Beats : β → β → Prop} (isFirstBest : IsFirstBest Beats values champion) :
    champion ∈ values := by
  rcases isFirstBest with ⟨before, after, rfl, -⟩
  exact List.mem_append_right _ List.mem_cons_self

/-- Where entries are compared by a value, no entry has a better one. -/
theorem le (isFirstBest : IsFirstBest (fun one other => value other < value one) values champion) :
    ∀ other ∈ values, value other ≤ value champion := by
  rcases isFirstBest with ⟨before, after, rfl, above, notBelow⟩
  intro other member
  rcases List.mem_append.mp member with earlier | others
  · exact (above other earlier).le
  · rcases List.mem_cons.mp others with rfl | later
    · exact le_rfl
    · exact not_lt.mp (notBelow other later)

/-- One more entry is looked at: either it takes the place of the champion, or
the champion stays. -/
theorem concat
    (isFirstBest : IsFirstBest (fun one other => value other < value one) values champion)
    (last : β) :
    IsFirstBest (fun one other => value other < value one) (values ++ [last])
      (if value champion < value last then last else champion) := by
  have bounded := isFirstBest.le
  split
  · next better =>
      exact ⟨values, [], rfl, fun other member => (bounded other member).trans_lt better, nofun⟩
  · next notBetter =>
      rcases isFirstBest with ⟨before, after, rfl, above, notBelow⟩
      refine ⟨before, after ++ [last], by rw [List.append_assoc, List.cons_append], above, ?_⟩
      intro other member
      rcases List.mem_append.mp member with earlier | same
      · exact notBelow other earlier
      · rwa [List.mem_singleton.mp same]

end IsFirstBest

/-- A search that goes over to strictly better entries only finds the first of
the best. -/
theorem isFirstBest_foldl {β ι : Type} [LinearOrder ι] {value : β → ι} {keep : β → β → β}
    (keep_eq : ∀ champion candidate,
      keep champion candidate = if value champion < value candidate then candidate else champion)
    (first : β) (others : List β) :
    IsFirstBest (fun one other => value other < value one) (first :: others)
      (others.foldl keep first) := by
  induction others using List.reverseRecOn with
  | nil => exact ⟨[], [], rfl, nofun, nofun⟩
  | append_singleton others last inductionHypothesis =>
      rw [List.foldl_append, List.foldl_cons, List.foldl_nil, keep_eq]
      exact inductionHypothesis.concat last

end Optimum
