import Mathlib.Data.List.Induction
import Mathlib.Data.List.Nodup
import Optimum.Model.Compile

namespace Optimum
namespace Model

open Optimum.Language

/-!
# Names in the order in which they first occur

Names are collected from left to right, each at its first occurrence.  Both
the merging of linear forms and the list of the variables of a problem do just
this, so the variables of a form can be read off the expression it came from.
-/

/-- Add the names of a list to those seen before it, each at its first
occurrence. -/
def collect (seen occurrences : List String) : List String :=
  occurrences.foldl
    (fun names name => if names.contains name then names else names ++ [name]) seen

variable {seen occurrences names : List String} {name : String}

theorem collect_cons_of_mem (member : name ∈ seen) :
    collect seen (name :: occurrences) = collect seen occurrences := by
  rw [collect, List.foldl_cons, if_pos (List.contains_iff_mem.mpr member), collect]

theorem collect_cons_of_not_mem (new : name ∉ seen) :
    collect seen (name :: occurrences) = collect (seen ++ [name]) occurrences := by
  rw [collect, List.foldl_cons, if_neg (new ∘ List.contains_iff_mem.mp), collect]

theorem collect_append (seen first second : List String) :
    collect seen (first ++ second) = collect (collect seen first) second :=
  List.foldl_append

theorem mem_collect_iff : name ∈ collect seen occurrences ↔ name ∈ seen ∨ name ∈ occurrences := by
  induction occurrences generalizing seen with
  | nil => simp [collect]
  | cons first rest inductionHypothesis =>
      by_cases member : first ∈ seen
      · rw [collect_cons_of_mem member, inductionHypothesis, List.mem_cons]
        constructor
        · rintro (before | later)
          · exact Or.inl before
          · exact Or.inr (Or.inr later)
        · rintro (before | same | later)
          · exact Or.inl before
          · exact Or.inl (same ▸ member)
          · exact Or.inr later
      · rw [collect_cons_of_not_mem member, inductionHypothesis, List.mem_append,
          List.mem_singleton, List.mem_cons, or_assoc]

theorem nodup_collect (distinct : seen.Nodup) : (collect seen occurrences).Nodup := by
  induction occurrences generalizing seen with
  | nil => exact distinct
  | cons first rest inductionHypothesis =>
      by_cases member : first ∈ seen
      · rw [collect_cons_of_mem member]
        exact inductionHypothesis distinct
      · rw [collect_cons_of_not_mem member]
        apply inductionHypothesis
        rw [← List.concat_eq_append]
        exact distinct.concat member

/-- Names without repetitions are collected as they are. -/
theorem collect_eq_append (distinct : (seen ++ occurrences).Nodup) :
    collect seen occurrences = seen ++ occurrences := by
  induction occurrences generalizing seen with
  | nil => exact (List.append_nil seen).symm
  | cons first rest inductionHypothesis =>
      have new : first ∉ seen := fun member =>
        List.disjoint_of_nodup_append distinct member List.mem_cons_self
      rw [List.append_cons] at distinct ⊢
      rw [collect_cons_of_not_mem new, inductionHypothesis distinct]

/-- To collect names is to collect their first occurrences. -/
theorem collect_collect (seen earlier occurrences : List String) :
    collect seen (collect earlier occurrences) = collect (collect seen earlier) occurrences := by
  induction occurrences generalizing earlier with
  | nil => rfl
  | cons first rest inductionHypothesis =>
      by_cases member : first ∈ earlier
      · have kept : first ∈ collect seen earlier := mem_collect_iff.mpr (Or.inr member)
        rw [collect_cons_of_mem member, collect_cons_of_mem kept, inductionHypothesis]
      · rw [collect_cons_of_not_mem member, inductionHypothesis, collect_append]
        by_cases kept : first ∈ collect seen earlier
        · rw [collect_cons_of_mem kept, collect_cons_of_mem kept]
          rfl
        · rw [collect_cons_of_not_mem kept, collect_cons_of_not_mem kept]
          rfl

theorem collect_collect_nil (seen occurrences : List String) :
    collect seen (collect [] occurrences) = collect seen occurrences :=
  collect_collect seen [] occurrences

/-- The collected names stand in the order of their first occurrences. -/
theorem pairwise_collect (occurrences : List String) :
    (collect [] occurrences).Pairwise fun first second =>
      occurrences.idxOf first < occurrences.idxOf second := by
  induction occurrences using List.reverseRecOn with
  | nil => exact List.Pairwise.nil
  | append_singleton before last inductionHypothesis =>
      have among : ∀ name ∈ collect [] before, name ∈ before := by
        intro name member
        exact (mem_collect_iff.mp member).resolve_left List.not_mem_nil
      have kept : (collect [] before).Pairwise fun first second =>
          (before ++ [last]).idxOf first < (before ++ [last]).idxOf second := by
        refine inductionHypothesis.imp_of_mem fun firstMember secondMember earlier => ?_
        rw [List.idxOf_append_of_mem (among _ firstMember),
          List.idxOf_append_of_mem (among _ secondMember)]
        exact earlier
      rw [collect_append]
      by_cases member : last ∈ collect [] before
      · rw [collect_cons_of_mem member]
        exact kept
      · rw [collect_cons_of_not_mem member]
        have new : last ∉ before := fun found => member (mem_collect_iff.mpr (Or.inr found))
        apply List.pairwise_append.mpr
        refine ⟨kept, List.pairwise_singleton _ _, ?_⟩
        intro first firstMember second secondMember
        rw [List.mem_singleton.mp secondMember, List.idxOf_append_of_mem (among _ firstMember),
          List.idxOf_append_of_notMem new]
        apply Nat.lt_of_lt_of_le (List.idxOf_lt_length_of_mem (among _ firstMember))
        exact Nat.le_add_right _ _

end Model

/-! ## Occurrences in expressions and models -/

namespace Language

/-- The names of an expression from left to right, with repetitions. -/
def Expression.names {α : Type} : Expression α → List String
  | .number _ => []
  | .variable name _ => [name]
  | .negate inner => inner.names
  | .binary left _ right => left.names ++ right.names
  | .parenthesized inner => inner.names

/-- The names of a model, the objective's first and then those of both sides
of each constraint. -/
def LinearModel.names {α : Type} (model : LinearModel α) : List String :=
  (Item.lp model).expressions.flatMap Expression.names

end Language
end Optimum
