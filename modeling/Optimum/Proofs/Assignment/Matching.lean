import Mathlib.Data.List.Nodup
import Mathlib.Data.List.Perm.Subperm
import Mathlib.Data.List.Range
import Optimum.Assignment.Matching

namespace Optimum
namespace Assignment

/-!
# What the search for a matching keeps

While the search is under way a row may own two columns for a moment: it gets
its new one before the old one is given away.  Columns are never shared, so the
invariant is about columns alone, and it is enough: if every row has a column
in the end, no two rows have the same one.
-/

namespace Matching

variable {allowed : Nat → Nat → Bool} {matching : Matching} {row column size : Nat}

/-- Allowed pairs that share no column.  That no row is shared is not asked for,
since a search looks for the column of one row at a time. -/
structure Proper (allowed : Nat → Nat → Bool) (matching : Matching) : Prop where
  allowed_of_mem : ∀ pair ∈ matching, allowed pair.1 pair.2 = true
  nodup_columns : (matching.map Prod.snd).Nodup

theorem Proper.nil : Proper allowed [] :=
  ⟨fun _ member => absurd member List.not_mem_nil, List.nodup_nil⟩

theorem Proper.owner_unique (proper : Proper allowed matching) {first second : Nat}
    (firstMember : (first, column) ∈ matching) (secondMember : (second, column) ∈ matching) :
    first = second := by
  have same := List.inj_on_of_nodup_map proper.nodup_columns firstMember secondMember rfl
  exact congrArg Prod.fst same

theorem Proper.give (proper : Proper allowed matching) (permitted : allowed row column = true) :
    Proper allowed (matching.give row column) where
  allowed_of_mem := by
    intro pair member
    rcases List.mem_cons.mp member with same | kept
    · rw [same]
      exact permitted
    · exact proper.allowed_of_mem pair (List.mem_of_mem_filter kept)
  nodup_columns := by
    rw [Matching.give, List.map_cons, List.nodup_cons]
    constructor
    · intro shared
      rcases List.mem_map.mp shared with ⟨pair, kept, same⟩
      exact of_decide_eq_true (List.mem_filter.mp kept).2 same
    · exact proper.nodup_columns.sublist (List.filter_sublist.map Prod.snd)

end Matching

open Matching

variable {allowed : Nat → Nat → Bool} {matching : Matching} {row column size : Nat}

/-- The search gives columns only to rows that may have them.  The induction
is on the columns that it has not touched. -/
theorem augment_proper (proper : Proper allowed matching) (row : Nat) (untouched : List Nat) :
    ∀ moved, (augment allowed matching row untouched).found = some moved →
      Proper allowed moved := by
  fun_induction augment allowed matching row untouched with
  | case1 row untouched nothing =>
      intro moved impossible
      cases impossible
  | case2 row untouched column candidate shorter free =>
      intro moved found
      cases found
      exact proper.give (List.find?_some candidate)
  | case3 row untouched column candidate shorter owner owned deeper deeperLimit moved search
      inductionHypothesis =>
      intro result found
      cases found
      exact (inductionHypothesis moved search).give (List.find?_some candidate)
  | case4 row untouched column candidate shorter owner owned deeper deeperLimit search again
      deeperHypothesis againHypothesis =>
      exact againHypothesis

theorem enlarge_proper (proper : Proper allowed matching) (size row : Nat) :
    Proper allowed (enlarge allowed size matching row) := by
  unfold enlarge
  cases search : (augment allowed matching row (List.range size)).found with
  | none => exact proper
  | some moved => exact augment_proper proper row (List.range size) moved search

theorem maximumMatching_proper (allowed : Nat → Nat → Bool) (size : Nat) :
    Proper allowed (maximumMatching allowed size) := by
  have general : ∀ (rows : List Nat) (matching : Matching), Proper allowed matching →
      Proper allowed (rows.foldl (enlarge allowed size) matching) := by
    intro rows
    induction rows with
    | nil => exact fun matching proper => proper
    | cons row rows inductionHypothesis =>
        intro matching proper
        exact inductionHypothesis _ (enlarge_proper proper size row)
  exact general _ [] Proper.nil

/-! ## A column for every row -/

theorem mem_of_columnOf?_eq_some (found : matching.columnOf? row = some column) :
    (row, column) ∈ matching := by
  rcases Option.map_eq_some_iff.mp found with ⟨pair, search, second⟩
  have first : pair.1 = row := by simpa using List.find?_some search
  rw [← first, ← second]
  exact List.mem_of_find?_eq_some search

/-- The columns of the rows, once every row has one. -/
def permutation (matching : Matching) (size : Nat) : List Nat :=
  (matching.columns size).filterMap id

section Complete

variable (complete : (matching.columns size).all Option.isSome = true)

include complete

theorem columns_eq_map_permutation :
    matching.columns size = (permutation matching size).map some := by
  have general : ∀ columns : List (Option Nat), columns.all Option.isSome = true →
      columns = (columns.filterMap id).map some := by
    intro columns
    induction columns with
    | nil => exact fun _ => rfl
    | cons column columns inductionHypothesis =>
        intro present
        rw [List.all_cons, Bool.and_eq_true] at present
        rcases Option.isSome_iff_exists.mp present.1 with ⟨value, rfl⟩
        exact congrArg (some value :: ·) (inductionHypothesis present.2)
  exact general _ complete

theorem length_permutation : (permutation matching size).length = size := by
  have lengths := congrArg List.length (columns_eq_map_permutation complete)
  rw [List.length_map, Matching.columns, List.length_map, List.length_range] at lengths
  exact lengths.symm

theorem mem_of_getElem?_permutation (found : (permutation matching size)[row]? = some column) :
    (row, column) ∈ matching := by
  have entry : (matching.columns size)[row]? = some (some column) := by
    rw [columns_eq_map_permutation complete, List.getElem?_map, found]
    rfl
  rcases List.getElem?_eq_some_iff.mp entry with ⟨inside, same⟩
  simp only [Matching.columns, List.getElem_map, List.getElem_range] at same
  exact mem_of_columnOf?_eq_some same

/-- A column for every row is a permutation, for no column is shared.  There are
as many columns as rows. -/
theorem permutation_perm (proper : Proper allowed matching)
    (bounded : ∀ row column, allowed row column = true → column < size) :
    (permutation matching size).Perm (List.range size) := by
  have distinct : (permutation matching size).Nodup := by
    apply List.nodup_iff_getElem?_ne_getElem?.mpr
    intro first second before inside same
    have located := List.getElem?_eq_getElem (before.trans inside)
    have owned := mem_of_getElem?_permutation complete located
    rw [same] at located
    exact before.ne (proper.owner_unique owned (mem_of_getElem?_permutation complete located))
  have included : permutation matching size ⊆ List.range size := by
    intro column member
    rcases List.mem_iff_getElem?.mp member with ⟨row, found⟩
    have owned := mem_of_getElem?_permutation complete found
    exact List.mem_range.mpr (bounded row column (proper.allowed_of_mem _ owned))
  apply (List.subperm_of_subset distinct included).perm_of_length_le
  rw [List.length_range, length_permutation complete]

end Complete

end Assignment
end Optimum
