import Optimum.Proofs.Tableau.History

namespace Optimum
namespace Tableau

/-!
# Lookups that find something

A lookup beyond the edge of a tableau would find a default.  In the tableaus of
a history there is no such lookup: every row has all its entries, every row
owns a column that has a label, and where the rule asks for a pivot, its place
lies in the tableau and the pivot succeeds.
-/

/-- Whether the rows, the entries, the basis and the labels of a tableau are
all there. -/
structure Complete (tableau : Tableau Rat) : Prop where
  length_basis : tableau.basis.length = tableau.height
  row : ∀ row ≤ tableau.height, ∃ entries, tableau.allRows[row]? = some entries ∧
    ∀ column ≤ tableau.width, ∃ value, entries[column]? = some value
  basis : ∀ row < tableau.height, ∃ column label, tableau.basis[row]? = some column ∧
    tableau.columns[column]? = some label

/-- Whether a pivot that a rule asks for next lies in the tableau and
succeeds. -/
def Ready (rule : Tableau Rat → Move) (tableau : Tableau Rat) : Prop :=
  ∀ row column, rule tableau = .pivot row column →
    row < tableau.height ∧ column < tableau.width ∧ ∃ next, tableau.pivot row column = .ok next

/-- Whether a recorded run of a rule, over a number of columns, has looked up
nothing beyond the edges of its tableaus. -/
def StaysInside (rule : Tableau Rat → Move) (width : Nat) (iterations : List (Iteration Rat)) :
    Prop :=
  ∀ snapshot ∈ iterations, snapshot.tableau.width = width ∧ snapshot.tableau.Complete ∧
    snapshot.tableau.Ready rule

variable {first current : Tableau Rat} {rule : Tableau Rat → Move}

namespace IsSnapshot

theorem shaped (snapshot : IsSnapshot first current) : current.Shaped where
  length_rows := fun entries member =>
    snapshot.length_rows entries (List.mem_append_left _ member)
  length_objective :=
    snapshot.length_rows _ (List.mem_append_right _ (List.mem_singleton_self _))
  length_basis := snapshot.length_basis

theorem complete (snapshot : IsSnapshot first current) : current.Complete where
  length_basis := snapshot.length_basis
  row := by
    intro row bounded
    have inside : row < current.allRows.length := by
      rw [allRows, List.length_append, List.length_singleton]
      exact Nat.lt_succ_of_le bounded
    refine ⟨current.allRows[row], List.getElem?_eq_getElem inside, fun column within => ?_⟩
    have length_eq := snapshot.length_rows _ (List.getElem_mem inside)
    exact ⟨_, List.getElem?_eq_getElem (length_eq.symm ▸ Nat.lt_succ_of_le within)⟩
  basis := by
    intro row inside
    rw [← snapshot.length_basis] at inside
    have labelled := snapshot.basis_lt _ (List.getElem_mem inside)
    exact ⟨current.basis[row], _, List.getElem?_eq_getElem inside,
      List.getElem?_eq_getElem labelled⟩

theorem ready (snapshot : IsSnapshot first current) (admissible : Admissible rule) :
    current.Ready rule := by
  intro row column move
  rcases admissible current row column move with ⟨rowInside, columnInside, nonzero⟩
  rcases pivot_eq_ok snapshot.shaped rowInside nonzero with ⟨next, succeeds, -⟩
  exact ⟨rowInside, columnInside, next, succeeds⟩

end IsSnapshot

/-- A history of an admissible rule stays inside its tableaus, and all of them
are as wide as the first. -/
theorem IsHistory.staysInside {iterations : List (Iteration Rat)} {start : Iteration Rat}
    (history : IsHistory iterations) (admissible : Admissible rule)
    (starts : iterations.head? = some start) :
    StaysInside rule start.tableau.width iterations := by
  intro snapshot member
  have kept := history.isSnapshot start starts snapshot member
  exact ⟨congrArg List.length kept.columns_eq, kept.complete, kept.ready admissible⟩

end Tableau
end Optimum
