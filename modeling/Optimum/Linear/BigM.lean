import Optimum.Linear.Simplex

namespace Optimum
namespace Linear

open Scalar Tableau

/-!
# The method of penalties

For any mixture of relations.  A constraint that the origin may violate gets
an artificial column, which makes the start possible and costs a penalty in
the objective.  An optimum that still needs an artificial column means that
the problem has no feasible point.

The columns follow one another as the variables, one slack for each bound from
above, one surplus for each bound from below, and one artificial column for
each constraint that is no bound from above.
-/

namespace BigM

structure Options (α : Type) where
  limits : Limits α
  penalty : α
  deriving DecidableEq, Repr

variable {α : Type} [Scalar α]

/-- Twenty pivots, a ten-thousandth and a penalty of a million.  The tolerance
is wide because entries scaled by the penalty carry its rounding. -/
def Options.standard : Options α :=
  ⟨⟨20, unitFraction 10000⟩, ((1000000 : Nat) : α)⟩

/-- The constraint with a right-hand side that is not negative.  Its basic
column starts at the right-hand side, which has to be feasible. -/
def normalized (constraint : Constraint α) : Constraint α :=
  if constraint.rhs < 0 then constraint.negated else constraint

/-- How many slack, surplus and artificial columns there are, or come before a
constraint. -/
structure Counts where
  slack : Nat
  surplus : Nat
  artificial : Nat
  deriving DecidableEq, Repr

namespace Counts

/-- The counts after a constraint with the relation. -/
def after (counts : Counts) : Relation → Counts
  | .le => { counts with slack := counts.slack + 1 }
  | .ge => { counts with
      surplus := counts.surplus + 1
      artificial := counts.artificial + 1 }
  | .eq => { counts with artificial := counts.artificial + 1 }

def zero : Counts := ⟨0, 0, 0⟩

/-- The columns that a list of constraints needs.  A bound from above needs a
slack, a bound from below a surplus and an artificial, an equation an
artificial. -/
def of (constraints : List (Constraint α)) : Counts :=
  constraints.foldl (fun counts constraint => counts.after constraint.relation) zero

def total (counts : Counts) : Nat :=
  counts.slack + counts.surplus + counts.artificial

end Counts

/-- The entries of a constraint in the added columns, where `before` counts
the columns of the constraints above it. -/
def addedEntries (all before : Counts) : Relation → List α
  | .le => unitRow all.slack before.slack ++ List.replicate (all.surplus + all.artificial) 0
  | .ge => List.replicate all.slack 0 ++ (List.replicate all.surplus 0).set before.surplus (-1) ++
      unitRow all.artificial before.artificial
  | .eq => List.replicate (all.slack + all.surplus) 0 ++
      unitRow all.artificial before.artificial

/-- The position among the added columns of the one that is basic in a
constraint at the start. -/
def basicPosition (all before : Counts) : Relation → Nat
  | .le => before.slack
  | _ => all.slack + all.surplus + before.artificial

/-- The rows of constraints with the columns that are basic in them, where
`first` is the number of variables. -/
def startRows (all : Counts) (first : Nat) (before : Counts) :
    List (Constraint α) → List (List α × Nat)
  | [] => []
  | constraint :: others =>
    (constraint.coefficients ++ addedEntries all before constraint.relation ++ [constraint.rhs],
      first + basicPosition all before constraint.relation) ::
      startRows all first (before.after constraint.relation) others

/-- The tableau before the penalties are eliminated from the objective row.  In
it an artificial column is basic and has an objective entry, which no rule
expects. -/
def penalizedTableau (problem : Problem α) (constraints : List (Constraint α)) (penalty : α) :
    Tableau α :=
  let all := Counts.of constraints
  let rows := startRows all problem.dimension .zero constraints
  { columns := problem.variableNames ++ numbered "s" all.slack ++ numbered "e" all.surplus ++
      numbered "A" all.artificial
    rows := rows.map Prod.fst
    objective := problem.objectiveRow
      (List.replicate (all.slack + all.surplus) 0 ++ List.replicate all.artificial penalty)
    basis := rows.map Prod.snd }

/-- Eliminate the penalties of the columns from `firstArtificial` on, row by
row, so that the basic columns have no objective entry. -/
def eliminatePenalties (firstArtificial : Nat) (penalty : α) (tableau : Tableau α) : Tableau α :=
  tableau.basis.zipIdx.foldl
    (fun reduced (column, row) =>
      if firstArtificial ≤ column then reduced.reduceObjective row penalty else reduced)
    tableau

end BigM

variable {α : Type} [Scalar α]

/-- Solve a problem with any relations.  Artificial columns make a first basis,
and a penalty drives them out of it; the answer is about the problem only if
none is left.  The verdict of the run comes before a look at what is left. -/
def bigM (options : BigM.Options α) (problem : Problem α) :
    Except (SolveError α) (Solution α) := do
  problem.validate
  let constraints := problem.constraints.map BigM.normalized
  let counts := BigM.Counts.of constraints
  let firstArtificial := problem.dimension + counts.slack + counts.surplus
  let start := BigM.eliminatePenalties firstArtificial options.penalty
    (BigM.penalizedTableau problem constraints options.penalty)
  let tolerance := options.limits.tolerance
  let finished ← run (primalRule tolerance) options.limits.pivots 1 start
  let last := finished.last
  let iterations := ⟨0, start, .penalized options.penalty⟩ :: finished.iterations
  let artificialColumns := (List.range counts.artificial).map (firstArtificial + ·)
  let artificials := (columnValues last
    (artificialColumns.filter fun column => (last.basicRow? column).isSome)).filter
      fun artificial => tolerance < artificial.value
  let auxiliaryColumns := (List.range (counts.slack + counts.surplus)).map (problem.dimension + ·)
  let answer (status : Status) : Solution α :=
    { status := status
      objectiveValue := some (problem.sense.sign * last.objectiveValue)
      variableValues := columnValues last (List.range problem.dimension)
      slackValues := columnValues last auxiliaryColumns
      artificials := artificials
      iterations := iterations }
  match finished.verdict with
  | some .unbounded => return .withoutValues .unbounded [] iterations
  | some _ =>
    if artificials.isEmpty then return answer .optimal
    else return .withoutValues .infeasible artificials iterations
  | none => return answer .iterationLimit

end Linear
end Optimum
