import Optimum.Tableau.Basic

namespace Optimum
namespace Tableau

open Scalar

/-!
# Runs of pivots

A rule looks at a tableau and either stops or names a pivot.  `run` follows a
rule for a limited number of pivots and records a snapshot after each.  When
the limit is reached, the rule is asked once more, for it may be satisfied
with the last tableau.

The two rules of this module are the ratio test of the simplex method and the
one that first repairs negative right-hand sides.
-/

/-- Why a rule stops.  It is about the tableau that was reached; what it means
for a problem depends on the method, since a rule does not know where its
tableau comes from. -/
inductive Verdict
  | optimal
  | unbounded
  | infeasible
  deriving DecidableEq, Repr

/-- What a rule wants to be done next.  A rule only looks at a tableau, so that
runs can be compared move by move. -/
inductive Move
  | stop (verdict : Verdict)
  | pivot (row column : Nat)
  deriving DecidableEq, Repr

/-- How a snapshot came about: from the start of a method, or by a pivot on an
element. -/
inductive Event (α : Type)
  | slackBasis
  | penalized (penalty : α)
  | dualBasis (sense : Linear.Sense) (dimension : Nat)
  | pivot (entering leaving : String) (element : α) (row column : Nat)
  deriving DecidableEq, Repr

/-- The sentence that describes how a snapshot came about. -/
def Event.description {α : Type} [NumberText α] : Event α → String
  | .slackBasis => "Initial tableau with slack basis"
  | .penalized penalty =>
    "Initial tableau with M = " ++ NumberText.write penalty ++
      " and artificial columns eliminated from the objective"
  | .dualBasis sense dimension =>
    "Initial tableau of the dual (" ++ sense.word ++ " " ++ toString dimension ++ ")"
  | .pivot entering leaving element row column =>
    entering ++ " enters the basis, " ++ leaving ++ " leaves (pivot " ++
      NumberText.brief element ++ " at row " ++ toString (row + 1) ++ ", column " ++
      toString (column + 1) ++ ")"

/-- A snapshot of a run.  Its index counts the pivots before it, and its event
tells the one that led to it. -/
structure Iteration (α : Type) where
  index : Nat
  tableau : Tableau α
  event : Event α
  deriving DecidableEq, Repr

/-- The pivots of a run with the tableau it ended at.  `verdict` is absent when
the limit was reached before the rule stopped. -/
structure Run (α : Type) where
  iterations : List (Iteration α)
  last : Tableau α
  verdict : Option Verdict
  deriving DecidableEq, Repr

variable {α : Type} [Scalar α]

/-- How far a run goes and what it takes for zero.  A limit is needed because a
degenerate run may go round in circles. -/
structure Limits (α : Type) where
  pivots : Nat
  tolerance : α
  deriving DecidableEq, Repr

/-- Fifty pivots and a billionth. -/
def Limits.standard : Limits α :=
  ⟨50, unitFraction 1000000000⟩

/-- Follow a rule for at most `limit` pivots.  The snapshots are counted from
`index`.  At the limit the rule is asked once more, so that a run that has come
to its optimum with the last pivot is not called cut off. -/
def run (rule : Tableau α → Move) :
    (limit index : Nat) → Tableau α → Except (SolveError α) (Run α)
  | 0, _, tableau =>
    match rule tableau with
    | .stop .optimal => .ok ⟨[], tableau, some .optimal⟩
    | _ => .ok ⟨[], tableau, none⟩
  | limit + 1, index, tableau =>
    match rule tableau with
    | .stop verdict => .ok ⟨[], tableau, some verdict⟩
    | .pivot row column => do
      let next ← tableau.pivot row column
      let entering := tableau.label column
      let leaving := tableau.label (tableau.basis.getD row 0)
      let event := Event.pivot entering leaving (tableau.entry row column) row column
      let continued ← run rule limit (index + 1) next
      return { continued with iterations := ⟨index, next, event⟩ :: continued.iterations }

/-- Let the most improving column enter, until no column improves.  The leaving
row keeps the right-hand sides from becoming negative. -/
def primalRule (tolerance : α) (tableau : Tableau α) : Move :=
  match tableau.enteringColumn? tolerance with
  | none => .stop .optimal
  | some column =>
    match tableau.leavingRow? column tolerance with
    | none => .stop .unbounded
    | some row => .pivot row column

/-- While a right-hand side is negative, let its row leave; otherwise go on as
the primal rule does. -/
def dualRule (tolerance : α) (tableau : Tableau α) : Move :=
  match tableau.dualLeavingRow? tolerance with
  | some row =>
    match tableau.dualEnteringColumn? row tolerance with
    | none => .stop .infeasible
    | some column => .pivot row column
  | none => primalRule tolerance tableau

end Tableau
end Optimum
