import Optimum.Proofs.Linear.SlackBasis

namespace Optimum
namespace Linear

open Tableau

/-!
# Certified outcomes

A search for the best point of a system ends in one of three ways, and each is
shown by two vectors: a point and prices of the same value, a point and a ray,
or prices and a ray of the dual.  Whatever found the vectors, at most one
outcome can be shown, and a certificate for the dual is one for the system with
the two vectors exchanged.  So two methods that end with certificates agree,
though they walk through different tableaus.
-/

/-- What the search for a best point comes to.  An outcome is about a system,
and no method is needed to say what it means. -/
inductive Outcome
  | optimal (value : Rat)
  | unbounded
  | infeasible

/-- What an outcome of the dual means for the system. -/
def Outcome.dual : Outcome → Outcome
  | .optimal value => .optimal (-value)
  | .unbounded => .infeasible
  | .infeasible => .unbounded

namespace System

variable {system : System}

/-- Two vectors that show an outcome.  Whoever has them can check the outcome
without trust in the method that found it: an optimum by prices of the same
value, the others by a ray of the system or of its dual. -/
inductive Certified (system : System) : Outcome → Prop
  | optimal {point prices : Nat → Rat} (feasible : system.Feasible point)
      (affordable : system.dual.Feasible prices)
      (cancel : system.value point + system.dual.value prices = 0) :
      Certified system (.optimal (system.value point))
  | unbounded {point direction : Nat → Rat} (feasible : system.Feasible point)
      (ray : system.Ray direction) : Certified system .unbounded
  | infeasible {prices direction : Nat → Rat} (affordable : system.dual.Feasible prices)
      (ray : system.dual.Ray direction) : Certified system .infeasible

/-- A system with a ray of its dual has no feasible point.  Its value along the
ray would bound the dual. -/
theorem Ray.not_feasible {direction point : Nat → Rat} (ray : system.dual.Ray direction) :
    ¬ system.Feasible point :=
  system.dual_dual ▸ ray.not_feasible_dual

/-- No two outcomes of a system can be shown.  So two methods that both show
theirs agree, whatever ways they went. -/
theorem Certified.unique {first second : Outcome} (one : system.Certified first)
    (other : system.Certified second) : first = second := by
  cases one with
  | optimal feasible affordable cancel =>
      cases other with
      | optimal otherFeasible otherAffordable otherCancel =>
          have below := value_le_of_cancel otherAffordable otherCancel feasible
          have above := value_le_of_cancel affordable cancel otherFeasible
          rw [le_antisymm below above]
      | unbounded _ ray => exact absurd affordable ray.not_feasible_dual
      | infeasible _ ray => exact absurd feasible ray.not_feasible
  | unbounded feasible ray =>
      cases other with
      | optimal _ affordable _ => exact absurd affordable ray.not_feasible_dual
      | unbounded _ _ => rfl
      | infeasible affordable _ => exact absurd affordable ray.not_feasible_dual
  | infeasible affordable ray =>
      cases other with
      | optimal feasible _ _ => exact absurd feasible ray.not_feasible
      | unbounded feasible _ => exact absurd feasible ray.not_feasible
      | infeasible _ _ => rfl

theorem Certified.of_dual {outcome : Outcome} (certified : system.dual.Certified outcome) :
    system.Certified outcome.dual := by
  cases certified with
  | @optimal prices point affordable feasible cancel =>
      rw [dual_dual] at feasible cancel
      rw [Outcome.dual, ← eq_neg_of_add_eq_zero_right cancel]
      exact .optimal feasible affordable ((add_comm _ _).trans cancel)
  | unbounded affordable ray => exact .infeasible affordable ray
  | infeasible feasible ray =>
      rw [dual_dual] at feasible ray
      exact .unbounded feasible ray

end System

/-! ## Where a rule stops -/

/-- What a verdict of a rule says of the system of the slack tableau. -/
def outcomeOf (value : Rat) : Verdict → Outcome
  | .optimal => .optimal value
  | .unbounded => .unbounded
  | .infeasible => .infeasible

section Stops

variable {system : System} {start last : Tableau Rat} (slack : IsSlackTableau system start)
  (reached : Reached start last)

include slack reached

/-- Where the primal rule stops at a feasible basis, the tableau holds the
vectors that show why. -/
theorem certified_of_primalMove (kept : last.Feasible) {verdict : Verdict}
    (move : PrimalMove 0 last (.stop verdict)) :
    system.Certified (outcomeOf last.objectiveValue verdict) := by
  have feasible := feasible_valueOf slack reached kept
  cases move with
  | optimal satisfied =>
      rw [neg_zero] at satisfied
      rw [outcomeOf, ← value_valueOf slack reached]
      refine .optimal feasible (feasible_dual_of_satisfied slack reached satisfied) ?_
      rw [value_valueOf slack reached, (objective_dual slack reached).2, add_neg_cancel]
  | unbounded column enters blocked =>
      have improves := enters.passed
      rw [neg_zero] at improves
      exact .unbounded feasible (ray_edge slack reached enters.lt improves blocked)

/-- Where the dual rule stops, a row that nothing repairs shows the system
infeasible if its dual has a feasible point; the other verdicts are those of
the primal rule. -/
theorem certified_of_dualMove {prices : Nat → Rat} (affordable : system.dual.Feasible prices)
    {verdict : Verdict} (move : DualMove 0 last (.stop verdict)) :
    system.Certified (outcomeOf last.objectiveValue verdict) := by
  cases move with
  | infeasible row leaves blocked =>
      have negative := leaves.passed
      rw [neg_zero] at negative blocked
      exact .infeasible affordable (dual_ray slack reached leaves.lt negative blocked)
  | primal _ repaired primal =>
      rw [neg_zero] at repaired
      exact certified_of_primalMove slack reached repaired primal

end Stops
end Linear
end Optimum
