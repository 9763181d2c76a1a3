import Optimum.Answer.Program
import Optimum.Linear.Binary
import Optimum.Linear.Dual
import Optimum.Linear.Graphical

namespace Optimum

open Document

/-!
# Linear problems and their answers as documents
-/

namespace Linear

def Sense.variantName : Sense → String
  | .max => "Max"
  | .min => "Min"

def Status.variantName : Status → String
  | .optimal => "Optimal"
  | .unbounded => "Unbounded"
  | .infeasible => "Infeasible"
  | .iterationLimit => "IterationLimit"

def Constraint.document (constraint : Constraint Float) : Document :=
  .record [("name", .text constraint.name),
    ("coefficients", numbers constraint.coefficients),
    ("relation", .text constraint.relation.variantName),
    ("rhs", .number constraint.rhs)]

def Problem.document (problem : Problem Float) : Document :=
  .record [("variables", texts problem.variableNames),
    ("objective_type", .text problem.sense.variantName),
    ("objective", numbers problem.objective),
    ("constraints", listOf Constraint.document problem.constraints)]

end Linear

namespace Tableau

def document (tableau : Tableau Float) : Document :=
  .record [("columns", texts tableau.columns),
    ("rows", table tableau.allRows),
    ("basis", counts tableau.basis)]

/-- A snapshot.  The labels and the place of the pivot are absent from the
first one. -/
def Iteration.document (iteration : Iteration Float) : Document :=
  let pivot := match iteration.event with
    | .pivot entering leaving _ row column =>
      [("entering", .text entering), ("leaving", .text leaving), ("pivot_row", .count row),
        ("pivot_col", .count column)]
    | _ => [("entering", .null), ("leaving", .null), ("pivot_row", .null), ("pivot_col", .null)]
  .record ([("index", .count iteration.index), ("tableau", iteration.tableau.document)] ++
    pivot ++ [("description", .text iteration.event.description)])

end Tableau

namespace Linear

def NamedValue.document (entry : NamedValue Float) : Document :=
  .record [("name", .text entry.name), ("value", .number entry.value)]

def Solution.document (solution : Solution Float) : Document :=
  .record [("status", .text solution.status.variantName),
    ("objective_value", optional .number solution.objectiveValue),
    ("variable_values", listOf NamedValue.document solution.variableValues),
    ("slack_values", listOf NamedValue.document solution.slackValues),
    ("artificials", listOf NamedValue.document solution.artificials),
    ("iteration_count", .count solution.iterationCount),
    ("iterations", listOf Tableau.Iteration.document solution.iterations)]

def Price.document (price : Price Float) : Document :=
  .record [("name", .text price.name), ("constraint", .text price.constraint),
    ("value", .number price.value)]

def DualSolution.document (solution : DualSolution Float) : Document :=
  .record [("dual", solution.dual.document),
    ("status", .text solution.status.variantName),
    ("objective_value", optional .number solution.objectiveValue),
    ("dual_objective_value", .number solution.dualObjectiveValue),
    ("dual_values", listOf Price.document solution.prices),
    ("iteration_count", .count solution.iterationCount),
    ("iterations", listOf Tableau.Iteration.document solution.iterations)]

namespace Graphical

def Line.document (line : Line Float) : Document :=
  .record [("name", .text line.name), ("a", .number line.a), ("b", .number line.b),
    ("value", .number line.value)]

def Point.document (point : Point Float) : Document :=
  .record [("x1", .number point.x1), ("x2", .number point.x2)]

def Intersection.document (intersection : Intersection Float) : Document :=
  .record [("point", intersection.point.document),
    ("lines", texts [intersection.lines.1, intersection.lines.2]),
    ("feasible", .boolean intersection.feasible)]

def Vertex.document (vertex : Vertex Float) : Document :=
  .record [("point", vertex.point.document), ("objective", .number vertex.objective)]

def Solution.document (solution : Solution Float) : Document :=
  .record [("objective_type", .text solution.sense.variantName),
    ("lines", listOf Line.document solution.lines),
    ("intersections", listOf Intersection.document solution.intersections),
    ("vertices", listOf Vertex.document solution.vertices),
    ("polygon", listOf Point.document solution.polygon),
    ("optimum", solution.optimum.document),
    ("objective_value", .number solution.objectiveValue)]

end Graphical

namespace Binary

def digitCounts (digits : List Bool) : List Nat :=
  digits.map Bool.toNat

def Candidate.document (candidate : Candidate Float) : Document :=
  .record [("values", counts (digitCounts candidate.digits)),
    ("objective", .number candidate.objective)]

def Solution.document (solution : Solution Float) : Document :=
  .record [("status", .text solution.status.variantName),
    ("objective_value", optional .number solution.objectiveValue),
    ("variable_values", listOf NamedValue.document solution.variableValues),
    ("candidates", listOf Candidate.document solution.candidates),
    ("evaluated", .count solution.evaluated)]

end Binary

end Linear

end Optimum
