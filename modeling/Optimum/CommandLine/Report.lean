import Optimum.Model.Outcome
import Optimum.Plane.Double

namespace Optimum
namespace CommandLine

open Model

/-!
# Reports

The text of an outcome, line by line, for a terminal.  Columns are filled up to
a width counted in characters; what is wider is not cut off.  Numbers are
rounded to four decimal places.
-/

def padRight (width : Nat) (text : String) : String :=
  text ++ Decimal.repeated ' ' (width - text.length)

def padLeft (width : Nat) (text : String) : String :=
  Decimal.repeated ' ' (width - text.length) ++ text

/-- A number rounded to four decimal places, without a sign on zero. -/
def rounded (value : Float) : String :=
  let kept := PlaneScalar.round (value * 10000) / 10000
  if Scalar.isZero kept then "0" else Decimal.plain.write kept

/-- A title and a line for each value; nothing if there is none. -/
def valueLines (title : String) (values : List (Linear.NamedValue Float)) : List String :=
  if values.isEmpty then []
  else (title ++ ":") :: values.map fun entry =>
    "  " ++ padRight 12 entry.name ++ " " ++ padLeft 12 (rounded entry.value)

/-- A tableau under its labels, the objective row named `z`.  Each row is named
for its basic column. -/
def tableauLines (tableau : Tableau Float) : List String :=
  let labels := tableau.basisLabels
  let heading := "  " ++ padRight 8 "basis" ++
    String.join ((tableau.columns ++ ["rhs"]).map (padLeft 10))
  heading :: tableau.allRows.mapIdx fun index entries =>
    "  " ++ padRight 8 (labels.getD index "z") ++
      String.join (entries.map fun value => padLeft 10 (rounded value))

/-- The snapshots of a run. -/
def iterationLines (iterations : List (Tableau.Iteration Float)) : List String :=
  (iterations.flatMap fun iteration =>
    ["", "Step " ++ toString iteration.index ++ ": " ++ iteration.event.description] ++
      tableauLines iteration.tableau) ++ [""]

def matrixLines (matrix : List (List Float)) : List String :=
  matrix.map fun entries =>
    "  " ++ String.join (entries.map fun value => padLeft 8 (rounded value))

/-- What a tableau method has found. -/
def solutionLines (solution : Linear.Solution Float) : List String :=
  let artificials := valueLines "Artificials still basic" solution.artificials
  ["Status: " ++ solution.status.words] ++
    (solution.objectiveValue.map fun value => "Objective: " ++ rounded value).toList ++
    ["Iterations: " ++ toString solution.iterationCount] ++
    (match solution.status with
    | .infeasible => artificials
    | .unbounded => []
    | _ => valueLines "Variables" solution.variableValues ++
        valueLines "Slack" solution.slackValues ++ artificials)

def dualLines (steps : Bool) (solution : Linear.DualSolution Float) : List String :=
  let bound (constraint : Linear.Constraint Float) : String :=
    let terms := List.zipWith (fun coefficient name => rounded coefficient ++ " " ++ name)
      constraint.coefficients solution.dual.variableNames
    "  " ++ constraint.name ++ ": " ++ " + ".intercalate terms ++ " " ++
      constraint.relation.mark ++ " " ++ rounded constraint.rhs
  let sense := match solution.dual.sense with
    | .max => "Max"
    | .min => "Min"
  ["", "Dual problem (" ++ sense ++ "):"] ++ solution.dual.constraints.map bound ++
    (if steps then iterationLines solution.iterations else []) ++
    ["", "Status: " ++ solution.status.words,
      match solution.objectiveValue with
      | some value => "Objective: " ++ rounded value
      | none => "Dual objective at stop: " ++ rounded solution.dualObjectiveValue,
      "Iterations: " ++ toString solution.iterationCount, "Shadow prices:"] ++
    solution.prices.map fun price =>
      "  " ++ padRight 6 price.name ++ " " ++ padRight 12 price.constraint ++ " " ++
        padLeft 12 (rounded price.value)

/-- A place in parentheses. -/
def pointText (point : Linear.Graphical.Point Float) : String :=
  "(" ++ rounded point.x1 ++ ", " ++ rounded point.x2 ++ ")"

def graphicalLines (steps : Bool) (solution : Linear.Graphical.Solution Float) : List String :=
  let line (boundary : Linear.Graphical.Line Float) : String :=
    "  " ++ padRight 8 boundary.name ++ " " ++ rounded boundary.a ++ " x1 + " ++
      rounded boundary.b ++ " x2 = " ++ rounded boundary.value
  let intersection (found : Linear.Graphical.Intersection Float) : String :=
    "  " ++ found.lines.1 ++ " x " ++ found.lines.2 ++ ": " ++ pointText found.point ++
      (if found.feasible then " feasible" else " infeasible")
  ["", "Lines:"] ++ solution.lines.map line ++
    (if steps then "Intersections:" :: solution.intersections.map intersection else []) ++
    ["Vertices:"] ++ (solution.vertices.map fun vertex =>
      "  " ++ pointText vertex.point ++ " -> " ++ rounded vertex.objective) ++
    ["", "Optimum: " ++ pointText solution.optimum.point ++ " with objective " ++
      rounded solution.objectiveValue]

def binaryLines (steps : Bool) (solution : Linear.Binary.Solution Float) : List String :=
  let candidate (found : Linear.Binary.Candidate Float) : String :=
    "  [" ++ ", ".intercalate (found.digits.map fun digit => toString digit.toNat) ++ "] -> " ++
      rounded found.objective
  (if steps then ["", "Feasible candidates:"] ++ solution.candidates.map candidate else []) ++
    ["", "Status: " ++ solution.status.words, "Evaluated: " ++ toString solution.evaluated] ++
    (match solution.objectiveValue with
    | some value => ("Objective: " ++ rounded value) ::
        valueLines "Variables" solution.variableValues
    | none => [])

def assignmentLines (steps : Bool) (solution : Assignment.Solution Float) : List String :=
  let step (taken : Assignment.Step Float × Nat) : List String :=
    ["", "Step " ++ toString (taken.2 + 1) ++ ": " ++
      taken.1.description solution.matrix.columnLabels] ++ matrixLines taken.1.matrix
  (if steps then solution.steps.zipIdx.flatMap step else []) ++
    ["", "Assignments:"] ++ (solution.pairings.map fun pairing =>
      "  " ++ padRight 10 pairing.rowLabel ++ " -> " ++ padRight 10 pairing.columnLabel ++ " " ++
        padLeft 8 (rounded pairing.cost)) ++
    (if solution.unassigned.isEmpty then []
    else ["Unassigned: " ++ ", ".intercalate solution.unassigned]) ++
    ["Total cost: " ++ rounded solution.totalCost]

def transportLines (steps : Bool) (solution : Transport.Solution Float) : List String :=
  let problem := solution.problem
  let step (taken : Transport.Step Float) : List String :=
    ["", "Step " ++ toString taken.index ++ ": " ++ taken.description problem] ++
      matrixLines taken.allocation
  let row (source : String) (amounts : List Float) : String :=
    "  " ++ padRight 10 source ++ String.join (amounts.map fun amount => padLeft 10 (rounded amount))
  (if steps then solution.steps.flatMap step else []) ++
    ["", "Allocation:",
      "  " ++ padRight 10 "" ++ String.join (problem.destinations.map (padLeft 10))] ++
    List.zipWith row problem.sources solution.allocation ++
    ["Total cost: " ++ rounded solution.totalCost]

/-- The report on an outcome, with every intermediate step if asked for.  What
the method has found is shown last in either case. -/
def outcomeLines (kind : Language.ModelKind) (steps : Bool) (outcome : Outcome Float) :
    List String :=
  let method (chosen : Method) : String := "Method: " ++ chosen.name
  ("Model: " ++ outcome.model ++ " (" ++ kind.keyword ++ ")") ::
    match outcome with
    | .tableau _ chosen solution => method chosen ::
        ((if steps then iterationLines solution.iterations else []) ++ [""] ++
          solutionLines solution)
    | .dual _ solution => method .dual :: dualLines steps solution
    | .graphical _ solution => method .graphical :: graphicalLines steps solution
    | .binary _ solution => method .binary :: binaryLines steps solution
    | .assignment _ solution => assignmentLines steps solution
    | .transport _ solution => transportLines steps solution

end CommandLine
end Optimum
