import Optimum.Linear.Problem

namespace Optimum
namespace Linear

open Scalar

/-!
# The planar method

A problem with two variables is solved by looking at every pair of boundary
lines, the axes included.  The feasible crossings, each place once, are the
vertices, and the best vertex is the answer.  That the objective grows without
limit is not noticed here: the answer is the best among the vertices there are.

Places and objectives are rounded to a few decimals before they are compared;
feasibility is decided by the exact crossing.
-/

namespace Graphical

structure Options (α : Type) where
  tolerance : α
  /-- Places closer than this are one vertex. -/
  vertexTolerance : α
  /-- The decimal places that are kept. -/
  places : Int
  deriving DecidableEq, Repr

/-- The points of the plane where `a` times the first coordinate and `b` times
the second add up to a value. -/
structure Line (α : Type) where
  name : String
  a : α
  b : α
  value : α
  deriving DecidableEq, Repr

structure Point (α : Type) where
  x1 : α
  x2 : α
  deriving DecidableEq, Repr

/-- Where two lines cross.  The place is rounded, but whether it is feasible is
told of the exact one. -/
structure Intersection (α : Type) where
  point : Point α
  lines : String × String
  feasible : Bool
  deriving DecidableEq, Repr

structure Vertex (α : Type) where
  point : Point α
  objective : α
  deriving DecidableEq, Repr

structure Solution (α : Type) where
  sense : Sense
  lines : List (Line α)
  /-- The crossings of all pairs of lines that are not parallel. -/
  intersections : List (Intersection α)
  /-- The feasible places in the order in which they were found. -/
  vertices : List (Vertex α)
  /-- The same places counter-clockwise around their centre. -/
  polygon : List (Point α)
  optimum : Vertex α
  deriving DecidableEq, Repr

/-- The objective of the optimum. -/
def Solution.objectiveValue {α : Type} (solution : Solution α) : α :=
  solution.optimum.objective

variable {α : Type}

/-- Every pair of entries, the earlier one first.  No entry is paired with
itself. -/
def pairs {β : Type} : List β → List (β × β)
  | [] => []
  | first :: others => others.map (first, ·) ++ pairs others

section Scalars

variable [Scalar α]

def Options.standard : Options α :=
  ⟨unitFraction 1000000000, unitFraction 100000, 5⟩

/-- The boundaries of the constraints, and the two axes, since the variables are
not negative.  Every vertex of the region lies on two of them. -/
def boundaryLines (problem : Problem α) : List (Line α) :=
  problem.constraints.map
      (fun constraint => ⟨constraint.name, constraint.coefficients.getD 0 0,
        constraint.coefficients.getD 1 0, constraint.rhs⟩) ++
    [⟨problem.variableNames.getD 0 "" ++ " = 0", 1, 0, 0⟩,
      ⟨problem.variableNames.getD 1 "" ++ " = 0", 0, 1, 0⟩]

/-- The determinant that tells how far two lines are from being parallel.  It is
zero for parallel lines and grows with the coefficients too. -/
def determinant (first second : Line α) : α :=
  first.a * second.b - second.a * first.b

/-- The exact crossing of two lines, by the rule of determinants.  It divides by
the determinant, so parallel lines have none. -/
def crossing (first second : Line α) : Point α where
  x1 := (first.value * second.b - second.value * first.b) / determinant first second
  x2 := (first.a * second.value - second.a * first.value) / determinant first second

def isFeasible (problem : Problem α) (tolerance : α) (point : Point α) : Bool :=
  problem.isFeasible [point.x1, point.x2] tolerance

/-- The vertex with the best objective, the first of several.  The first vertex
is given apart, so there is always an answer. -/
def best (sense : Sense) (first : Vertex α) (others : List (Vertex α)) : Vertex α :=
  others.foldl
    (fun champion vertex =>
      if sense.sign * champion.objective < sense.sign * vertex.objective then vertex
      else champion)
    first

end Scalars

variable [PlaneScalar α]

def Point.rounded (point : Point α) (places : Int) : Point α :=
  ⟨PlaneScalar.roundTo point.x1 places, PlaneScalar.roundTo point.x2 places⟩

/-- The crossing of two lines unless they are nearly parallel, when the quotient
of determinants would tell little. -/
def intersection? (options : Options α) (problem : Problem α) (lines : Line α × Line α) :
    Option (Intersection α) :=
  if magnitude (determinant lines.1 lines.2) < options.tolerance then none
  else
    let exact := crossing lines.1 lines.2
    some {
      point := exact.rounded options.places
      lines := (lines.1.name, lines.2.name)
      feasible := isFeasible problem options.tolerance exact }

/-- Whether two places are closer than a radius. -/
def Point.isNear (first second : Point α) (radius : α) : Bool :=
  PlaneScalar.shorter (first.x1 - second.x1) (first.x2 - second.x2) radius

/-- Append a place unless it is near one that is there.  Several lines may cross
in one vertex, which is listed once. -/
def insertPoint (radius : α) (points : List (Point α)) (point : Point α) : List (Point α) :=
  if points.any fun found => found.isNear point radius then points else points ++ [point]

/-- The places of the feasible crossings, and of the origin if it is feasible,
each place once. -/
def feasiblePoints (options : Options α) (problem : Problem α)
    (intersections : List (Intersection α)) : List (Point α) :=
  let origin : Point α := ⟨0, 0⟩
  let candidates := (intersections.filter Intersection.feasible).map Intersection.point ++
    (if isFeasible problem options.tolerance origin then [origin] else [])
  candidates.foldl (insertPoint options.vertexTolerance) []

/-- Order places by their angle around their centre.  Fewer than three stay as
they are. -/
def polygonOrder (points : List (Point α)) : List (Point α) :=
  if points.length < 3 then points
  else
    let count := (points.length : α)
    let centre : Point α := ⟨sum (points.map Point.x1) / count, sum (points.map Point.x2) / count⟩
    let displacement (point : Point α) := (point.x1 - centre.x1, point.x2 - centre.x2)
    points.mergeSort fun first second =>
      PlaneScalar.angleLe (displacement first) (displacement second)

/-- The vertex at a place. -/
def vertexAt (options : Options α) (problem : Problem α) (point : Point α) : Vertex α :=
  ⟨point, PlaneScalar.roundTo (problem.evaluate [point.x1, point.x2]) options.places⟩

end Graphical

/-- Solve a problem with two variables in the plane.  The optimum is sought
among the vertices alone, whether or not the region is bounded: an unbounded
objective is not noticed. -/
def graphical {α : Type} [PlaneScalar α] (options : Graphical.Options α) (problem : Problem α) :
    Except (SolveError α) (Graphical.Solution α) := do
  if problem.dimension ≠ 2 then .error (.planeDimension problem.dimension)
  else
    problem.validate
    let lines := Graphical.boundaryLines problem
    let intersections := (Graphical.pairs lines).filterMap
      (Graphical.intersection? options problem)
    let points := Graphical.feasiblePoints options problem intersections
    match points.map (Graphical.vertexAt options problem) with
    | [] => .error .noFeasibleVertices
    | first :: others =>
      return {
        sense := problem.sense
        lines := lines
        intersections := intersections
        vertices := first :: others
        polygon := Graphical.polygonOrder points
        optimum := Graphical.best problem.sense first others }

end Linear
end Optimum
