import Optimum.Answer.Program
import Optimum.Assignment.Hungarian
import Optimum.Transport.Northwest

namespace Optimum

open Document

/-!
# Assignment and transport as documents
-/

namespace Assignment

def CostMatrix.document (matrix : CostMatrix Float) : Document :=
  .record [("row_labels", texts matrix.rowLabels),
    ("col_labels", texts matrix.columnLabels),
    ("costs", table matrix.costs),
    ("real_rows", .count matrix.realRows),
    ("real_cols", .count matrix.realColumns)]

def CoverStrategy.variantName : CoverStrategy → String
  | .greedy => "Greedy"
  | .minimum => "Konig"

def Action.document : Action Float → Document
  | .balance dummyRows dummyColumns =>
    variant "Balance" (.record [("dummy_rows", .count dummyRows),
      ("dummy_cols", .count dummyColumns)])
  | .rowReduction minima => variant "RowReduction" (.record [("minima", numbers minima)])
  | .columnReduction minima =>
    variant "ColumnReduction" (.record [("minima", numbers minima)])
  | .cover rows columns =>
    variant "Cover" (.record [("rows", counts rows), ("cols", counts columns)])
  | .adjustment value => variant "Adjustment" (.record [("value", .number value)])
  | .diagonalize columnOrder =>
    variant "Diagonalize" (.record [("column_order", counts columnOrder)])

/-- A step of a solution whose columns carry the labels. -/
def Step.document (labels : List String) (step : Step Float) : Document :=
  .record [("action", step.action.document),
    ("matrix", table step.matrix),
    ("description", .text (step.description labels))]

def Pairing.document (pairing : Pairing Float) : Document :=
  .record [("row", .count pairing.row), ("col", .count pairing.column),
    ("row_label", .text pairing.rowLabel), ("col_label", .text pairing.columnLabel),
    ("cost", .number pairing.cost)]

def Solution.document (solution : Solution Float) : Document :=
  .record [("matrix", solution.matrix.document),
    ("assignments", listOf Pairing.document solution.pairings),
    ("unassigned", texts solution.unassigned),
    ("total_cost", .number solution.totalCost),
    ("permutation", counts solution.permutation),
    ("steps", listOf (Step.document solution.matrix.columnLabels) solution.steps)]

end Assignment

namespace Transport

def Problem.document (problem : Problem Float) : Document :=
  .record [("sources", texts problem.sources),
    ("destinations", texts problem.destinations),
    ("supply", numbers problem.supply),
    ("demand", numbers problem.demand),
    ("costs", table problem.costs)]

/-- A step of a plan for the problem. -/
def Step.document (problem : Problem Float) (step : Step Float) : Document :=
  .record [("index", .count step.index),
    ("source", .count step.source),
    ("destination", .count step.destination),
    ("amount", .number step.amount),
    ("allocation", table step.allocation),
    ("remaining_supply", numbers step.remainingSupply),
    ("remaining_demand", numbers step.remainingDemand),
    ("description", .text (step.description problem))]

def Solution.document (solution : Solution Float) : Document :=
  .record [("problem", solution.problem.document),
    ("allocation", table solution.allocation),
    ("total_cost", .number solution.totalCost),
    ("steps", listOf (Step.document solution.problem) solution.steps)]

end Transport

end Optimum
