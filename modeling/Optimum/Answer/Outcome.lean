import Optimum.Answer.Linear
import Optimum.Answer.Tables
import Optimum.Model.Outcome

namespace Optimum
namespace Model

open Document

/-!
# Compiled models and outcomes as documents
-/

def Compiled.document : Compiled Float → Document
  | .lp name problem =>
    variant "Lp" (.record [("name", .text name), ("problem", problem.document)])
  | .assignment name matrix =>
    variant "Assignment" (.record [("name", .text name), ("matrix", matrix.document)])
  | .transport name problem =>
    variant "Transport" (.record [("name", .text name), ("problem", problem.document)])

/-- An outcome is one record, told apart by its kind.  The solution stands in it
as the method gave it. -/
def Outcome.document : Outcome Float → Document
  | .tableau model method solution =>
    .record [("kind", .text "tableau"), ("model", .text model), ("method", .text method.name),
      ("solution", solution.document)]
  | .dual model solution => tagged "dual" model solution.document
  | .graphical model solution => tagged "graphical" model solution.document
  | .binary model solution => tagged "binary" model solution.document
  | .assignment model solution => tagged "assignment" model solution.document
  | .transport model solution => tagged "transport" model solution.document
where
  tagged (kind model : String) (solution : Document) : Document :=
    .record [("kind", .text kind), ("model", .text model), ("solution", solution)]

end Model
end Optimum
