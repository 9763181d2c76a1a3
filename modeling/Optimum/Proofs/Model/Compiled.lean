import Optimum.Model.Registry
import Optimum.Proofs.Checks

namespace Optimum
namespace Model

open Optimum.Language

/-!
# Compiled models are valid

The last step of every compilation is the check of the problem, so a method
that is given a compiled model never refuses it for its shape or its values.
-/

variable {α β : Type} {name : String}

/-! ## Blame -/

theorem blame_eq_ok_iff {result : Except (SolveError α) β} {value : β} :
    blame name result = .ok value ↔ result = .ok value := by
  cases result <;> simp [blame, Except.mapError]

theorem blame_eq_error_iff {result : Except (SolveError α) β} {fault : CompileError α} :
    blame name result = .error fault ↔
      ∃ cause, result = .error cause ∧ fault = .unsolvable name cause := by
  cases result <;> simp [blame, Except.mapError, eq_comm]

/-! ## What compilation has checked -/

variable [Scalar α]

/-- Whether the problem of a model passes the check of its kind. -/
def Compiled.Valid : Compiled α → Prop
  | .lp _ problem => problem.validate = .ok ()
  | .assignment _ matrix => matrix.validate = .ok ()
  | .transport _ problem => problem.validate = .ok ()

theorem validate_of_compileLinear {model : LinearModel α} {problem : Linear.Problem α}
    (compiles : compileLinear model = .ok problem) : problem.validate = .ok () := by
  unfold compileLinear at compiles
  cases present : model.objective with
  | none =>
      rw [present] at compiles
      cases compiles
  | some objective =>
      rw [present] at compiles
      rcases Checks.bind_eq_ok_iff.mp compiles with ⟨objectiveForm, -, rest⟩
      split at rest
      · cases rest
      · rcases Checks.bind_eq_ok_iff.mp rest with ⟨forms, -, checked⟩
        rcases Checks.check_bind_eq_ok_iff.mp checked with ⟨valid, same⟩
        cases same
        exact blame_eq_ok_iff.mp valid

theorem validate_of_compileAssignment {model : AssignmentModel α}
    {matrix : Assignment.CostMatrix α} (compiles : compileAssignment model = .ok matrix) :
    matrix.validate = .ok () := by
  rcases Checks.bind_eq_ok_iff.mp compiles with ⟨costs, -, labelled⟩
  rcases Checks.check_bind_eq_ok_iff.mp (blame_eq_ok_iff.mp labelled) with ⟨valid, same⟩
  cases same
  exact valid

theorem validate_of_compileTransport {model : TransportModel α}
    {problem : Transport.Problem α} (compiles : compileTransport model = .ok problem) :
    problem.validate = .ok () := by
  rcases Checks.bind_eq_ok_iff.mp compiles with ⟨supply, -, supplied⟩
  rcases Checks.bind_eq_ok_iff.mp supplied with ⟨demand, -, demanded⟩
  rcases Checks.bind_eq_ok_iff.mp demanded with ⟨costs, -, labelled⟩
  rcases Checks.check_bind_eq_ok_iff.mp (blame_eq_ok_iff.mp labelled) with ⟨valid, same⟩
  cases same
  exact valid

/-- Whatever a registry compiles is valid.  So a method that is given a compiled
problem cannot fail for its shape. -/
theorem Registry.valid_of_compile {registry : Registry α} {compiled : Compiled α}
    (compiles : registry.compile name = .ok compiled) : compiled.Valid := by
  rw [Registry.compile] at compiles
  cases found : registry.find? name with
  | none =>
      rw [found] at compiles
      cases compiles
  | some item =>
      rw [found] at compiles
      cases item with
      | lp model =>
          rcases Checks.map_eq_ok_iff.mp compiles with ⟨problem, compiledProblem, rfl⟩
          exact validate_of_compileLinear compiledProblem
      | assignment model =>
          rcases Checks.map_eq_ok_iff.mp compiles with ⟨matrix, compiledMatrix, rfl⟩
          exact validate_of_compileAssignment compiledMatrix
      | transport model =>
          rcases Checks.map_eq_ok_iff.mp compiles with ⟨problem, compiledProblem, rfl⟩
          exact validate_of_compileTransport compiledProblem

end Model
end Optimum
