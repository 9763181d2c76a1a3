import Optimum.Model.Outcome
import Optimum.Plane.Rational
import Optimum.Proofs.Linear.Refusals
import Optimum.Proofs.Model.CompileMeaning
import Optimum.Proofs.Model.Compiled

namespace Optimum
namespace Model

open Linear Tableau

/-!
# What the methods make of a linear model

Over the rationals a compiled linear model is either answered or refused for a
reason that its method documents.  `Answers` and `Refuses` have one constructor
for each way out; they exclude one another, and one of them always holds, so
the conditions under which a method fails can be read off `Refuses`.  The method
that is taken by default is one that does not refuse the problem.
-/

variable {name : String} {problem : Linear.Problem Rat} {method : Method} {balance : Bool}

/-! ## Reasons to refuse, and answers -/

/-- Why a method refuses a problem.  There is one case for each fault that is
documented, and no other fault. -/
inductive Refuses (problem : Linear.Problem Rat) : Method → SolveError Rat → Prop
  | notAbove (constraint : Constraint Rat) (member : constraint ∈ problem.constraints)
      (other : constraint.relation ≠ .le) :
      Refuses problem .simplex (.unsupportedRelation constraint.name constraint.relation [.le])
  | negative (constraint : Constraint Rat) (member : constraint ∈ problem.constraints)
      (negative : constraint.rhs < 0) :
      Refuses problem .simplex (.negativeRightSide constraint.name constraint.rhs)
  | equation (constraint : Constraint Rat) (member : constraint ∈ problem.constraints)
      (equation : constraint.relation = .eq) :
      Refuses problem .dual (.unsupportedRelation constraint.name .eq [.le, .ge])
  | notPlanar (space : problem.dimension ≠ 2) :
      Refuses problem .graphical (.planeDimension problem.dimension)
  | noVertices (planar : problem.dimension = 2)
      (nowhere : Graphical.keptPlaces .standard problem = []) :
      Refuses problem .graphical .noFeasibleVertices
  | tooMany (many : 16 < problem.dimension) :
      Refuses problem .binary (.tooManyBinaryVariables 16 problem.dimension)

/-- An answer of a method, with the condition that the method has checked.  The
runs of the tableau methods stay inside tableaus that are wide enough for all
the columns that the answer is read from. -/
inductive Answers (name : String) (problem : Linear.Problem Rat) : Method → Outcome Rat → Prop
  | simplex (solution : Solution Rat)
      (standard : ∀ constraint ∈ problem.constraints,
        constraint.relation = .le ∧ 0 ≤ constraint.rhs)
      (inside : StaysInside (primalRule (Limits.standard : Limits Rat).tolerance)
        (problem.dimension + problem.constraints.length) solution.iterations) :
      Answers name problem .simplex (.tableau name .simplex solution)
  | bigM (solution : Solution Rat)
      (grouped : ∀ row < problem.constraints.length,
        ((problem.countsAbove row).after (problem.rowAt row).relation).Within problem.counts)
      (inside : StaysInside (primalRule (BigM.Options.standard : BigM.Options Rat).limits.tolerance)
        (problem.dimension + problem.counts.total) solution.iterations) :
      Answers name problem .bigM (.tableau name .bigM solution)
  | dual (solution : DualSolution Rat)
      (bounds : ∀ constraint ∈ problem.constraints, constraint.relation ≠ .eq)
      (mirrors : solution.Mirrors problem)
      (inside : StaysInside (dualRule (Limits.standard : Limits Rat).tolerance)
        (problem.constraints.length + problem.dimension) solution.iterations) :
      Answers name problem .dual (.dual name solution)
  | graphical (solution : Graphical.Solution Rat) (planar : problem.dimension = 2)
      (kept : Graphical.keptPlaces .standard problem ≠ []) :
      Answers name problem .graphical (.graphical name solution)
  | binary (solution : Binary.Solution Rat) (few : problem.dimension ≤ 16) :
      Answers name problem .binary (.binary name solution)

theorem Answers.not_refuses {outcome : Outcome Rat} {cause : SolveError Rat}
    (answers : Answers name problem method outcome) : ¬ Refuses problem method cause := by
  intro refuses
  cases answers with
  | simplex _ standard =>
      cases refuses with
      | notAbove constraint member other => exact other (standard constraint member).1
      | negative constraint member negative =>
          exact not_lt.mpr (standard constraint member).2 negative
  | bigM => cases refuses
  | dual _ bounds =>
      cases refuses with
      | equation constraint member equation => exact bounds constraint member equation
  | graphical _ planar kept =>
      cases refuses with
      | notPlanar space => exact space planar
      | noVertices _ nowhere => exact kept nowhere
  | binary _ few =>
      cases refuses with
      | tooMany many => exact not_lt.mpr few many

/-! ## One of them holds -/

theorem tolerance_standard_nonneg : 0 ≤ (Limits.standard : Limits Rat).tolerance := by
  decide +kernel

theorem tolerance_penalties_nonneg :
    0 ≤ (BigM.Options.standard : BigM.Options Rat).limits.tolerance := by
  decide +kernel

theorem refuses_of_error (valid : problem.validate = .ok ()) {fault : CompileError Rat}
    (fails : solveLinear name problem method = .error fault) :
    ∃ cause, fault = .unsolvable name cause ∧ Refuses problem method cause := by
  rcases blame_eq_error_iff.mp fails with ⟨cause, failed, rfl⟩
  refine ⟨cause, rfl, ?_⟩
  cases method with
  | simplex =>
      rcases simplex_eq_error tolerance_standard_nonneg valid (Checks.map_eq_error_iff.mp failed)
        with ⟨constraint, member, refused⟩
      rw [checkStandard] at refused
      split at refused
      · next other =>
          cases refused
          exact .notAbove constraint member other
      · split at refused
        · next negative =>
            cases refused
            exact .negative constraint member negative
        · cases refused
  | bigM =>
      rcases bigM_exit _ valid tolerance_penalties_nonneg with ⟨solution, -, answers, -⟩
      rw [Checks.map_eq_error_iff, answers] at failed
      cases failed
  | dual =>
      rcases dualSimplex_eq_error tolerance_standard_nonneg valid
        (Checks.map_eq_error_iff.mp failed) with ⟨constraint, member, equation, rfl⟩
      exact .equation constraint member equation
  | graphical =>
      rcases (graphical_eq_error_iff valid).mp (Checks.map_eq_error_iff.mp failed) with
        ⟨space, rfl⟩ | ⟨planar, nowhere, rfl⟩
      · exact .notPlanar space
      · exact .noVertices planar nowhere
  | binary =>
      rcases (binary_eq_error_iff valid).mp (Checks.map_eq_error_iff.mp failed) with ⟨many, rfl⟩
      exact .tooMany many

theorem answers_of_ok (valid : problem.validate = .ok ()) {outcome : Outcome Rat}
    (succeeds : solveLinear name problem method = .ok outcome) :
    Answers name problem method outcome := by
  have solved := blame_eq_ok_iff.mp succeeds
  cases method with
  | simplex =>
      rcases Checks.map_eq_ok_iff.mp solved with ⟨solution, answers, rfl⟩
      have standard := checkStandardForm_eq_ok_iff.mp (accepted_of_simplex answers).2
      exact .simplex solution standard (staysInside_of_simplex tolerance_standard_nonneg answers)
  | bigM =>
      rcases Checks.map_eq_ok_iff.mp solved with ⟨solution, answers, rfl⟩
      exact .bigM solution (fun row inside => Problem.after_within inside)
        (staysInside_of_bigM tolerance_penalties_nonneg answers)
  | dual =>
      rcases Checks.map_eq_ok_iff.mp solved with ⟨solution, answers, rfl⟩
      rcases staysInside_of_dualSimplex tolerance_standard_nonneg answers with ⟨mirrors, inside⟩
      exact .dual solution (accepted_of_dualSimplex answers).2 mirrors inside
  | graphical =>
      rcases Checks.map_eq_ok_iff.mp solved with ⟨solution, answers, rfl⟩
      have planar : problem.dimension = 2 := by
        by_contra space
        rw [(graphical_eq_error_iff valid).mpr (.inl ⟨space, rfl⟩)] at answers
        cases answers
      refine .graphical solution planar fun nowhere => ?_
      rw [(graphical_eq_error_iff valid).mpr (.inr ⟨planar, nowhere, rfl⟩)] at answers
      cases answers
  | binary =>
      rcases Checks.map_eq_ok_iff.mp solved with ⟨solution, answers, rfl⟩
      refine .binary solution (not_lt.mp fun many => ?_)
      rw [(binary_eq_error_iff valid).mpr ⟨many, rfl⟩] at answers
      cases answers

/-- A method fails where it has a reason to refuse the problem.  The method of
penalties has none. -/
theorem solveLinear_fails_iff (valid : problem.validate = .ok ()) :
    (∃ fault, solveLinear name problem method = .error fault) ↔
      ∃ cause, Refuses problem method cause := by
  constructor
  · rintro ⟨fault, fails⟩
    rcases refuses_of_error valid fails with ⟨cause, -, refuses⟩
    exact ⟨cause, refuses⟩
  · rintro ⟨cause, refuses⟩
    rw [Checks.exists_error_iff]
    rintro ⟨outcome, succeeds⟩
    exact (answers_of_ok valid succeeds).not_refuses refuses

theorem solveLinear_succeeds (valid : problem.validate = .ok ())
    (accepts : ∀ cause, ¬ Refuses problem method cause) :
    ∃ outcome, solveLinear name problem method = .ok outcome := by
  by_contra fails
  rw [← Checks.exists_error_iff, solveLinear_fails_iff valid] at fails
  rcases fails with ⟨cause, refuses⟩
  exact accepts cause refuses

/-! ## The conditions of each method -/

theorem not_refuses_bigM (cause : SolveError Rat) : ¬ Refuses problem .bigM cause := by
  intro refuses
  cases refuses

theorem not_refuses_default (problem : Linear.Problem Rat) (cause : SolveError Rat) :
    ¬ Refuses problem (Method.default problem) cause := by
  rw [Method.default]
  split
  · next standard =>
      intro refuses
      have passed := fun constraint member =>
        of_decide_eq_true (List.all_eq_true.mp standard constraint member)
      cases refuses with
      | notAbove constraint member other => exact other (passed constraint member).1
      | negative constraint member negative =>
          exact not_lt.mpr (passed constraint member).2 negative
  · exact not_refuses_bigM cause

theorem refuses_simplex_iff :
    (∃ cause, Refuses problem .simplex cause) ↔
      ∃ constraint ∈ problem.constraints, constraint.relation ≠ .le ∨ constraint.rhs < 0 := by
  constructor
  · rintro ⟨cause, refuses⟩
    cases refuses with
    | notAbove constraint member other => exact ⟨constraint, member, .inl other⟩
    | negative constraint member negative => exact ⟨constraint, member, .inr negative⟩
  · rintro ⟨constraint, member, other | negative⟩
    · exact ⟨_, .notAbove constraint member other⟩
    · exact ⟨_, .negative constraint member negative⟩

theorem refuses_dual_iff :
    (∃ cause, Refuses problem .dual cause) ↔
      ∃ constraint ∈ problem.constraints, constraint.relation = .eq := by
  constructor
  · rintro ⟨cause, refuses⟩
    cases refuses with
    | equation constraint member equation => exact ⟨constraint, member, equation⟩
  · rintro ⟨constraint, member, equation⟩
    exact ⟨_, .equation constraint member equation⟩

theorem refuses_binary_iff :
    (∃ cause, Refuses problem .binary cause) ↔ 16 < problem.dimension := by
  constructor
  · rintro ⟨cause, refuses⟩
    cases refuses with
    | tooMany many => exact many
  · exact fun many => ⟨_, .tooMany many⟩

theorem Refuses.of_graphical {cause : SolveError Rat} (refuses : Refuses problem .graphical cause) :
    cause = .planeDimension problem.dimension ∨ cause = .noFeasibleVertices := by
  cases refuses with
  | notPlanar => exact .inl rfl
  | noVertices => exact .inr rfl

/-- The runs of the tableau methods pivot on entries that are not zero.  So a
fault of theirs is always one of the problem. -/
theorem Refuses.ne_zeroPivot {cause : SolveError Rat} (refuses : Refuses problem method cause)
    (row column : Nat) : cause ≠ .zeroPivot row column := by
  cases refuses with
  | notAbove | negative | equation | notPlanar | noVertices | tooMany => exact nofun

theorem solveLinear_eq_planeDimension_iff (valid : problem.validate = .ok ()) :
    solveLinear name problem .graphical =
        .error (.unsolvable name (.planeDimension problem.dimension)) ↔
      problem.dimension ≠ 2 := by
  constructor
  · intro fails
    rcases refuses_of_error valid fails with ⟨cause, same, refuses⟩
    cases same
    cases refuses with
    | notPlanar space => exact space
  · intro space
    rcases (solveLinear_fails_iff valid).mpr ⟨_, .notPlanar space⟩ with ⟨fault, fails⟩
    rcases refuses_of_error valid fails with ⟨cause, rfl, refuses⟩
    cases refuses with
    | notPlanar => exact fails
    | noVertices planar => exact absurd planar space

/-! ## Linear models -/

/-- What is documented of the faults of a linear model, for each method that
may be asked for and for none. -/
structure FailsAsDocumented (name : String) (problem : Linear.Problem Rat) (balance : Bool) :
    Prop where
  shaped : problem.WellShaped
  byDefault : ∃ outcome, solve (.lp name problem) none balance = .ok outcome
  simplex : (∃ fault, solve (.lp name problem) (some .simplex) balance = .error fault) ↔
    ∃ constraint ∈ problem.constraints, constraint.relation ≠ .le ∨ constraint.rhs < 0
  bigM : ∃ outcome, solve (.lp name problem) (some .bigM) balance = .ok outcome
  dual : (∃ fault, solve (.lp name problem) (some .dual) balance = .error fault) ↔
    ∃ constraint ∈ problem.constraints, constraint.relation = .eq
  binary : (∃ fault, solve (.lp name problem) (some .binary) balance = .error fault) ↔
    16 < problem.variableNames.length
  planar : solve (.lp name problem) (some .graphical) balance =
      .error (.unsolvable name (.planeDimension problem.dimension)) ↔
    problem.variableNames.length ≠ 2
  graphical : ∀ fault, solve (.lp name problem) (some .graphical) balance = .error fault →
    fault = .unsolvable name (.planeDimension problem.dimension) ∨
      fault = .unsolvable name .noFeasibleVertices
  noZeroPivot : ∀ method model row column,
    solve (.lp name problem) method balance ≠ .error (.unsolvable model (.zeroPivot row column))
  refused : ∀ method fault, solve (.lp name problem) method balance = .error fault →
    ∃ cause, fault = .unsolvable name cause ∧
      Refuses problem (method.getD (Method.default problem)) cause
  answered : ∀ method outcome, solve (.lp name problem) method balance = .ok outcome →
    Answers name problem (method.getD (Method.default problem)) outcome

theorem solve_lp_eq (asked : Option Method) :
    solve (.lp name problem) asked balance =
      solveLinear name problem (asked.getD (Method.default problem)) :=
  rfl

/-- A linear model fails as is documented, whichever method is asked for.  The
problem comes from a registry, so it is valid, and what is left are the
conditions of the methods themselves. -/
theorem solve_failsAsDocumented (registry : Registry Rat) (key : String)
    (compiles : registry.compile key = .ok (.lp name problem)) (balance : Bool) :
    FailsAsDocumented name problem balance := by
  have valid : problem.validate = .ok () := Registry.valid_of_compile compiles
  have shaped := (Problem.validate_eq_ok_iff.mp valid).toWellShaped
  have refused : ∀ asked fault, solve (.lp name problem) asked balance = .error fault →
      ∃ cause, fault = .unsolvable name cause ∧
        Refuses problem (asked.getD (Method.default problem)) cause :=
    fun asked fault fails => refuses_of_error valid (solve_lp_eq asked ▸ fails)
  constructor
  · exact shaped
  · exact solveLinear_succeeds valid (not_refuses_default problem)
  · exact (solveLinear_fails_iff valid).trans refuses_simplex_iff
  · exact solveLinear_succeeds valid not_refuses_bigM
  · exact (solveLinear_fails_iff valid).trans refuses_dual_iff
  · rw [shaped.length_names]
    exact (solveLinear_fails_iff valid).trans refuses_binary_iff
  · rw [shaped.length_names]
    exact solveLinear_eq_planeDimension_iff valid
  · intro fault fails
    rcases refused _ fault fails with ⟨cause, rfl, refuses⟩
    exact refuses.of_graphical.imp (congrArg _) (congrArg _)
  · intro asked model row column fails
    rcases refused asked _ fails with ⟨cause, same, refuses⟩
    exact refuses.ne_zeroPivot row column (CompileError.unsolvable.inj same).2.symm
  · exact refused
  · exact fun asked outcome succeeds => answers_of_ok valid (solve_lp_eq asked ▸ succeeds)

theorem solve_failsAsDocumented_twoSided :
    ∃ problem, (Registry.empty.add (.lp twoSided)).compile "m" = .ok (.lp "m" problem) ∧
      FailsAsDocumented "m" problem false := by
  have accepted : (compileLinear twoSided).isOk = true := by decide +kernel
  cases found : compileLinear twoSided with
  | error fault =>
      rw [found] at accepted
      cases accepted
  | ok problem =>
      have compiles : (Registry.empty.add (.lp twoSided)).compile "m" = .ok (.lp "m" problem) :=
        Checks.map_eq_ok_iff.mpr ⟨problem, found, rfl⟩
      exact ⟨problem, compiles, solve_failsAsDocumented _ "m" compiles false⟩

end Model
end Optimum
