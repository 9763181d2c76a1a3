import Mathlib.Data.Nat.Digits.Lemmas
import Optimum.Linear.Binary
import Optimum.Proofs.FirstBest
import Optimum.Proofs.Linear.Feasibility

namespace Optimum
namespace Linear

open Scalar

/-!
# Every vector of zeros and ones is tried

A vector of zeros and ones is a number in binary digits, so the vectors of a
length are the numbers below a power of two, each of them once.  The method
goes through these numbers, keeps the feasible vectors and answers with the
first of the best among them.
-/

namespace Binary

/-! ## Vectors and numbers -/

/-- The number whose binary digits a vector holds, the lowest one first. -/
def number (digits : List Bool) : Nat :=
  Nat.ofDigits 2 (digits.map Bool.toNat)

theorem number_cons (digit : Bool) (digits : List Bool) :
    number (digit :: digits) = digit.toNat + 2 * number digits := by
  rw [number, List.map_cons, Nat.ofDigits_cons, number]

theorem number_lt (digits : List Bool) : number digits < 2 ^ digits.length := by
  rw [← List.length_map (f := Bool.toNat)]
  refine Nat.ofDigits_lt_base_pow_length one_lt_two fun digit member => ?_
  rcases List.mem_map.mp member with ⟨bit, -, rfl⟩
  exact Bool.toNat_lt bit

theorem length_digits (count value : Nat) : (digits count value).length = count := by
  induction count generalizing value with
  | zero => rfl
  | succ count inductionHypothesis => rw [digits, List.length_cons, inductionHypothesis]

/-- The digits of a number are those of the number that a vector holds. -/
theorem digits_number (vector : List Bool) : digits vector.length (number vector) = vector := by
  induction vector with
  | nil => rfl
  | cons digit vector inductionHypothesis =>
      have bit := Bool.toNat_lt digit
      have half : (digit.toNat + 2 * number vector) / 2 = number vector := by omega
      have parity : decide ((digit.toNat + 2 * number vector) % 2 = 1) = digit := by
        cases digit with
        | false => simp
        | true => simp
      rw [number_cons, List.length_cons, digits, half, parity, inductionHypothesis]

theorem number_digits {count value : Nat} (below : value < 2 ^ count) :
    number (digits count value) = value := by
  induction count generalizing value with
  | zero => exact (Nat.lt_one_iff.mp below).symm
  | succ count inductionHypothesis =>
      have half : value / 2 < 2 ^ count := by
        rw [pow_succ] at below
        omega
      have lowest : (decide (value % 2 = 1)).toNat = value % 2 := by
        rcases Nat.mod_two_eq_zero_or_one value with even | odd
        · rw [even]; rfl
        · rw [odd]; rfl
      rw [digits, number_cons, inductionHypothesis half, lowest]
      exact Nat.mod_add_div value 2

/-! ## The candidates -/

section Candidates

variable {α : Type} [Scalar α] {problem : Problem α} {tolerance : α} {candidate : Candidate α}

theorem candidate?_eq_some_iff {value : Nat} :
    candidate? problem tolerance value = some candidate ↔
      candidate.digits = digits problem.dimension value ∧
        problem.isFeasible (point candidate.digits) tolerance = true ∧
        candidate.objective = problem.evaluate (point candidate.digits) := by
  rcases candidate with ⟨vector, objective⟩
  rw [candidate?]
  split
  · next feasible =>
      rw [Option.some.injEq, Candidate.mk.injEq]
      constructor
      · rintro ⟨rfl, rfl⟩
        exact ⟨rfl, feasible, rfl⟩
      · rintro ⟨digits_eq, -, objective_eq⟩
        cases digits_eq
        exact ⟨rfl, objective_eq.symm⟩
  · next infeasible =>
      refine iff_of_false nofun ?_
      rintro ⟨digits_eq, feasible, -⟩
      cases digits_eq
      exact infeasible feasible

/-- The feasible vectors in the order in which they are tried. -/
def candidates (problem : Problem α) (tolerance : α) : List (Candidate α) :=
  (List.range (2 ^ problem.dimension)).filterMap (candidate? problem tolerance)

theorem mem_candidates_iff :
    candidate ∈ candidates problem tolerance ↔
      candidate.digits.length = problem.dimension ∧
        problem.isFeasible (point candidate.digits) tolerance = true ∧
        candidate.objective = problem.evaluate (point candidate.digits) := by
  rw [candidates, List.mem_filterMap]
  constructor
  · rintro ⟨value, -, found⟩
    rcases candidate?_eq_some_iff.mp found with ⟨digits_eq, holds⟩
    exact ⟨by rw [digits_eq, length_digits], holds⟩
  · rintro ⟨length_eq, holds⟩
    refine ⟨number candidate.digits, List.mem_range.mpr ?_, candidate?_eq_some_iff.mpr ⟨?_, holds⟩⟩
    · exact length_eq ▸ number_lt candidate.digits
    · rw [← length_eq, digits_number]

theorem pairwise_candidates (problem : Problem α) (tolerance : α) :
    (candidates problem tolerance).Pairwise
      fun first second => number first.digits < number second.digits := by
  have ordered : (List.range (2 ^ problem.dimension)).Pairwise fun first second =>
      number (digits problem.dimension first) < number (digits problem.dimension second) := by
    refine List.pairwise_lt_range.imp_of_mem fun firstMember secondMember before => ?_
    rwa [number_digits (List.mem_range.mp firstMember),
      number_digits (List.mem_range.mp secondMember)]
  refine List.Pairwise.filterMap _ ?_ ordered
  intro first second before left leftFound right rightFound
  rwa [(candidate?_eq_some_iff.mp leftFound).1, (candidate?_eq_some_iff.mp rightFound).1]

end Candidates

/-! ## The best of them -/

section Best

variable {sense : Sense}

/-- The better of two candidates, and of equal ones the first. -/
def preferred (sense : Sense) (champion candidate : Candidate Rat) : Candidate Rat :=
  if sense.sign * champion.objective < sense.sign * candidate.objective then candidate
  else champion

theorem best?_cons (sense : Sense) (first : Candidate Rat) (others : List (Candidate Rat)) :
    best? sense (first :: others) = some (others.foldl (preferred sense) first) := by
  refine List.foldl_hom some fun champion candidate => ?_
  rw [preferred]
  exact (apply_ite some _ _ _).symm

theorem isFirstBest_preferred (sense : Sense) (first : Candidate Rat)
    (others : List (Candidate Rat)) :
    IsFirstBest (fun one other => sense.Better one.objective other.objective) (first :: others)
      (others.foldl (preferred sense) first) := by
  simp only [Sense.better_iff]
  exact isFirstBest_foldl (fun _ _ => rfl) first others

end Best

end Binary

section NamedValues

variable {α : Type} {names : List String} {values : List α}

theorem map_name_zipWith (same : names.length = values.length) :
    (List.zipWith NamedValue.mk names values).map NamedValue.name = names := by
  rw [List.map_zipWith, ← List.map_uncurry_zip_eq_zipWith]
  exact List.map_fst_zip same.le

theorem map_value_zipWith (same : names.length = values.length) :
    (List.zipWith NamedValue.mk names values).map NamedValue.value = values := by
  rw [List.map_zipWith, ← List.map_uncurry_zip_eq_zipWith]
  exact List.map_snd_zip same.ge

end NamedValues

/-- What an answer says about the vectors of zeros and ones: all are tried once,
in the order of their numbers, and the first of the best is chosen. -/
structure Binary.Solution.Enumerates (problem : Problem Rat) (tolerance : Rat)
    (solution : Binary.Solution Rat) : Prop where
  /-- The candidates are the feasible vectors of the right length. -/
  mem_candidates_iff : ∀ candidate, candidate ∈ solution.candidates ↔
    candidate.digits.length = problem.dimension ∧
      problem.isFeasible (Binary.point candidate.digits) tolerance = true ∧
      candidate.objective = problem.evaluate (Binary.point candidate.digits)
  /-- They come in the order of their numbers, so none comes twice. -/
  ascending : solution.candidates.Pairwise fun first second =>
    Binary.number first.digits < Binary.number second.digits
  infeasible_iff : solution.status = .infeasible ↔ solution.candidates = []
  unanswered : solution.candidates = [] →
    solution.objectiveValue = none ∧ solution.variableValues = []
  answered : solution.candidates ≠ [] → ∃ champion,
    IsFirstBest (fun one other => problem.sense.Better one.objective other.objective)
        solution.candidates champion ∧
      solution.status = .optimal ∧ solution.objectiveValue = some champion.objective ∧
      solution.variableValues.map NamedValue.name = problem.variableNames ∧
      solution.variableValues.map NamedValue.value = Binary.point champion.digits
  evaluated_eq : solution.evaluated = 2 ^ problem.dimension

/-- Every validated problem with no more variables than allowed is answered,
from all vectors of zeros and ones that are feasible.  The answer lists them in
the order of their numbers, and chooses the first of the best. -/
theorem binary_enumerates (problem : Problem Rat) (options : Binary.Options Rat)
    (valid : problem.validate = .ok ()) (few : problem.dimension ≤ options.maxVariables) :
    ∃ solution, binary options problem = .ok solution ∧
      solution.Enumerates problem options.tolerance := by
  have shaped := (Problem.validate_eq_ok_iff.mp valid).toWellShaped
  have tried : (List.range (Nat.pow 2 problem.dimension)).filterMap
      (Binary.candidate? problem options.tolerance) =
        Binary.candidates problem options.tolerance := rfl
  have mem_iff : ∀ candidate, candidate ∈ Binary.candidates problem options.tolerance ↔
      candidate.digits.length = problem.dimension ∧
        problem.isFeasible (Binary.point candidate.digits) options.tolerance = true ∧
        candidate.objective = problem.evaluate (Binary.point candidate.digits) :=
    fun _ => Binary.mem_candidates_iff
  have ascending := Binary.pairwise_candidates problem options.tolerance
  simp only [binary, valid, bind, Except.bind, if_neg (not_lt.mpr few), tried]
  cases listed : Binary.candidates problem options.tolerance with
  | nil =>
      rw [listed] at mem_iff ascending
      exact ⟨_, rfl, mem_iff, ascending, iff_of_true rfl rfl, fun _ => ⟨rfl, rfl⟩,
        fun nonempty => absurd rfl nonempty, rfl⟩
  | cons first others =>
      rw [listed] at mem_iff ascending
      let champion := others.foldl (Binary.preferred problem.sense) first
      have best := Binary.isFirstBest_preferred problem.sense first others
      have length_eq : problem.variableNames.length =
          (Binary.point champion.digits : List Rat).length := by
        rw [Binary.point, List.length_map, ((mem_iff champion).mp best.mem).1, shaped.length_names]
      simp only [Binary.best?_cons]
      refine ⟨_, rfl, mem_iff, ascending, iff_of_false nofun nofun, nofun, fun _ =>
        ⟨champion, best, rfl, rfl, map_name_zipWith length_eq, map_value_zipWith length_eq⟩, rfl⟩

/-- Two tools of equal price, of which one is needed.  The first one that is
tried is bought. -/
def tools : Problem Rat where
  variableNames := ["saw", "axe", "rope"]
  sense := .min
  objective := [4, 4, 1]
  constraints := [⟨"cut", [1, 1, 0], .ge, 1⟩, ⟨"weight", [2, 2, 3], .le, 5⟩]

theorem binary_enumerates_tools :
    tools.validate = .ok () ∧
      tools.dimension ≤ (Binary.Options.standard : Binary.Options Rat).maxVariables ∧
      ∃ solution, binary .standard tools = .ok solution ∧
        solution.Enumerates tools (Binary.Options.standard : Binary.Options Rat).tolerance ∧
        solution.objectiveValue = some 4 ∧
        solution.variableValues = [⟨"saw", 1⟩, ⟨"axe", 0⟩, ⟨"rope", 0⟩] := by
  have valid : tools.validate = .ok () := by decide +kernel
  have few : tools.dimension ≤ (Binary.Options.standard : Binary.Options Rat).maxVariables := by
    decide +kernel
  have found : ((binary .standard tools).map fun solution : Binary.Solution Rat =>
      (solution.objectiveValue, solution.variableValues)).toOption =
        some (some 4, [⟨"saw", 1⟩, ⟨"axe", 0⟩, ⟨"rope", 0⟩]) := by decide +kernel
  rcases binary_enumerates tools .standard valid few with ⟨solution, answers, enumerates⟩
  rw [answers] at found
  rcases Prod.mk.inj (Option.some.inj found) with ⟨value, values⟩
  exact ⟨valid, few, solution, answers, enumerates, value, values⟩

end Linear
end Optimum
