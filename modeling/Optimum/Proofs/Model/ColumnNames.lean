import Optimum.Linear.BigM
import Optimum.Linear.Dual
import Optimum.Model.Registry
import Optimum.Proofs.Linear.Feasibility
import Optimum.Proofs.Linear.SlackStart
import Optimum.Proofs.Model.Compiled
import Optimum.Proofs.Model.Occurrences
import Optimum.Proofs.Tableau.Labels

namespace Optimum

open Tableau

/-!
# Values by name

The columns of a tableau have a name each: those of the variables, which the
compiler keeps distinct, and a letter with a position for those that a method
adds.  A name of the second kind is reserved, so no variable has it.  Hence a
name leads to one column at most, and an answer gives under the name of a
variable, a slack or a surplus what the last tableau shows in that column.

Nothing here depends on arithmetic, so it holds for doubles as well.
-/

namespace Linear

/-! ## Letters with positions -/

/-- A position in decimal is not empty and has digits only. -/
theorem toList_toString (count : Nat) :
    (toString count).toList ≠ [] ∧ ∀ c ∈ (toString count).toList, c.isDigit = true := by
  have written : (toString count).toList = Nat.toDigits 10 count := Nat.toList_repr
  rw [written]
  exact ⟨Nat.toDigits_ne_nil, fun c => Nat.isDigit_of_mem_toDigits (by decide) (by decide)⟩

theorem toString_injective : Function.Injective (toString : Nat → String) := by
  intro first second same
  have digits : Nat.toDigits 10 first = Nat.toDigits 10 second := by
    rw [← Nat.toList_repr, ← Nat.toList_repr]
    exact congrArg String.toList same
  rw [← Nat.ofDigitChars_ten_toDigits (n := first), digits, Nat.ofDigitChars_ten_toDigits]

theorem nodup_numbered (letter : String) (count : Nat) : (numbered letter count).Nodup := by
  refine List.nodup_range.map fun first second same => ?_
  exact Nat.succ_injective (toString_injective ((String.append_right_inj letter).mp same))

theorem head_of_mem_numbered {letter name : String} {c : Char} (one : letter.toList = [c])
    {count : Nat} (member : name ∈ numbered letter count) :
    ∃ digits, name.toList = c :: digits ∧ digits ≠ [] ∧ ∀ d ∈ digits, d.isDigit = true := by
  rcases List.mem_map.mp member with ⟨position, -, rfl⟩
  exact ⟨_, by rw [String.toList_append, one]; rfl, toList_toString (position + 1)⟩

theorem ne_of_mem_numbered {first second left right : String} {c d : Char}
    (oneLeft : left.toList = [c]) (oneRight : right.toList = [d]) (different : c ≠ d)
    {count more : Nat} (inFirst : first ∈ numbered left count)
    (inSecond : second ∈ numbered right more) : first ≠ second := by
  rintro rfl
  rcases head_of_mem_numbered oneLeft inFirst with ⟨_, shown, -⟩
  rcases head_of_mem_numbered oneRight inSecond with ⟨_, again, -⟩
  rw [shown] at again
  exact different (List.cons.inj again).1

theorem isReserved_of_mem_numbered {letter name : String} {c : Char} (one : letter.toList = [c])
    (reserved : c = 's' ∨ c = 'e' ∨ c = 'A') {count : Nat} (member : name ∈ numbered letter count) :
    isReserved name = true := by
  rcases head_of_mem_numbered one member with ⟨digits, shown, nonempty, all⟩
  have decimal : digits.all Char.isDigit = true := List.all_eq_true.mpr all
  simp only [isReserved, shown, decimal, Bool.and_true, Bool.and_eq_true, Bool.or_eq_true,
    decide_eq_true_eq, or_assoc, Bool.not_eq_true', List.isEmpty_eq_false_iff]
  exact ⟨reserved, nonempty⟩

/-- Names that are not reserved are none of those that a method adds.
Validation reserves them for this. -/
theorem ne_of_not_reserved {names : List String}
    (free : ∀ name ∈ names, isReserved name = false) {letter : String} {c : Char}
    (one : letter.toList = [c]) (reserved : c = 's' ∨ c = 'e' ∨ c = 'A') {count : Nat} :
    ∀ name ∈ names, ∀ added ∈ numbered letter count, name ≠ added := by
  rintro name member _ inNumbered rfl
  have taken := isReserved_of_mem_numbered one reserved inNumbered
  rw [free name member] at taken
  cases taken

/-- The labels of the three kinds of added columns differ from each other and
from the names before them. -/
theorem nodup_labels {names : List String} (distinct : names.Nodup)
    (free : ∀ name ∈ names, isReserved name = false) (slack surplus artificial : Nat) :
    (names ++ numbered "s" slack ++ numbered "e" surplus ++ numbered "A" artificial).Nodup := by
  refine List.nodup_append.mpr ⟨List.nodup_append.mpr ⟨List.nodup_append.mpr ⟨distinct,
    nodup_numbered _ _, ne_of_not_reserved free rfl (.inl rfl)⟩, nodup_numbered _ _, ?_⟩,
    nodup_numbered _ _, ?_⟩
  · intro label member surplusLabel added
    rcases List.mem_append.mp member with name | slackLabel
    · exact ne_of_not_reserved free rfl (.inr (.inl rfl)) label name surplusLabel added
    · exact ne_of_mem_numbered rfl rfl (by decide) slackLabel added
  · intro label member artificialLabel added
    rcases List.mem_append.mp member with nameOrSlack | surplusLabel
    · rcases List.mem_append.mp nameOrSlack with name | slackLabel
      · exact ne_of_not_reserved free rfl (.inr (.inr rfl)) label name artificialLabel added
      · exact ne_of_mem_numbered rfl rfl (by decide) slackLabel added
    · exact ne_of_mem_numbered rfl rfl (by decide) surplusLabel added

/-! ## Values in the order of the columns -/

variable {α : Type}

theorem NamedValue.find?_of_mem {values : List (NamedValue α)}
    (distinct : (values.map NamedValue.name).Nodup) {entry : NamedValue α}
    (member : entry ∈ values) : find? values entry.name = some entry.value := by
  have found : (values.find? fun other => other.name = entry.name).isSome = true :=
    List.find?_isSome.mpr ⟨entry, member, decide_eq_true rfl⟩
  rcases Option.isSome_iff_exists.mp found with ⟨other, first⟩
  have same : other.name = entry.name := by simpa using List.find?_some first
  rw [find?, first, List.inj_on_of_nodup_map distinct (List.mem_of_find?_eq_some first) member same]
  rfl

theorem NamedValue.find?_eq_none {values : List (NamedValue α)} {name : String}
    (absent : name ∉ values.map NamedValue.name) : find? values name = none := by
  rw [find?, Option.map_eq_none_iff, List.find?_eq_none]
  intro entry member same
  exact absent (List.mem_map.mpr ⟨entry, member, of_decide_eq_true same⟩)

variable [Scalar α]

theorem map_name_columnValues {tableau : Tableau α} {reported others : List String}
    (labels : tableau.columns = reported ++ others) :
    (columnValues tableau (List.range reported.length)).map NamedValue.name = reported := by
  refine List.ext_getElem (by simp [columnValues]) fun column inside bounded => ?_
  simp only [columnValues, List.getElem_map, List.getElem_range, label, labels]
  rw [List.getD_append _ _ _ _ bounded, List.getD_eq_getElem _ _ bounded]

theorem columnValues_append (tableau : Tableau α) (first more : Nat) :
    columnValues tableau (List.range first) ++
        columnValues tableau ((List.range more).map (first + ·)) =
      columnValues tableau (List.range (first + more)) := by
  rw [List.range_add, columnValues, columnValues, columnValues, List.map_append]

/-- Under the labels of its first columns a tableau's values are found. -/
theorem find?_columnValues {tableau : Tableau α} {reported others : List String}
    (labels : tableau.columns = reported ++ others) (distinct : tableau.columns.Nodup)
    {column : Nat} {name : String} (located : tableau.columns[column]? = some name)
    (inReported : name ∈ reported) :
    NamedValue.find? (columnValues tableau (List.range reported.length)) name =
      some (tableau.valueOf column) := by
  have unrepeated : reported.Nodup := (List.nodup_append.mp (labels ▸ distinct)).1
  rcases List.getElem?_of_mem inReported with ⟨position, found⟩
  have inside : position < reported.length := (List.getElem?_eq_some_iff.mp found).1
  have same : tableau.columns[position]? = some name := by
    rw [labels, List.getElem?_append_left inside, found]
  have bounded : position < tableau.columns.length := by
    rw [labels, List.length_append]
    exact Nat.lt_add_right _ inside
  obtain rfl : position = column :=
    (List.getElem?_inj bounded distinct).mp (same.trans located.symm)
  have labelled : tableau.label position = name := by
    rw [label, List.getD_eq_getElem?_getD, located, Option.getD_some]
  rw [← labelled]
  have listed : ⟨tableau.label position, tableau.valueOf position⟩ ∈
      columnValues tableau (List.range reported.length) :=
    List.mem_map.mpr ⟨position, List.mem_range.mpr inside, rfl⟩
  rw [← map_name_columnValues labels] at unrepeated
  exact NamedValue.find?_of_mem unrepeated listed

/-! ## Answers -/

/-- The names that an answer gives values for, and those of its artificial
columns.  Together they label every recorded tableau, and no name is given
twice.  Where there are values, each reported name has the one that the last
tableau shows in its column, and no other name has any. -/
structure Solution.NamesColumns (solution : Solution α) (reported artificial : List String) :
    Prop where
  columns_eq : ∀ snapshot ∈ solution.iterations, snapshot.tableau.columns = reported ++ artificial
  distinct : ∀ snapshot ∈ solution.iterations, snapshot.tableau.columns.Nodup
  value? : solution.status = .optimal ∨ solution.status = .iterationLimit →
    ∃ last, solution.iterations.getLast? = some last ∧
      (∀ column name, last.tableau.columns[column]? = some name → name ∈ reported →
        solution.value? name = some (last.tableau.valueOf column)) ∧
      ∀ name ∉ reported, solution.value? name = none

/-- An answer that keeps its start and the run from there, and reports the values
of its first columns. -/
structure Solution.Reports (solution : Solution α) (start : Tableau α) (count : Nat) : Prop where
  shows : ∃ event finished, Labelled start finished ∧
    solution.iterations = ⟨0, start, event⟩ :: finished.iterations ∧
    (solution.status = .optimal ∨ solution.status = .iterationLimit →
      solution.variableValues ++ solution.slackValues =
        columnValues finished.last (List.range count))

theorem Solution.Reports.namesColumns {solution : Solution α} {start : Tableau α}
    {count : Nat} {reported artificial : List String} (reports : solution.Reports start count)
    (labels : start.columns = reported ++ artificial) (counted : reported.length = count)
    (distinct : start.columns.Nodup) : solution.NamesColumns reported artificial := by
  subst counted
  rcases reports.shows with ⟨event, finished, labelled, recorded, values⟩
  have columns : ∀ snapshot ∈ solution.iterations, snapshot.tableau.columns = start.columns := by
    rw [recorded]
    exact List.forall_mem_cons.mpr ⟨rfl, labelled.columns_eq⟩
  refine ⟨fun snapshot member => (columns snapshot member).trans labels,
    fun snapshot member => (columns snapshot member).symm ▸ distinct, fun answered => ?_⟩
  have final := labelled.getLast?_eq
  rw [← List.map_cons (f := Iteration.tableau) (a := ⟨0, start, event⟩), ← recorded,
    List.getLast?_map] at final
  rcases Option.map_eq_some_iff.mp final with ⟨last, isLast, lastTableau⟩
  have lastLabels : finished.last.columns = reported ++ artificial :=
    labelled.columns_last.trans labels
  have lastDistinct : finished.last.columns.Nodup := labelled.columns_last.symm ▸ distinct
  refine ⟨last, isLast, fun column name located inReported => ?_, fun name absent => ?_⟩
  · rw [lastTableau] at located ⊢
    rw [Solution.value?, values answered]
    exact find?_columnValues lastLabels lastDistinct located inReported
  · rw [Solution.value?, values answered]
    exact NamedValue.find?_eq_none (by rwa [map_name_columnValues lastLabels])

/-! ## The three methods -/

variable {problem : Problem α}

theorem reports_of_simplex {limits : Limits α} {solution : Solution α}
    (answers : simplex limits problem = .ok solution) :
    solution.Reports (slackTableau problem) (problem.dimension + problem.constraints.length) := by
  rcases Checks.check_bind_eq_ok_iff.mp answers with ⟨-, checked⟩
  rcases Checks.check_bind_eq_ok_iff.mp checked with ⟨-, started⟩
  rcases Checks.bind_eq_ok_iff.mp started with ⟨finished, runs, same⟩
  have values := columnValues_append finished.last problem.dimension problem.constraints.length
  refine ⟨⟨.slackBasis, finished, labelled_of_run runs, ?_⟩⟩
  split at same <;> cases same
  · exact ⟨rfl, nofun⟩
  · exact ⟨rfl, fun _ => values⟩
  · exact ⟨rfl, fun _ => values⟩

/-- The columns that the method of penalties adds to a problem. -/
def Problem.addedColumns (problem : Problem α) : BigM.Counts :=
  .of (problem.constraints.map BigM.normalized)

theorem columns_eliminatePenalties (firstArtificial : Nat) (penalty : α) (tableau : Tableau α) :
    (BigM.eliminatePenalties firstArtificial penalty tableau).columns = tableau.columns := by
  rw [BigM.eliminatePenalties]
  generalize tableau.basis.zipIdx = placed
  induction placed generalizing tableau with
  | nil => rfl
  | cons first others inductionHypothesis =>
      rcases first with ⟨column, row⟩
      rw [List.foldl_cons, inductionHypothesis]
      dsimp only
      split <;> rfl

theorem reports_of_bigM {options : BigM.Options α} {solution : Solution α}
    (answers : bigM options problem = .ok solution) :
    ∃ start, start.columns = problem.variableNames ++ numbered "s" problem.addedColumns.slack ++
        numbered "e" problem.addedColumns.surplus ++
        numbered "A" problem.addedColumns.artificial ∧
      solution.Reports start
        (problem.dimension + (problem.addedColumns.slack + problem.addedColumns.surplus)) := by
  rcases Checks.check_bind_eq_ok_iff.mp answers with ⟨-, started⟩
  rcases Checks.bind_eq_ok_iff.mp started with ⟨finished, runs, same⟩
  have values := columnValues_append finished.last problem.dimension
    (problem.addedColumns.slack + problem.addedColumns.surplus)
  refine ⟨_, columns_eliminatePenalties _ _ _,
    ⟨.penalized options.penalty, finished, labelled_of_run runs, ?_⟩⟩
  split at same
  · cases same
    exact ⟨rfl, nofun⟩
  · dsimp only at same
    split at same <;> cases same
    · exact ⟨rfl, fun _ => values⟩
    · exact ⟨rfl, nofun⟩
  · cases same
    exact ⟨rfl, fun _ => values⟩

theorem variableNames_dual {dual : Problem α} (succeeds : problem.dual = .ok dual) :
    ∃ count, dual.variableNames = numbered "y" count := by
  rcases Checks.check_bind_eq_ok_iff.mp succeeds with ⟨-, bounded⟩
  rcases Checks.bind_eq_ok_iff.mp bounded with ⟨bounds, -, same⟩
  cases same
  exact ⟨bounds.length, rfl⟩

theorem nodup_columns_of_dualSimplex {limits : Limits α} {solution : DualSolution α}
    (answers : dualSimplex limits problem = .ok solution) :
    ∀ snapshot ∈ solution.iterations, snapshot.tableau.columns.Nodup := by
  rcases Checks.bind_eq_ok_iff.mp answers with ⟨dual, dualized, started⟩
  rcases Checks.bind_eq_ok_iff.mp started with ⟨finished, runs, same⟩
  rcases variableNames_dual dualized with ⟨count, prices⟩
  have distinct : (dualTableau dual).columns.Nodup := by
    rw [dualTableau, prices]
    exact List.nodup_append.mpr ⟨nodup_numbered _ _, nodup_numbered _ _,
      fun _ price _ slack => ne_of_mem_numbered rfl rfl (by decide) price slack⟩
  cases same
  refine List.forall_mem_cons.mpr ⟨distinct, fun snapshot member => ?_⟩
  rw [(labelled_of_run runs).columns_eq snapshot member]
  exact distinct

end Linear

namespace Model

open Linear

variable {α : Type} [Scalar α]

/-! ## Compiled problems -/

theorem nodup_variableNames_of_compileLinear {model : Language.LinearModel α}
    {problem : Problem α} (compiles : compileLinear model = .ok problem) :
    problem.variableNames.Nodup := by
  unfold compileLinear at compiles
  split at compiles
  · cases compiles
  · rcases Checks.bind_eq_ok_iff.mp compiles with ⟨objectiveForm, -, rest⟩
    split at rest
    · cases rest
    · rcases Checks.bind_eq_ok_iff.mp rest with ⟨forms, -, checked⟩
      rcases Checks.check_bind_eq_ok_iff.mp checked with ⟨-, same⟩
      cases same
      exact nodup_collect List.nodup_nil

/-- The names of a compiled problem are distinct, and a method may add its own. -/
theorem Registry.freeNames_of_compile {registry : Registry α} {name label : String}
    {problem : Problem α} (compiles : registry.compile name = .ok (.lp label problem)) :
    problem.variableNames.Nodup ∧ problem.variableNames.length = problem.dimension ∧
      ∀ name ∈ problem.variableNames, isReserved name = false := by
  have accepted := Problem.validate_eq_ok_iff_accepted.mp (Registry.valid_of_compile compiles)
  refine ⟨?_, accepted.length_names, accepted.not_reserved⟩
  rw [Registry.compile] at compiles
  split at compiles
  · cases compiles
  · next item _ =>
      cases item with
      | lp model =>
          rcases Checks.map_eq_ok_iff.mp compiles with ⟨_, compiled, same⟩
          cases same
          exact nodup_variableNames_of_compileLinear compiled
      | assignment model =>
          rcases Checks.map_eq_ok_iff.mp compiles with ⟨_, -, same⟩
          cases same
      | transport model =>
          rcases Checks.map_eq_ok_iff.mp compiles with ⟨_, -, same⟩
          cases same

/-- In the answers to a compiled problem a name leads to one column at most, and
the values are found under the names of variables, slacks and surpluses only.
Validation keeps the names of variables apart from those that a method adds. -/
theorem value?_unambiguous :
    (∀ (registry : Registry α) (name label : String) (problem : Problem α),
      registry.compile name = .ok (.lp label problem) →
      (∀ limits solution, simplex limits problem = .ok solution →
        solution.NamesColumns
          (problem.variableNames ++ numbered "s" problem.constraints.length) []) ∧
      ∀ options solution, bigM options problem = .ok solution →
        solution.NamesColumns
          (problem.variableNames ++ numbered "s" problem.addedColumns.slack ++
            numbered "e" problem.addedColumns.surplus)
          (numbered "A" problem.addedColumns.artificial)) ∧
    ∀ (problem : Problem α), problem.validate = .ok () → ∀ limits solution,
      dualSimplex limits problem = .ok solution →
        ∀ snapshot ∈ solution.iterations, snapshot.tableau.columns.Nodup := by
  refine ⟨fun registry name label problem compiles => ?_,
    fun problem _ limits solution => nodup_columns_of_dualSimplex⟩
  rcases Registry.freeNames_of_compile compiles with ⟨distinct, length_names, free⟩
  refine ⟨fun limits solution answers => ?_, fun options solution answers => ?_⟩
  · refine (reports_of_simplex answers).namesColumns (List.append_nil _).symm ?_ ?_
    · rw [List.length_append, length_names, length_numbered]
    · simpa only [slackTableau, numbered, List.range_zero, List.map_nil, List.append_nil] using
        nodup_labels distinct free problem.constraints.length 0 0
  · rcases reports_of_bigM answers with ⟨start, labels, reports⟩
    refine reports.namesColumns labels ?_ (labels ▸ nodup_labels distinct free _ _ _)
    rw [List.length_append, List.length_append, length_names, length_numbered,
      length_numbered, Nat.add_assoc]

/-- A model of two products that share two stores. -/
def workshop : Language.LinearModel Rat :=
  let x : Language.Expression Rat := .variable "x" default
  let y : Language.Expression Rat := .variable "y" default
  { span := default
    name := "workshop"
    objective := some ⟨default, .max, .binary x .add y⟩
    constraints := [
      ⟨default, none, .binary x .add (.binary (.number 2) .multiply y), .le, .number 4⟩,
      ⟨default, none, x, .le, .number 3⟩] }

/-- The same products where one of the first is ordered and there is exactly one
of the second, so that all three kinds of added columns occur. -/
def orders : Language.LinearModel Rat :=
  let x : Language.Expression Rat := .variable "x" default
  let y : Language.Expression Rat := .variable "y" default
  { span := default
    name := "orders"
    objective := some ⟨default, .max, .binary x .add y⟩
    constraints := [
      ⟨default, none, .binary x .add (.binary (.number 2) .multiply y), .le, .number 4⟩,
      ⟨default, none, x, .ge, .number 1⟩,
      ⟨default, none, y, .eq, .number 1⟩] }

theorem value?_unambiguous_workshop :
    ∃ problem ordered solution penalized priced,
      ((Registry.empty.add (.lp workshop)).add (.lp orders)).compile "workshop" =
        .ok (.lp "workshop" problem) ∧
      ((Registry.empty.add (.lp workshop)).add (.lp orders)).compile "orders" =
        .ok (.lp "orders" ordered) ∧
      problem.validate = .ok () ∧
      simplex .standard problem = .ok solution ∧ solution.status = .optimal ∧
      solution.NamesColumns (problem.variableNames ++ numbered "s" problem.constraints.length) [] ∧
      bigM .standard ordered = .ok penalized ∧ penalized.status = .optimal ∧
      penalized.NamesColumns (["x", "y"] ++ ["s1"] ++ ["e1"]) ["A1", "A2"] ∧
      dualSimplex .standard problem = .ok priced ∧
      ∀ snapshot ∈ priced.iterations, snapshot.tableau.columns.Nodup := by
  let problem : Problem Rat :=
    ⟨["x", "y"], .max, [1, 1], [⟨"R1", [1, 2], .le, 4⟩, ⟨"R2", [1, 0], .le, 3⟩]⟩
  let ordered : Problem Rat :=
    ⟨["x", "y"], .max, [1, 1],
      [⟨"R1", [1, 2], .le, 4⟩, ⟨"R2", [1, 0], .ge, 1⟩, ⟨"R3", [0, 1], .eq, 1⟩]⟩
  let registry : Registry Rat := (Registry.empty.add (.lp workshop)).add (.lp orders)
  have compiles : registry.compile "workshop" = .ok (.lp "workshop" problem) := by
    decide +kernel
  have orderedCompiles : registry.compile "orders" = .ok (.lp "orders" ordered) := by
    decide +kernel
  have valid : problem.validate = .ok () := by decide +kernel
  have solved : (simplex .standard problem).map Solution.status = .ok .optimal := by decide +kernel
  have charged : (bigM .standard ordered).map Solution.status = .ok .optimal := by decide +kernel
  have dualized : (dualSimplex .standard problem).map DualSolution.status = .ok .optimal := by
    decide +kernel
  rcases Checks.map_eq_ok_iff.mp solved with ⟨solution, answers, optimal⟩
  rcases Checks.map_eq_ok_iff.mp charged with ⟨penalized, penalizedAnswers, penalizedOptimal⟩
  rcases Checks.map_eq_ok_iff.mp dualized with ⟨priced, dualAnswers, -⟩
  rcases value?_unambiguous (α := Rat) with ⟨compiled, validated⟩
  have named := (compiled _ "workshop" "workshop" problem compiles).1 _ solution answers
  have penalizedNamed :=
    (compiled _ "orders" "orders" ordered orderedCompiles).2 _ penalized penalizedAnswers
  exact ⟨problem, ordered, solution, penalized, priced, compiles, orderedCompiles, valid, answers,
    optimal, named, penalizedAnswers, penalizedOptimal, penalizedNamed, dualAnswers,
    validated problem valid _ priced dualAnswers⟩

end Model
end Optimum
