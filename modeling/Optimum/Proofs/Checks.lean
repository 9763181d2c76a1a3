import Mathlib.Data.List.Forall2

namespace Optimum
namespace Checks

/-!
# When checks succeed

A chain of steps succeeds if each step does, and a list of checks if every
member passes.
-/

variable {ε α β : Type}

theorem bind_eq_ok_iff {first : Except ε α} {second : α → Except ε β} {result : β} :
    (first >>= second) = .ok result ↔
      ∃ value, first = .ok value ∧ second value = .ok result := by
  cases first with
  | error fault =>
      constructor
      · intro impossible
        cases impossible
      · rintro ⟨value, impossible, -⟩
        cases impossible
  | ok value =>
      constructor
      · intro succeeds
        exact ⟨value, rfl, succeeds⟩
      · rintro ⟨same, found, succeeds⟩
        cases found
        exact succeeds

/-- A check passes together with what follows it.  Definitions that begin with
checks are opened by this lemma, one check at a time. -/
theorem check_bind_eq_ok_iff {check : Except ε Unit} {next : Except ε β} {result : β} :
    (check >>= fun _ => next) = .ok result ↔ check = .ok () ∧ next = .ok result := by
  rw [bind_eq_ok_iff]
  constructor
  · rintro ⟨⟨⟩, passed, succeeds⟩
    exact ⟨passed, succeeds⟩
  · rintro ⟨passed, succeeds⟩
    exact ⟨(), passed, succeeds⟩

theorem bind_eq_error_iff {first : Except ε α} {second : α → Except ε β} {fault : ε} :
    (first >>= second) = .error fault ↔
      first = .error fault ∨ ∃ value, first = .ok value ∧ second value = .error fault := by
  cases first with
  | error other =>
      constructor
      · intro same
        cases same
        exact .inl rfl
      · rintro (same | ⟨value, impossible, -⟩)
        · cases same
          rfl
        · cases impossible
  | ok value =>
      constructor
      · intro fails
        exact .inr ⟨value, rfl, fails⟩
      · rintro (impossible | ⟨same, found, fails⟩)
        · cases impossible
        · cases found
          exact fails

/-- A computation fails where it does not succeed. -/
theorem exists_error_iff {result : Except ε α} :
    (∃ fault, result = .error fault) ↔ ¬ ∃ value, result = .ok value := by
  cases result <;> simp

theorem map_eq_error_iff {convert : α → β} {computation : Except ε α} {fault : ε} :
    computation.map convert = .error fault ↔ computation = .error fault := by
  cases computation <;> simp [Except.map]

theorem map_eq_ok_iff {convert : α → β} {computation : Except ε α} {result : β} :
    computation.map convert = .ok result ↔
      ∃ value, computation = .ok value ∧ convert value = result := by
  cases computation <;> simp [Except.map]

theorem map_bind {γ : Type} {convert : β → γ} {first : Except ε α} {second : α → Except ε β} :
    (first >>= second).map convert = first >>= fun value => (second value).map convert := by
  cases first <;> rfl

/-- That a computation fails with the fault, if there is one.  The faults of a
chain can then be composed without a look at its values. -/
inductive FailsWith : Except ε β → Option ε → Prop
  | ok (value : β) : FailsWith (.ok value) none
  | error (fault : ε) : FailsWith (.error fault) (some fault)

namespace FailsWith

variable {γ : Type} {computation : Except ε β} {fault? : Option ε}

theorem map (fails : FailsWith computation fault?) (convert : β → γ) :
    FailsWith (computation.map convert) fault? := by
  cases fails with
  | ok value => exact .ok (convert value)
  | error fault => exact .error fault

/-- In a chain the first fault counts.  What comes after it is not looked at, so
nothing need be known of it. -/
theorem bind {onward : β → Except ε γ} {next? : Option ε} (fails : FailsWith computation fault?)
    (after : ∀ value, computation = .ok value → FailsWith (onward value) next?) :
    FailsWith (computation >>= onward) (fault?.or next?) := by
  cases fails with
  | ok value => exact after value rfl
  | error fault => exact .error fault

theorem succeeds_iff (fails : FailsWith computation fault?) :
    (∃ value, computation = .ok value) ↔ fault? = none := by
  cases fails with
  | ok value => exact ⟨fun _ => rfl, fun _ => ⟨value, rfl⟩⟩
  | error fault => exact ⟨nofun, nofun⟩

theorem eq_error_iff (fails : FailsWith computation fault?) {fault : ε} :
    computation = .error fault ↔ fault? = some fault := by
  cases fails with
  | ok value => exact ⟨nofun, nofun⟩
  | error found => rw [Except.error.injEq, Option.some.injEq]

end FailsWith

/-- A computation that succeeds well wherever it is accepted, and nowhere else,
succeeds well whenever it succeeds. -/
theorem accepted_iff_and_forall {result : Except ε α} {accepted : Prop} {Good : α → Prop}
    (total : accepted → ∃ value, result = .ok value ∧ Good value)
    (only : ∀ value, result = .ok value → accepted) :
    (accepted ↔ ∃ value, result = .ok value) ∧ ∀ value, result = .ok value → Good value := by
  refine ⟨⟨fun holds => ?_, fun ⟨value, succeeds⟩ => only value succeeds⟩, fun value succeeds => ?_⟩
  · rcases total holds with ⟨value, succeeds, -⟩
    exact ⟨value, succeeds⟩
  · rcases total (only value succeeds) with ⟨found, same, good⟩
    rw [succeeds] at same
    cases same
    exact good

theorem forM_eq_ok_iff {check : α → Except ε Unit} {values : List α} :
    values.forM check = .ok () ↔ ∀ value ∈ values, check value = .ok () := by
  induction values with
  | nil => simp [pure, Except.pure]
  | cons value values inductionHypothesis =>
      rw [List.forM_eq_forM, List.forM_cons, bind_eq_ok_iff, List.forall_mem_cons]
      constructor
      · rintro ⟨⟨⟩, passed, others⟩
        exact ⟨passed, inductionHypothesis.mp others⟩
      · rintro ⟨passed, others⟩
        exact ⟨(), passed, inductionHypothesis.mpr others⟩

/-- The fault of a list of checks is the fault of one of its members. -/
theorem exists_of_forM_eq_error {check : α → Except ε Unit} {values : List α} {fault : ε}
    (fails : values.forM check = .error fault) : ∃ value ∈ values, check value = .error fault := by
  induction values with
  | nil => cases fails
  | cons value values inductionHypothesis =>
      rw [List.forM_eq_forM, List.forM_cons, bind_eq_error_iff] at fails
      rcases fails with first | ⟨⟨⟩, -, others⟩
      · exact ⟨value, List.mem_cons_self, first⟩
      · rcases inductionHypothesis others with ⟨found, member, failed⟩
        exact ⟨found, List.mem_cons_of_mem _ member, failed⟩

theorem exists_of_mapM_eq_error {step : α → Except ε β} {values : List α} {fault : ε}
    (fails : values.mapM step = .error fault) : ∃ value ∈ values, step value = .error fault := by
  induction values with
  | nil => cases fails
  | cons value values inductionHypothesis =>
      rw [List.mapM_cons, bind_eq_error_iff] at fails
      rcases fails with first | ⟨result, -, rest⟩
      · exact ⟨value, List.mem_cons_self, first⟩
      · rcases bind_eq_error_iff.mp rest with others | ⟨results, -, impossible⟩
        · rcases inductionHypothesis others with ⟨found, member, failed⟩
          exact ⟨found, List.mem_cons_of_mem _ member, failed⟩
        · cases impossible

theorem mapM_eq_ok_iff {step : α → Except ε β} {values : List α} {results : List β} :
    values.mapM step = .ok results ↔
      List.Forall₂ (fun value result => step value = .ok result) values results := by
  induction values generalizing results with
  | nil =>
      rw [List.mapM_nil, List.forall₂_nil_left_iff]
      exact ⟨fun same => (Except.ok.inj same).symm, fun empty => empty ▸ rfl⟩
  | cons value values inductionHypothesis =>
      rw [List.mapM_cons, bind_eq_ok_iff]
      constructor
      · rintro ⟨result, stepped, others⟩
        rcases bind_eq_ok_iff.mp others with ⟨rest, mapped, same⟩
        cases same
        exact .cons stepped (inductionHypothesis.mp mapped)
      · intro related
        cases related with
        | cons stepped others =>
            exact ⟨_, stepped, bind_eq_ok_iff.mpr ⟨_, inductionHypothesis.mpr others, rfl⟩⟩

theorem exists_getElem? {relation : α → β → Prop} {values : List α} {results : List β}
    (related : List.Forall₂ relation values results) {index : Nat} {value : α}
    (found : values[index]? = some value) :
    ∃ result, results[index]? = some result ∧ relation value result := by
  induction related generalizing index with
  | nil => cases found
  | cons first rest inductionHypothesis =>
      cases index with
      | zero =>
          cases found
          exact ⟨_, rfl, first⟩
      | succ index => exact inductionHypothesis found

end Checks
end Optimum
