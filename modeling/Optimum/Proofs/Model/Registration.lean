import Optimum.Model.Registry
import Optimum.Proofs.Model.Occurrences

namespace Optimum
namespace Model

open Optimum.Language

/-!
# What a registry holds after any loads

A registry keeps a map from names to models and a list of names.  They belong
together: the list holds each bound name once and no other.  An empty registry
is tied in this way, and adding a model whose name is free keeps it so.

A load takes the models of its program one by one and stops at the first that
is repeated: one whose name is registered by then, from an earlier load or from
earlier in the program.  So the first repeated position of a program tells
whether its load fails, with which fault, and what it leaves behind.

The models that the loads have come to, one after the other, make one list.  It
determines the registry: a name belongs to the first model of that name in the
list, and the names stand in the order in which they first occur there.
-/

namespace Registry

variable {α : Type} {registry : Registry α} {items : List (Item α)} {item : Item α} {name : String}

@[simp] theorem find?_empty (name : String) : (empty : Registry α).find? name = none := rfl

@[simp] theorem names_add (registry : Registry α) (item : Item α) :
    (registry.add item).names = registry.names ++ [item.name] := rfl

theorem find?_add (registry : Registry α) (item : Item α) (name : String) :
    (registry.add item).find? name = if name = item.name then some item else registry.find? name :=
  rfl

theorem isSome_find?_add :
    ((registry.add item).find? name).isSome = true ↔
      name = item.name ∨ (registry.find? name).isSome = true := by
  rw [find?_add]
  by_cases same : name = item.name
  · rw [if_pos same]
    exact iff_of_true rfl (.inl same)
  · rw [if_neg same]
    exact (or_iff_right same).symm

/-- The registry with some models added, one after the other.  No name is looked
at, so this says what loading does only where none is repeated. -/
def addAll (registry : Registry α) (items : List (Item α)) : Registry α :=
  items.foldl add registry

theorem names_addAll (registry : Registry α) (items : List (Item α)) :
    (registry.addAll items).names = registry.names ++ items.map Item.name := by
  induction items generalizing registry with
  | nil => exact (List.append_nil _).symm
  | cons item items inductionHypothesis =>
      rw [List.map_cons, List.append_cons, ← names_add]
      exact inductionHypothesis _

/-! ## The map and the list -/

/-- Whether the list of names tells which names are bound, each name once.  It
is the invariant of a registry, and holds whatever was loaded and wherever a
load has stopped. -/
structure Tied (registry : Registry α) : Prop where
  distinct : registry.names.Nodup
  mem_names_iff : ∀ name, name ∈ registry.names ↔ (registry.find? name).isSome = true

theorem tied_empty : (empty : Registry α).Tied where
  distinct := List.nodup_nil
  mem_names_iff := fun _ => iff_of_false List.not_mem_nil Bool.false_ne_true

theorem Tied.add (tied : registry.Tied) (free : ¬ (registry.find? item.name).isSome = true) :
    (registry.add item).Tied where
  distinct := by
    rw [names_add, ← List.concat_eq_append]
    exact tied.distinct.concat (mt (tied.mem_names_iff _).mp free)
  mem_names_iff := by
    intro name
    rw [names_add, List.mem_append, List.mem_singleton, tied.mem_names_iff, isSome_find?_add,
      or_comm]

theorem Tied.register (tied : registry.Tied) (items : List (Item α)) :
    (registry.register items).1.Tied := by
  induction items generalizing registry with
  | nil => exact tied
  | cons item items inductionHypothesis =>
      unfold Registry.register
      by_cases taken : (registry.find? item.name).isSome = true
      · rw [if_pos taken]
        exact tied
      · rw [if_neg taken]
        exact inductionHypothesis (tied.add taken)

/-! ## Repeated models -/

/-- Whether the model at a position of a program has a name that is registered
when a load comes to it. -/
def Repeats (registry : Registry α) (items : List (Item α)) (index : Nat) : Prop :=
  ∃ item, items[index]? = some item ∧
    ((registry.find? item.name).isSome = true ∨ item.name ∈ (items.take index).map Item.name)

instance (registry : Registry α) (items : List (Item α)) (index : Nat) :
    Decidable (registry.Repeats items index) :=
  decidable_of_iff (∃ item ∈ items[index]?,
    (registry.find? item.name).isSome = true ∨
      item.name ∈ (items.take index).map Item.name) Iff.rfl

/-- The first repeated position of a program, or its length if there is none. -/
def firstRepeated (registry : Registry α) (items : List (Item α)) : Nat :=
  ((List.range items.length).find? fun index => registry.Repeats items index).getD items.length

/-- The models of a program that a load comes to: it does not go beyond the
first repeated one. -/
def reached (registry : Registry α) (items : List (Item α)) : List (Item α) :=
  items.take (registry.firstRepeated items + 1)

theorem repeats_zero_iff :
    registry.Repeats (item :: items) 0 ↔ (registry.find? item.name).isSome = true := by
  simp [Repeats]

theorem repeats_succ_iff {index : Nat} :
    registry.Repeats (item :: items) (index + 1) ↔ (registry.add item).Repeats items index := by
  simp [Repeats, isSome_find?_add, or_assoc, or_left_comm]

/-- What is fresh in a program is fresh in its beginning. -/
theorem not_repeats_take {count : Nat} (fresh : ∀ index < count, ¬ registry.Repeats items index)
    (index : Nat) : ¬ registry.Repeats (items.take count) index := by
  rintro ⟨item, found, registered⟩
  by_cases inside : index < count
  · rw [List.getElem?_take_of_lt inside] at found
    rw [List.take_take, Nat.min_eq_left (Nat.le_of_lt inside)] at registered
    exact fresh index inside ⟨item, found, registered⟩
  · rw [List.getElem?_take, if_neg inside] at found
    cases found

/-- The models of a program that repeats none are bound to their names.  Names
that were bound before keep their models. -/
theorem find?_addAll (fresh : ∀ index, ¬ registry.Repeats items index) (name : String) :
    (registry.addAll items).find? name =
      (registry.find? name).or (items.find? (·.name = name)) := by
  induction items generalizing registry with
  | nil => exact Option.or_none.symm
  | cons item items inductionHypothesis =>
      have free := mt repeats_zero_iff.mpr (fresh 0)
      have later := inductionHypothesis fun index => mt repeats_succ_iff.mpr (fresh (index + 1))
      rw [addAll, List.foldl_cons, ← addAll, later, find?_add]
      by_cases same : name = item.name
      · rw [if_pos same, same, Option.not_isSome_iff_eq_none.mp free]
        simp
      · rw [if_neg same]
        simp [Ne.symm same]

/-! ## One load -/

/-- What registering the models of a program leads to: all of them are bound, or
those before the first repeated one with its fault. -/
inductive Registration (registry : Registry α) (items : List (Item α)) :
    Registry α × Option (CompileError α) → Prop
  | complete (fresh : ∀ index, ¬ registry.Repeats items index) :
      Registration registry items (registry.addAll items, none)
  | stopped (index : Nat) (item : Item α) (found : items[index]? = some item)
      (repeated : registry.Repeats items index)
      (first : ∀ earlier < index, ¬ registry.Repeats items earlier) :
      Registration registry items
        (registry.addAll (items.take index), some (.duplicateModel item.name))

theorem registration_register (registry : Registry α) (items : List (Item α)) :
    registry.Registration items (registry.register items) := by
  induction items generalizing registry with
  | nil => exact .complete fun index ⟨item, found, _⟩ => nomatch found
  | cons item items inductionHypothesis =>
      unfold register
      by_cases taken : (registry.find? item.name).isSome = true
      · rw [if_pos taken]
        exact .stopped 0 item rfl (repeats_zero_iff.mpr taken)
          fun earlier before => absurd before (Nat.not_lt_zero earlier)
      · rw [if_neg taken]
        generalize result : register (registry.add item) items = registered
        cases result ▸ inductionHypothesis (registry.add item) with
        | complete fresh =>
            refine .complete fun index => ?_
            cases index with
            | zero => exact taken ∘ repeats_zero_iff.mp
            | succ index => exact fresh index ∘ repeats_succ_iff.mp
        | stopped index other found repeated first =>
            refine .stopped (index + 1) other found (repeats_succ_iff.mpr repeated) ?_
            intro earlier before
            cases earlier with
            | zero => exact taken ∘ repeats_zero_iff.mp
            | succ earlier => exact first earlier (Nat.lt_of_succ_lt_succ before) ∘ repeats_succ_iff.mp

theorem registration_load (registry : Registry α) (program : Program α) :
    registry.Registration program.items (registry.load program) :=
  registration_register registry program.items

theorem reached_of_fresh (fresh : ∀ index, ¬ registry.Repeats items index) :
    registry.reached items = items := by
  have nothing : ((List.range items.length).find? fun index => registry.Repeats items index) =
      none := List.find?_eq_none.mpr fun index _ => by simpa using fresh index
  rw [reached, firstRepeated, nothing, Option.getD_none, List.take_of_length_le (Nat.le_succ _)]

theorem reached_of_stopped {index : Nat} (found : items[index]? = some item)
    (repeated : registry.Repeats items index)
    (first : ∀ earlier < index, ¬ registry.Repeats items earlier) :
    registry.reached items = items.take index ++ [item] := by
  rcases List.getElem?_eq_some_iff.mp found with ⟨inside, -⟩
  have located : ((List.range items.length).find? fun index => registry.Repeats items index) =
      some index := by
    rw [List.find?_range_eq_some]
    exact ⟨decide_eq_true repeated, List.mem_range.mpr inside,
      fun earlier before => by simpa using first earlier before⟩
  rw [reached, firstRepeated, located, Option.getD_some, List.take_add_one, found]
  rfl

/-- When a load comes to a repeated model, the name of it is bound. -/
theorem isSome_of_repeats {index : Nat} (found : items[index]? = some item)
    (repeated : registry.Repeats items index)
    (first : ∀ earlier < index, ¬ registry.Repeats items earlier) :
    ((registry.addAll (items.take index)).find? item.name).isSome = true := by
  rcases repeated with ⟨other, again, taken⟩
  cases found.symm.trans again
  rw [find?_addAll (not_repeats_take first), Option.isSome_or, Bool.or_eq_true, List.find?_isSome]
  refine taken.imp id fun earlier => ?_
  rcases List.mem_map.mp earlier with ⟨namesake, listed, same⟩
  exact ⟨namesake, listed, decide_eq_true same⟩

/-- A name keeps the model that it is bound to, and a free name goes to the
first model of that name that the load comes to. -/
theorem find?_load (registry : Registry α) (program : Program α) (name : String) :
    (registry.load program).1.find? name =
      (registry.find? name).or ((registry.reached program.items).find? (·.name = name)) := by
  have registered := registration_load registry program
  generalize registry.load program = loaded at registered ⊢
  cases registered with
  | complete fresh => rw [reached_of_fresh fresh, find?_addAll fresh]
  | stopped index item found repeated first =>
      have bound := isSome_of_repeats found repeated first
      have kept := find?_addAll (not_repeats_take first) name
      rw [reached_of_stopped found repeated first, List.find?_append, ← Option.or_assoc, ← kept]
      by_cases same : item.name = name
      · rw [same] at bound
        rw [Option.or_of_isSome bound]
      · simp [same]

theorem names_load (tied : registry.Tied) (program : Program α) :
    (registry.load program).1.names =
      collect registry.names ((registry.reached program.items).map Item.name) := by
  have still : (registry.load program).1.Tied := tied.register program.items
  have registered := registration_load registry program
  generalize registry.load program = loaded at registered still ⊢
  cases registered with
  | complete fresh =>
      have distinct := still.distinct
      rw [names_addAll] at distinct ⊢
      rw [reached_of_fresh fresh, collect_eq_append distinct]
  | stopped index item found repeated first =>
      have distinct := still.distinct
      have listed := (still.mem_names_iff item.name).mpr (isSome_of_repeats found repeated first)
      rw [names_addAll] at distinct listed ⊢
      rw [reached_of_stopped found repeated first, List.map_append, List.map_singleton,
        collect_append, collect_eq_append distinct, collect_cons_of_mem listed]
      rfl

/-! ## The registry of one program -/

theorem not_repeats_of_nodup (distinct : (items.map Item.name).Nodup) (index : Nat) :
    ¬ (empty : Registry α).Repeats items index := by
  rintro ⟨item, found, registered | earlier⟩
  · cases registered
  · have later : item ∈ items.drop index :=
      List.mem_iff_getElem?.mpr ⟨0, by rw [List.getElem?_drop, Nat.add_zero, found]⟩
    rw [← List.take_append_drop index items, List.map_append] at distinct
    exact List.disjoint_of_nodup_append distinct earlier (List.mem_map_of_mem later)

theorem find?_of_mem (distinct : (items.map Item.name).Nodup) (member : item ∈ items) :
    (empty.addAll items).find? item.name = some item := by
  rw [find?_addAll (not_repeats_of_nodup distinct), find?_empty, Option.none_or]
  have found : (items.find? (·.name = item.name)).isSome = true :=
    List.find?_isSome.mpr ⟨item, member, decide_eq_true rfl⟩
  rcases Option.isSome_iff_exists.mp found with ⟨other, first⟩
  have same : other.name = item.name := by simpa using List.find?_some first
  rw [first, List.inj_on_of_nodup_map distinct (List.mem_of_find?_eq_some first) member same]

/-! ## Any number of loads -/

/-- The registry after a number of loads, those that fail included. -/
def loadAll (registry : Registry α) (programs : List (Program α)) : Registry α :=
  programs.foldl (fun current program => (current.load program).1) registry

/-- The models that a number of loads come to, in order. -/
def reachedInAll (registry : Registry α) : List (Program α) → List (Item α)
  | [] => []
  | program :: later =>
      registry.reached program.items ++ reachedInAll (registry.load program).1 later

theorem Tied.loadAll (tied : registry.Tied) (programs : List (Program α)) :
    (registry.loadAll programs).Tied := by
  induction programs generalizing registry with
  | nil => exact tied
  | cons program later inductionHypothesis =>
      exact inductionHypothesis (tied.register program.items)

theorem find?_loadAll (registry : Registry α) (programs : List (Program α)) (name : String) :
    (registry.loadAll programs).find? name =
      (registry.find? name).or ((registry.reachedInAll programs).find? (·.name = name)) := by
  induction programs generalizing registry with
  | nil => exact Option.or_none.symm
  | cons program later inductionHypothesis =>
      rw [reachedInAll, List.find?_append, ← Option.or_assoc, ← find?_load]
      exact inductionHypothesis _

theorem names_loadAll (tied : registry.Tied) (programs : List (Program α)) :
    (registry.loadAll programs).names =
      collect registry.names ((registry.reachedInAll programs).map Item.name) := by
  induction programs generalizing registry with
  | nil => rfl
  | cons program later inductionHypothesis =>
      rw [reachedInAll, List.map_append, collect_append, ← names_load tied program]
      exact inductionHypothesis (tied.register program.items)

/-- What a registry shows after some loads, and what a further load of it
does. -/
structure Consistent (programs : List (Program α)) (registry : Registry α) : Prop
    extends Tied registry where
  find?_eq : ∀ name,
    registry.find? name = (empty.reachedInAll programs).find? fun item => item.name = name
  names_eq : registry.names = collect [] ((empty.reachedInAll programs).map Item.name)
  kept : ∀ later name item, registry.find? name = some item →
    (registry.loadAll later).find? name = some item
  fails_iff : ∀ program : Program α, (∃ fault, (registry.load program).2 = some fault) ↔
    ∃ index, registry.Repeats program.items index
  registration : ∀ program : Program α,
    registry.Registration program.items (registry.load program)

theorem fails_iff_exists_repeats (registry : Registry α) (program : Program α) :
    (∃ fault, (registry.load program).2 = some fault) ↔
      ∃ index, registry.Repeats program.items index := by
  have registered := registration_load registry program
  generalize registry.load program = loaded at registered ⊢
  cases registered with
  | complete fresh =>
      exact iff_of_false (fun ⟨_, failed⟩ => nomatch failed) (fun ⟨index, repeated⟩ =>
        fresh index repeated)
  | stopped index item found repeated first => exact iff_of_true ⟨_, rfl⟩ ⟨index, repeated⟩

/-- After any loads, failed ones among them, the registry is consistent.
Nothing is taken back when a load fails, and a name that is bound is never bound
again. -/
theorem loadAll_consistent (programs : List (Program α)) :
    Consistent programs (empty.loadAll programs) where
  toTied := tied_empty.loadAll programs
  find?_eq := find?_loadAll empty programs
  names_eq := names_loadAll tied_empty programs
  kept := by
    intro later name item bound
    rw [find?_loadAll, bound, Option.some_or]
  fails_iff := fails_iff_exists_repeats _
  registration := registration_load _

end Registry

end Model
end Optimum
