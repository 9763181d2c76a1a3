import Optimum.Proofs.Language.Lexing
import Optimum.Proofs.Language.Passages

namespace Optimum
namespace Language

/-!
# Ranges of a text

A range is usable in a text if it lies in it and ends between characters.
Tokens that stand together in the tokens of a text reach over such a range
(`Spelled.cuts_spanOf`), and what it cuts out begins with the first of them and
ends with the last one.

`LaidOut` says that values are written one after another, each by tokens of its
own.  Their ranges are then in order and apart.
-/

/-! ## Ranges -/

namespace Span

/-- Whether an editor can mark the range in the text: it lies in the text, and
neither end falls inside of a character. -/
structure UsableIn (source : String) (span : Span) : Prop where
  forward : span.start ≤ span.stop
  within : span.stop ≤ source.utf8ByteSize
  start_valid : String.Pos.Raw.IsValid source ⟨span.start⟩
  stop_valid : String.Pos.Raw.IsValid source ⟨span.stop⟩

/-- What stands in the text at the range. -/
def slice (source : String) (span : Span) : String :=
  String.Pos.Raw.extract source ⟨span.start⟩ ⟨span.stop⟩

/-- Whether the first range ends where the second one begins, or earlier. -/
def Before (first second : Span) : Prop :=
  first.stop ≤ second.start

/-- Whether one of the ranges ends where the other one begins, or earlier. -/
def Apart (first second : Span) : Prop :=
  first.Before second ∨ second.Before first

structure Inside (inner outer : Span) : Prop where
  start_le : outer.start ≤ inner.start
  stop_le : inner.stop ≤ outer.stop

/-- The range cuts a piece out of the text. -/
def Cuts (span : Span) (source : String) (piece : List Char) : Prop :=
  ∃ before after, source = String.ofList (before ++ piece ++ after) ∧
    span.start = byteCount before ∧ span.stop = byteCount before + byteCount piece

variable {span : Span} {source : String} {piece : List Char}

theorem Cuts.slice_eq (cuts : span.Cuts source piece) :
    span.slice source = String.ofList piece := by
  rcases cuts with ⟨before, after, rfl, start, stop⟩
  rw [slice, start, stop, byteCount_eq, byteCount_eq]
  exact String.extract_of_valid before piece after

theorem Cuts.usableIn (cuts : span.Cuts source piece) : span.UsableIn source := by
  rcases cuts with ⟨before, after, rfl, start, stop⟩
  refine ⟨by omega, ?_, ?_, ?_⟩
  · rw [String.utf8ByteSize_ofList, ← byteCount_eq, byteCount_append, byteCount_append, stop]
    exact Nat.le_add_right _ _
  · rw [start, byteCount_eq, ← String.rawEndPos_ofList, String.Pos.Raw.isValid_iff_exists_append]
    exact ⟨_, _, by rw [List.append_assoc, String.ofList_append], rfl⟩
  · rw [stop, ← byteCount_append, byteCount_eq, ← String.rawEndPos_ofList,
      String.Pos.Raw.isValid_iff_exists_append]
    exact ⟨_, _, String.ofList_append, rfl⟩

theorem usableIn_whole (source : String) :
    (⟨0, source.utf8ByteSize⟩ : Span).UsableIn source := by
  have size : source.utf8ByteSize = byteCount [] + byteCount source.toList := by
    rw [← size_bytes, String.size_toByteArray, byteCount, Nat.zero_add]
  have cuts : (⟨0, source.utf8ByteSize⟩ : Span).Cuts source source.toList :=
    ⟨[], [], by rw [List.nil_append, List.append_nil, String.ofList_toList], rfl, size⟩
  exact cuts.usableIn

end Span

/-! ## Ranges of tokens -/

namespace Spelled

variable {position : Nat} {chars : List Char} {tokens : List Token}

theorem of_suffix (spelled : Spelled position chars tokens) {others : List Token}
    (suffix : others <:+ tokens) (nonempty : others ≠ []) :
    ∃ skipped rest, chars = skipped ++ rest ∧
      Spelled (position + byteCount skipped) rest others := by
  induction spelled with
  | finish position =>
      rcases List.suffix_cons_iff.mp suffix with rfl | none
      · exact ⟨[], [], rfl, .finish position⟩
      · exact absurd (List.suffix_nil.mp none) nonempty
  | @blank position c rest tokens separates _ inductionHypothesis =>
      rcases inductionHypothesis suffix with ⟨skipped, left, rfl, spelled⟩
      refine ⟨c :: skipped, left, rfl, ?_⟩
      rwa [byteCount, ← Nat.add_assoc]
  | @token position kind text rest tokens ordinary visible later inductionHypothesis =>
      rcases List.suffix_cons_iff.mp suffix with rfl | behind
      · exact ⟨[], _, rfl, .token ordinary visible later⟩
      · rcases inductionHypothesis behind with ⟨skipped, left, rfl, spelled⟩
        refine ⟨text ++ skipped, left, (List.append_assoc _ _ _).symm, ?_⟩
        rwa [byteCount_append, ← Nat.add_assoc]

/-- From the beginning of the first token to the end of another one reaches a
piece of the text that begins with the one and ends with the other. -/
theorem reaches {first last : Token} {others : List Token}
    (spelled : Spelled position chars (first :: others)) (member : last ∈ first :: others) :
    ∃ skipped piece rest, chars = skipped ++ piece ++ rest ∧
      first.span.start = position + byteCount skipped ∧
      last.span.stop = position + byteCount skipped + byteCount piece ∧
      first.text.toList <+: piece ∧ last.text.toList <:+ piece := by
  generalize listed : first :: others = tokens at spelled
  induction spelled with
  | finish position =>
      cases listed
      rcases List.mem_singleton.mp member with rfl
      exact ⟨[], [], [], rfl, rfl, rfl, List.prefix_rfl, List.suffix_rfl⟩
  | @blank position c rest tokens separates _ inductionHypothesis =>
      rcases inductionHypothesis listed with ⟨skipped, piece, after, rfl, start, stop, ends⟩
      refine ⟨c :: skipped, piece, after, rfl, ?_, ?_, ends⟩ <;> rw [byteCount] <;> omega
  | @token position kind text rest tokens _ _ later _ =>
      cases listed
      rcases List.mem_cons.mp member with rfl | behind
      · refine ⟨[], text, rest, rfl, rfl, rfl, ?_, ?_⟩
        · simp only [String.toList_ofList, List.prefix_rfl]
        · simp only [String.toList_ofList, List.suffix_rfl]
      · rcases later.place behind with ⟨skipped, own, after, rfl, written, -, stop⟩
        refine ⟨[], text ++ skipped ++ own, after, by simp, rfl, ?_, ?_, ?_⟩
        · rw [stop, byteCount_append, byteCount_append, byteCount]
          omega
        · rw [String.toList_ofList, List.append_assoc]
          exact List.prefix_append _ _
        · rw [written, String.toList_ofList]
          exact List.suffix_append _ _

end Spelled

theorem spanOf_eq {own : List Token} (nonempty : own ≠ []) :
    spanOf own = ⟨(own.head nonempty).span.start, (own.getLast nonempty).span.stop⟩ := by
  rcases List.exists_cons_of_ne_nil nonempty with ⟨first, rest, rfl⟩
  have ends : endAfter first.span.stop rest = ((first :: rest).getLast nonempty).span.stop := by
    have shown := List.dropLast_concat_getLast nonempty
    calc endAfter first.span.stop rest
        = endAfter 0 (first :: rest) := rfl
      _ = endAfter 0 ((first :: rest).dropLast ++ [(first :: rest).getLast nonempty]) := by
          rw [shown]
      _ = ((first :: rest).getLast nonempty).span.stop := by
          rw [endAfter_append]
          rfl
  rw [spanOf, ends]
  rfl

/-- Tokens that stand together in those of a text cut a piece out of it.  The
piece begins with the first of them and ends with the last. -/
theorem Spelled.cuts_spanOf {source : String} {tokens own : List Token}
    (spelled : Spelled 0 source.toList tokens) (inside : own <:+: tokens) (nonempty : own ≠ []) :
    ∃ piece, (spanOf own).Cuts source piece ∧ (own.head nonempty).text.toList <+: piece ∧
      (own.getLast nonempty).text.toList <:+ piece := by
  rcases inside with ⟨before, after, rfl⟩
  have suffix : own ++ after <:+ before ++ own ++ after := by
    rw [List.append_assoc]
    exact List.suffix_append _ _
  rcases spelled.of_suffix suffix (List.append_ne_nil_of_left_ne_nil nonempty _) with
    ⟨skipped, rest, shown, spelledOwn⟩
  rcases List.exists_cons_of_ne_nil nonempty with ⟨first, others, rfl⟩
  have member : (first :: others).getLast nonempty ∈ first :: (others ++ after) :=
    List.mem_append_left after (List.getLast_mem nonempty)
  rcases spelledOwn.reaches member with ⟨more, piece, left, rfl, start, stop, begins, ends⟩
  refine ⟨piece, ⟨skipped ++ more, left, ?_, ?_, ?_⟩, begins, ends⟩
  · rw [← String.ofList_toList (s := source), shown]
    simp only [List.append_assoc]
  · rw [spanOf_eq nonempty, byteCount_append]
    simpa using start
  · rw [spanOf_eq nonempty, byteCount_append]
    simpa using stop

/-! ## Order -/

/-- Tokens whose ranges follow one another.  Any part of them is orderly too,
whether or not it stands together. -/
structure Orderly (tokens : List Token) : Prop where
  ordered : tokens.Pairwise fun earlier later => earlier.span.Before later.span
  forward : ∀ token ∈ tokens, token.span.start ≤ token.span.stop

theorem Lossless.orderly {source : String} {tokens : List Token}
    (lossless : Lossless source tokens) : Orderly tokens :=
  ⟨lossless.ordered, fun token member => (lossless.within token member).1⟩

namespace Orderly

variable {tokens own others : List Token}

theorem sublist (orderly : Orderly tokens) (kept : own.Sublist tokens) : Orderly own :=
  ⟨orderly.ordered.sublist kept, fun token member => orderly.forward token (kept.subset member)⟩

theorem head_le (orderly : Orderly tokens) (nonempty : tokens ≠ []) {token : Token}
    (member : token ∈ tokens) : (tokens.head nonempty).span.start ≤ token.span.start := by
  rcases List.exists_cons_of_ne_nil nonempty with ⟨first, rest, rfl⟩
  rcases List.mem_cons.mp member with rfl | later
  · exact Nat.le_refl _
  · exact Nat.le_trans (orderly.forward first List.mem_cons_self)
      ((List.pairwise_cons.mp orderly.ordered).1 token later)

theorem le_getLast (orderly : Orderly tokens) (nonempty : tokens ≠ []) {token : Token}
    (member : token ∈ tokens) : token.span.stop ≤ (tokens.getLast nonempty).span.stop := by
  have shown := List.dropLast_concat_getLast nonempty
  rw [← shown] at member
  rcases List.mem_append.mp member with earlier | same
  · have apart := orderly.ordered
    rw [← shown] at apart
    have before : token.span.Before (tokens.getLast nonempty).span :=
      (List.pairwise_append.mp apart).2.2 token earlier _ List.mem_cons_self
    exact Nat.le_trans before (orderly.forward _ (List.getLast_mem nonempty))
  · rw [List.mem_singleton.mp same]

/-- Some of the tokens do not reach further than all of them. -/
theorem inside (orderly : Orderly tokens) (kept : own ⊆ tokens) (nonempty : own ≠ []) :
    (spanOf own).Inside (spanOf tokens) := by
  have filled : tokens ≠ [] := by
    rintro rfl
    exact nonempty (List.eq_nil_of_subset_nil kept)
  rw [spanOf_eq nonempty, spanOf_eq filled]
  exact ⟨orderly.head_le filled (kept (List.head_mem nonempty)),
    orderly.le_getLast filled (kept (List.getLast_mem nonempty))⟩

theorem before (orderly : Orderly (own ++ others)) (nonempty : own ≠ []) (filled : others ≠ []) :
    (spanOf own).Before (spanOf others) := by
  rw [spanOf_eq nonempty, spanOf_eq filled]
  exact (List.pairwise_append.mp orderly.ordered).2.2 _ (List.getLast_mem nonempty) _
    (List.head_mem filled)

end Orderly

/-! ## Values one after another -/

/-- Values that are written one after another in some tokens, each by tokens of
its own. -/
inductive LaidOut {β : Type} (form : List Token → β → Prop) : List Token → List β → Prop
  | nil (tokens : List Token) : LaidOut form tokens []
  | cons {before own after : List Token} {value : β} {values : List β}
      (written : form own value) (others : LaidOut form after values) :
      LaidOut form (before ++ (own ++ after)) (value :: values)

namespace LaidOut

variable {β : Type} {form : List Token → β → Prop} {tokens : List Token} {values : List β}

theorem behind (laid : LaidOut form tokens values) (skipped : List Token) :
    LaidOut form (skipped ++ tokens) values := by
  cases laid with
  | nil => exact .nil _
  | cons written others =>
      rw [← List.append_assoc]
      exact .cons written others

theorem widen (laid : LaidOut form tokens values) (more : List Token) :
    LaidOut form (tokens ++ more) values := by
  induction laid with
  | nil => exact .nil _
  | cons written others inductionHypothesis =>
      rw [List.append_assoc, List.append_assoc]
      exact .cons written inductionHypothesis

theorem exists_infix (laid : LaidOut form tokens values) :
    ∀ value ∈ values, ∃ own, own <:+: tokens ∧ form own value := by
  induction laid with
  | nil => exact nofun
  | @cons before own after value values written others inductionHypothesis =>
      refine List.forall_mem_cons.mpr ⟨⟨own, ⟨before, after, List.append_assoc _ _ _⟩, written⟩, ?_⟩
      intro other member
      rcases inductionHypothesis other member with ⟨tokens, within, held⟩
      refine ⟨tokens, within.trans ?_, held⟩
      rw [← List.append_assoc]
      exact (List.suffix_append _ _).isInfix

/-- Values that have the range of their tokens are in order and apart.  What
they are does not matter: models and statements are both such values. -/
theorem pairwise_before {span : β → Span} (laid : LaidOut form tokens values)
    (orderly : Orderly tokens)
    (spans : ∀ own value, form own value → own ≠ [] ∧ span value = spanOf own) :
    values.Pairwise fun earlier later => (span earlier).Before (span later) := by
  induction laid with
  | nil => exact .nil
  | @cons before own after value values written others inductionHypothesis =>
      have remaining : Orderly (own ++ after) := orderly.sublist (List.sublist_append_right _ _)
      refine List.pairwise_cons.mpr ⟨fun later member => ?_,
        inductionHypothesis (remaining.sublist (List.sublist_append_right _ _))⟩
      rcases others.exists_infix later member with ⟨tokens, within, held⟩
      rcases spans own value written with ⟨nonempty, same⟩
      rcases spans tokens later held with ⟨filled, sameLater⟩
      rw [same, sameLater]
      exact (remaining.sublist (List.Sublist.append_left within.sublist own)).before nonempty filled

end LaidOut

end Language
end Optimum
