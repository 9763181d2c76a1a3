import Optimum.Proofs.Language.Derivations

namespace Optimum
namespace Language

open Checks

/-!
# What a reader passes over

Between the place where a reader begins and the place where it leaves off
stand the tokens that it has passed over, and the new place ends where the last
of them does.  A reader that fails points at tokens behind its place.  `Traced`
says both, so that it composes along a reader's steps (`Traced.bind`).

For expressions the tokens that were passed over derive the tree, with the
comments between them (`passes_of_readSum`).
-/

/-- Where the last of some tokens ends; without any, an earlier end. -/
def endAfter (stop : Nat) : List Token → Nat
  | [] => stop
  | token :: rest => endAfter token.span.stop rest

theorem endAfter_append (stop : Nat) (first second : List Token) :
    endAfter stop (first ++ second) = endAfter (endAfter stop first) second := by
  induction first generalizing stop with
  | nil => rfl
  | cons token rest inductionHypothesis => exact inductionHypothesis token.span.stop

/-- From where the first of some tokens begins to where the last one ends.  The
ranges of a program are all of this form. -/
def spanOf : List Token → Span
  | [] => ⟨0, 0⟩
  | first :: rest => ⟨first.span.start, endAfter first.span.stop rest⟩

/-- From one place over some tokens to another.  Comments and breaks are among
the tokens, so that ranges can be told from them. -/
structure Passes (cursor : Cursor) (used : List Token) (next : Cursor) : Prop where
  shown : cursor.rest = used ++ next.rest
  stop_eq : next.stop = endAfter cursor.stop used

namespace Passes

variable {first second third : Cursor} {used others : List Token}

theorem refl (cursor : Cursor) : Passes cursor [] cursor := ⟨rfl, rfl⟩

theorem trans (before : Passes first used second) (after : Passes second others third) :
    Passes first (used ++ others) third where
  shown := by rw [before.shown, after.shown, List.append_assoc]
  stop_eq := by rw [after.stop_eq, before.stop_eq, endAfter_append]

theorem token {cursor : Cursor} {token : Token} {rest : List Token}
    (shown : cursor.rest = token :: rest) : Passes cursor [token] (.behind token rest) :=
  ⟨shown, rfl⟩

theorem suffix (passes : Passes first used second) : second.rest <:+ first.rest :=
  passes.shown ▸ List.suffix_append used second.rest

theorem skipFrom (skipped : TokenKind → Bool) (stop : Nat) (tokens : List Token) :
    Passes ⟨stop, tokens⟩ (tokens.takeWhile fun token => skipped token.kind)
      (Cursor.skipFrom skipped stop tokens) := by
  induction tokens generalizing stop with
  | nil => exact refl _
  | cons token rest inductionHypothesis =>
      rw [Cursor.skipFrom, List.takeWhile_cons]
      split
      · exact (Passes.token rfl).trans (inductionHypothesis token.span.stop)
      · exact refl _

theorem skipComments (cursor : Cursor) :
    ∃ comments, Passes cursor comments cursor.skipComments ∧ withoutComments comments = [] :=
  ⟨_, skipFrom _ cursor.stop cursor.rest, List.filter_eq_nil_iff.mpr fun token member => by
    simpa using List.all_eq_true.mp List.all_takeWhile token member⟩

end Passes

/-! ## Answers that come from tokens -/

/-- What a fault of reading tokens tells is taken from them: it is about one of
them, or about some that stand together. -/
inductive FaultAt (α : Type) [NumberText α] (tokens : List Token) : ParseError → Prop
  | unexpectedEnd : FaultAt α tokens .unexpectedEnd
  | unexpectedToken {expected : Expectation} {token : Token} (member : token ∈ tokens) :
      FaultAt α tokens (.unexpectedToken expected token.kind token.span)
  | invalidNumber {token : Token} (member : token ∈ tokens) (number : token.kind = .number)
      (unread : (NumberText.read? token.text : Option α) = none) :
      FaultAt α tokens (.invalidNumber token.text token.span)
  | duplicateObjective {model : String} {own : List Token} (inside : own <:+: tokens)
      (nonempty : own ≠ []) : FaultAt α tokens (.duplicateObjective model (spanOf own))
  | duplicateSection {heading : Token} (member : heading ∈ tokens) :
      FaultAt α tokens (.duplicateSection heading.text heading.span)
  | unknownSection {heading : Token} {known : List String} (member : heading ∈ tokens) :
      FaultAt α tokens (.unknownSection heading.text known heading.span)

section Tracing

variable {α : Type} [NumberText α]

theorem FaultAt.of_suffix {tokens others : List Token} {fault : ParseError}
    (points : FaultAt α others fault) (suffix : others <:+ tokens) : FaultAt α tokens fault := by
  cases points with
  | unexpectedEnd => exact .unexpectedEnd
  | unexpectedToken member => exact .unexpectedToken (suffix.subset member)
  | invalidNumber member number unread => exact .invalidNumber (suffix.subset member) number unread
  | duplicateObjective inside nonempty =>
      exact .duplicateObjective (inside.trans suffix.isInfix) nonempty
  | duplicateSection member => exact .duplicateSection (suffix.subset member)
  | unknownSection member => exact .unknownSection (suffix.subset member)

theorem faultAt_unexpected (cursor : Cursor) (expected : Expectation) :
    FaultAt α cursor.rest (cursor.unexpected expected) := by
  rcases cursor with ⟨stop, _ | ⟨token, rest⟩⟩
  · exact .unexpectedEnd
  · simp only [Cursor.unexpected]
    split
    · exact .unexpectedEnd
    · exact .unexpectedToken List.mem_cons_self

variable (α) in
/-- An answer whose place is reached over some tokens, or whose fault is taken
from those that were left.  It composes along the readers, so that each of them
is looked at once. -/
inductive Traced {β : Type} (cursor : Cursor) : Except ParseError (β × Cursor) → Prop
  | ok {value : β} {used : List Token} {next : Cursor} (passes : Passes cursor used next) :
      Traced cursor (.ok (value, next))
  | error {fault : ParseError} (points : FaultAt α cursor.rest fault) :
      Traced cursor (.error fault)

namespace Traced

variable {β γ : Type} {cursor next : Cursor}

theorem unexpected (cursor : Cursor) (expected : Expectation) :
    Traced α cursor (.error (cursor.unexpected expected) : Except ParseError (β × Cursor)) :=
  .error (faultAt_unexpected cursor expected)

theorem passes {value : β} (traced : Traced α cursor (.ok (value, next))) :
    ∃ used, Passes cursor used next := by
  cases traced with
  | ok passes => exact ⟨_, passes⟩

theorem suffix {answer : Except ParseError (β × Cursor)} (traced : Traced α cursor answer)
    {value : β} (read : answer = .ok (value, next)) : next.rest <:+ cursor.rest := by
  subst read
  rcases traced.passes with ⟨used, passes⟩
  exact passes.suffix

theorem points {fault : ParseError}
    (traced : Traced α cursor (.error fault : Except ParseError (β × Cursor))) :
    FaultAt α cursor.rest fault := by
  cases traced with
  | error points => exact points

theorem from_passed {used : List Token} {answer : Except ParseError (β × Cursor)}
    (passes : Passes cursor used next) (traced : Traced α next answer) :
    Traced α cursor answer := by
  cases traced with
  | ok onward => exact .ok (passes.trans onward)
  | error points => exact .error (points.of_suffix passes.suffix)

/-- What follows may also point at the tokens that were passed over before.  The
fault of an objective that is given twice does so. -/
theorem bind_from {answer : Except ParseError (β × Cursor)}
    {onward : β × Cursor → Except ParseError (γ × Cursor)} (first : Traced α cursor answer)
    (after : ∀ value next used, answer = .ok (value, next) → Passes cursor used next →
      Traced α cursor (onward (value, next))) : Traced α cursor (answer >>= onward) := by
  cases first with
  | ok passes => exact after _ _ _ rfl passes
  | error points => exact .error points

theorem bind {answer : Except ParseError (β × Cursor)}
    {onward : β × Cursor → Except ParseError (γ × Cursor)} (first : Traced α cursor answer)
    (after : ∀ value next, answer = .ok (value, next) → Traced α next (onward (value, next))) :
    Traced α cursor (answer >>= onward) :=
  first.bind_from fun value next _ read passes => (after value next read).from_passed passes

theorem map {answer : Except ParseError (β × Cursor)} (convert : β → γ)
    (traced : Traced α cursor answer) :
    Traced α cursor (answer.map fun read => (convert read.1, read.2)) := by
  cases traced with
  | ok passes => exact .ok passes
  | error points => exact .error points

theorem skipBreaks {answer : Except ParseError (β × Cursor)}
    (traced : Traced α cursor.skipBreaks answer) : Traced α cursor answer :=
  traced.from_passed (Passes.skipFrom _ cursor.stop cursor.rest)

theorem skipComments {answer : Except ParseError (β × Cursor)}
    (traced : Traced α cursor.skipComments answer) : Traced α cursor answer :=
  traced.from_passed (Passes.skipFrom _ cursor.stop cursor.rest)

theorem behind {token : Token} {rest : List Token} {answer : Except ParseError (β × Cursor)}
    (shown : cursor.rest = token :: rest) (traced : Traced α (.behind token rest) answer) :
    Traced α cursor answer :=
  traced.from_passed (.token shown)

end Traced

theorem traced_expect (cursor : Cursor) (kind : TokenKind) :
    Traced α cursor (plain (cursor.expect kind)) := by
  rw [plain_expect]
  refine .skipBreaks ?_
  split
  · exact .unexpected _ _
  · next token rest shown =>
      split
      · exact .ok (.token shown)
      · exact .unexpected _ _

/-- A number token is read, or its text writes no number. -/
theorem traced_number? {cursor : Cursor} {token : Token} {rest : List Token} {β : Type}
    (shown : cursor.rest = token :: rest) (number : token.kind = .number) (convert : α → β) :
    Traced α cursor (token.number? >>= fun value => .ok (convert value, .behind token rest)) := by
  rw [Token.number?]
  split
  · exact .ok (.token shown)
  · next unread =>
      exact .error (.invalidNumber (shown ▸ List.mem_cons_self) number unread)

/-! ## Expressions -/

theorem traced_primary (cursor : Cursor)
    (sum : ∀ less : Cursor, less.size < cursor.size →
      Traced α less (plain (readSum (α := α) less))) :
    Traced α cursor (plain (readPrimary (α := α) cursor)) := by
  rcases cursor with ⟨stop, _ | ⟨token, rest⟩⟩
  · rw [plain_readPrimary_nil]
    exact .error .unexpectedEnd
  · rw [plain_readPrimary]
    split
    · next number =>
        have shown : (⟨stop, token :: rest⟩ : Cursor).rest = token :: rest := rfl
        exact traced_number? shown number Expression.number
    · exact .ok (.token rfl)
    · have shorter : (Cursor.behind token rest).skipBreaks.size < rest.length + 1 :=
        Nat.lt_succ_of_le (Cursor.size_skipBreaks_le (.behind token rest))
      refine .behind rfl (.skipBreaks ((sum _ shorter).bind fun inner middle _ => ?_))
      exact (traced_expect middle .rightParen).bind fun close next _ => .ok (.refl next)
    · exact .unexpected _ _

theorem traced_unary (cursor : Cursor)
    (inner : ∀ less : Cursor, less.size < cursor.size →
      Traced α less (plain (readUnary (α := α) less)))
    (primary : Traced α cursor (plain (readPrimary (α := α) cursor))) :
    Traced α cursor (plain (readUnary (α := α) cursor)) := by
  rcases cursor with ⟨stop, _ | ⟨token, rest⟩⟩
  · rw [plain_readUnary_nil]
    exact .error .unexpectedEnd
  · have signed := inner (.behind token rest) (Nat.lt_succ_self rest.length)
    rw [plain_readUnary]
    split
    · exact .behind rfl (signed.bind fun tree next _ => .ok (.refl next))
    · exact .behind rfl signed
    · exact primary

theorem traced_factors (left : Expression α) (cursor : Cursor)
    (unary : ∀ less : Cursor, less.size < cursor.size →
      Traced α less (plain (readUnary (α := α) less)))
    (primary : ∀ less : Cursor, less.size ≤ cursor.size →
      Traced α less (plain (readPrimary (α := α) less)))
    (factors : ∀ left : Expression α, ∀ less : Cursor, less.size < cursor.size →
      Traced α less (plain (readFactors left less))) :
    Traced α cursor (plain (readFactors left cursor)) := by
  have shrunk := cursor.size_skipComments_le
  rw [plain_readFactors]
  refine .skipComments ?_
  split
  · exact .ok (.refl _)
  · next token rest shown =>
      rw [Cursor.size_of_rest shown, List.length_cons] at shrunk
      split
      · have shorter : (Cursor.behind token rest).skipBreaks.size < cursor.size :=
          Nat.lt_of_le_of_lt (Cursor.size_skipBreaks_le (.behind token rest)) shrunk
        refine .behind shown (.skipBreaks ((unary _ shorter).bind fun right next read => ?_))
        exact factors _ next (Nat.lt_trans (size_lt_of_plain read) shorter)
      · split
        · refine (primary _ cursor.size_skipComments_le).bind fun right next read => ?_
          exact factors _ next
            (Nat.lt_of_lt_of_le (size_lt_of_plain read) cursor.size_skipComments_le)
        · exact .ok (.refl _)

theorem traced_product (cursor : Cursor)
    (unary : Traced α cursor (plain (readUnary (α := α) cursor)))
    (factors : ∀ left : Expression α, ∀ less : Cursor, less.size < cursor.size →
      Traced α less (plain (readFactors left less))) :
    Traced α cursor (plain (readProduct (α := α) cursor)) := by
  rw [plain_readProduct]
  exact unary.bind fun first next read => factors first next (size_lt_of_plain read)

theorem traced_terms (left : Expression α) (cursor : Cursor)
    (product : ∀ less : Cursor, less.size < cursor.size →
      Traced α less (plain (readProduct (α := α) less)))
    (terms : ∀ left : Expression α, ∀ less : Cursor, less.size < cursor.size →
      Traced α less (plain (readTerms left less))) :
    Traced α cursor (plain (readTerms left cursor)) := by
  have shrunk := cursor.size_skipComments_le
  rw [plain_readTerms]
  refine .skipComments ?_
  split
  · exact .ok (.refl _)
  · next token rest shown =>
      rw [Cursor.size_of_rest shown, List.length_cons] at shrunk
      split
      · have shorter : (Cursor.behind token rest).skipBreaks.size < cursor.size :=
          Nat.lt_of_le_of_lt (Cursor.size_skipBreaks_le (.behind token rest)) shrunk
        refine .behind shown (.skipBreaks ((product _ shorter).bind fun right next read => ?_))
        exact terms _ next (Nat.lt_trans (size_lt_of_plain read) shorter)
      · exact .ok (.refl _)

theorem traced_sum (cursor : Cursor)
    (product : Traced α cursor (plain (readProduct (α := α) cursor)))
    (terms : ∀ left : Expression α, ∀ less : Cursor, less.size < cursor.size →
      Traced α less (plain (readTerms left less))) :
    Traced α cursor (plain (readSum (α := α) cursor)) := by
  rw [plain_readSum]
  exact product.bind fun first next read => terms first next (size_lt_of_plain read)

theorem traced_readSum (cursor : Cursor) : Traced α cursor (plain (readSum (α := α) cursor)) :=
  (reading_induction (α := α) traced_primary traced_unary traced_factors traced_product
    traced_terms traced_sum cursor).2.2.2.2.2

/-- An expression is read from the tokens up to the next place, which derive it
when their comments are left out. -/
theorem passes_of_readSum {cursor next : Cursor} {tree : Expression α}
    (read : plain (readSum cursor) = .ok (tree, next)) :
    ∃ used, Passes cursor used next ∧ IsSum (withoutComments used) tree := by
  have traced := traced_readSum (α := α) cursor
  rw [read] at traced
  rcases traced.passes with ⟨used, passes⟩
  rcases isSum_of_readSum cursor tree next read with ⟨-, tokens, ⟨others, shown, rfl⟩, derived⟩
  have same : used = others := List.append_cancel_right (passes.shown.symm.trans shown)
  exact ⟨used, passes, same ▸ derived⟩

end Tracing

end Language
end Optimum
