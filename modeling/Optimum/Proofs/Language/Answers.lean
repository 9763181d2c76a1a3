import Optimum.Language.Reading.Expression

namespace Optimum
namespace Language

/-!
# Readers as plain functions

A reader's answer carries a bound on how much is left, which its recursion
needs and nothing else does.  `plain` forgets the bound.  Each reader is then
given by one equation between plain answers, and what the readers of
expressions have in common is proved by `reading_induction`, whose hypotheses
are sizes of cursors in the place of the bounds.
-/

/-- The value and the place of an answer, without the bound on what is left.
The bound is what makes the readers end; nothing that is said about them depends
on it. -/
def plain {β : Type} {limit : Nat} (answer : Except ParseError (Parsed β limit)) :
    Except ParseError (β × Cursor) :=
  answer.map fun parsed => (parsed.value, parsed.next)

section Plain

variable {β : Type} {limit : Nat}

@[simp] theorem plain_ok (parsed : Parsed β limit) :
    plain (.ok parsed) = .ok (parsed.value, parsed.next) := rfl

@[simp] theorem plain_error (fault : ParseError) :
    plain (.error fault : Except ParseError (Parsed β limit)) = .error fault := rfl

theorem plain_eq_ok {answer : Except ParseError (Parsed β limit)} {value : β} {next : Cursor} :
    plain answer = .ok (value, next) ↔
      ∃ parsed, answer = .ok parsed ∧ parsed.value = value ∧ parsed.next = next := by
  cases answer with
  | error fault => simp
  | ok parsed => simp

theorem size_lt_of_plain {answer : Except ParseError (Parsed β limit)} {value : β} {next : Cursor}
    (read : plain answer = .ok (value, next)) : next.size < limit := by
  rcases plain_eq_ok.mp read with ⟨parsed, _, _, rfl⟩
  exact parsed.within

/-- An answer that is read on from is read on from plainly. -/
theorem plain_bind {γ : Type} {larger : Nat} {answer : Except ParseError (Parsed β limit)}
    {onward : Parsed β limit → Except ParseError (Parsed γ larger)}
    {plainly : β × Cursor → Except ParseError (γ × Cursor)}
    (same : ∀ parsed, plain (onward parsed) = plainly (parsed.value, parsed.next)) :
    plain (answer >>= onward) = plain answer >>= plainly := by
  cases answer with
  | error fault => rfl
  | ok parsed => exact same parsed

theorem plain_rewrap {larger : Nat} {answer : Except ParseError (Parsed β limit)}
    {rewrap : Parsed β limit → Parsed β larger}
    (same : ∀ parsed, (rewrap parsed).value = parsed.value ∧ (rewrap parsed).next = parsed.next) :
    plain (answer >>= fun parsed => pure (rewrap parsed)) = plain answer := by
  cases answer with
  | error fault => rfl
  | ok parsed => exact congrArg Except.ok (Prod.ext (same parsed).1 (same parsed).2)

end Plain

/-! ## Cursors -/

/-- The tokens that are not comments. -/
def withoutComments (tokens : List Token) : List Token :=
  tokens.filter fun token => token.kind ≠ .comment

@[simp] theorem withoutComments_append (left right : List Token) :
    withoutComments (left ++ right) = withoutComments left ++ withoutComments right :=
  List.filter_append left right

namespace Cursor

/-- The place behind a token. -/
def behind (token : Token) (rest : List Token) : Cursor :=
  ⟨token.span.stop, rest⟩

theorem rest_skipFrom (skipped : TokenKind → Bool) (stop : Nat) (tokens : List Token) :
    (skipFrom skipped stop tokens).rest = tokens.dropWhile fun token => skipped token.kind := by
  induction tokens generalizing stop with
  | nil => rfl
  | cons token rest inductionHypothesis =>
      rw [skipFrom, List.dropWhile_cons]
      split
      · exact inductionHypothesis _
      · rfl

theorem skipComments_eq_self {cursor : Cursor}
    (ordinary : ∀ token ∈ cursor.rest.head?, token.kind ≠ .comment) :
    cursor.skipComments = cursor := by
  rcases cursor with ⟨stop, _ | ⟨token, rest⟩⟩
  · rfl
  · have first : token.kind ≠ .comment := ordinary token rfl
    simp only [skipComments, skipFrom, first, decide_false, Bool.false_eq_true, if_false]

theorem not_comment_of_skipComments (cursor : Cursor) :
    ∀ token ∈ cursor.skipComments.rest.head?, token.kind ≠ .comment := by
  intro token next
  rw [skipComments, rest_skipFrom] at next
  have stopped := List.head?_dropWhile_not (fun token : Token => decide (token.kind = .comment))
    cursor.rest
  rw [Option.mem_def.mp next] at stopped
  simpa using stopped

theorem take?_eq_none {cursor : Cursor} (taken : cursor.take? = none) : cursor.rest = [] := by
  rcases cursor with ⟨stop, _ | ⟨token, rest⟩⟩
  · rfl
  · cases taken

theorem take?_eq_some {cursor : Cursor} {token : Parsed Token cursor.size}
    (taken : cursor.take? = some token) :
    ∃ rest, cursor.rest = token.value :: rest ∧ token.next = behind token.value rest := by
  rcases cursor with ⟨stop, _ | ⟨first, rest⟩⟩
  · cases taken
  · cases taken
    exact ⟨rest, rfl, rfl⟩

theorem takeAfterComments?_eq_none {cursor : Cursor} (taken : cursor.takeAfterComments? = none) :
    cursor.skipComments.rest = [] :=
  take?_eq_none (Option.map_eq_none_iff.mp taken)

theorem takeAfterComments?_eq_some {cursor : Cursor} {token : Parsed Token cursor.size}
    (taken : cursor.takeAfterComments? = some token) :
    ∃ rest, cursor.skipComments.rest = token.value :: rest ∧
      token.next = behind token.value rest := by
  rcases Option.map_eq_some_iff.mp taken with ⟨first, read, rfl⟩
  exact take?_eq_some read

theorem takeAfterBreaks?_eq_none {cursor : Cursor} (taken : cursor.takeAfterBreaks? = none) :
    cursor.skipBreaks.rest = [] :=
  take?_eq_none (Option.map_eq_none_iff.mp taken)

theorem takeAfterBreaks?_eq_some {cursor : Cursor} {token : Parsed Token cursor.size}
    (taken : cursor.takeAfterBreaks? = some token) :
    ∃ rest, cursor.skipBreaks.rest = token.value :: rest ∧
      token.next = behind token.value rest := by
  rcases Option.map_eq_some_iff.mp taken with ⟨first, read, rfl⟩
  exact take?_eq_some read

theorem size_of_rest {cursor : Cursor} {tokens : List Token} (shown : cursor.rest = tokens) :
    cursor.size = tokens.length :=
  congrArg List.length shown

/-- Induction on what is left.  Readers have no structure of their own to induct
on, since each step may pass any number of tokens. -/
theorem size_induction {motive : Cursor → Prop}
    (step : ∀ cursor, (∀ less : Cursor, less.size < cursor.size → motive less) → motive cursor)
    (cursor : Cursor) : motive cursor := by
  induction length : cursor.size using Nat.strongRecOn generalizing cursor with
  | ind size onLess =>
      subst length
      exact step cursor fun less smaller => onLess less.size smaller less rfl

end Cursor

theorem plain_expect (cursor : Cursor) (kind : TokenKind) :
    plain (cursor.expect kind) =
      match cursor.skipBreaks.rest with
      | [] => .error (cursor.skipBreaks.unexpected (.token kind))
      | token :: rest =>
        if token.kind = kind then .ok (token, .behind token rest)
        else .error (cursor.skipBreaks.unexpected (.token kind)) := by
  rw [Cursor.expect]
  cases taken : cursor.takeAfterBreaks? with
  | none =>
      rw [Cursor.takeAfterBreaks?_eq_none taken]
      rfl
  | some token =>
      rcases Cursor.takeAfterBreaks?_eq_some taken with ⟨rest, shown, next⟩
      simp only [shown]
      split
      · exact congrArg (fun place => Except.ok (token.value, place)) next
      · rfl

variable {α : Type} [NumberText α]

/-! ## The readers of expressions -/

theorem plain_readPrimary_nil (stop : Nat) :
    plain (readPrimary (α := α) ⟨stop, []⟩) = .error .unexpectedEnd := by
  rw [readPrimary]
  rfl

theorem plain_readPrimary (stop : Nat) (token : Token) (rest : List Token) :
    plain (readPrimary (α := α) ⟨stop, token :: rest⟩) =
      match token.kind with
      | .number => do
        let value ← token.number?
        return (.number value, .behind token rest)
      | .identifier => .ok (.variable token.text token.span, .behind token rest)
      | .leftParen => do
        let inner ← plain (readSum (Cursor.behind token rest).skipBreaks)
        let close ← plain (inner.2.expect .rightParen)
        return (.parenthesized inner.1, close.2)
      | _ => .error (Cursor.unexpected ⟨stop, token :: rest⟩ .operand) := by
  rw [readPrimary]
  rcases token with ⟨kind, span, text⟩
  cases kind with
  | number =>
      dsimp only [Cursor.take?]
      cases Token.number? (α := α) ⟨.number, span, text⟩ <;> rfl
  | leftParen => exact plain_bind fun inner => plain_bind fun close => rfl
  | _ => rfl

theorem plain_readUnary_nil (stop : Nat) :
    plain (readUnary (α := α) ⟨stop, []⟩) = .error .unexpectedEnd := by
  rw [readUnary]
  exact plain_readPrimary_nil stop

theorem plain_readUnary (stop : Nat) (token : Token) (rest : List Token) :
    plain (readUnary (α := α) ⟨stop, token :: rest⟩) =
      match token.kind with
      | .minus => do
        let inner ← plain (readUnary (Cursor.behind token rest))
        return (.negate inner.1, inner.2)
      | .plus => plain (readUnary (Cursor.behind token rest))
      | _ => plain (readPrimary ⟨stop, token :: rest⟩) := by
  rw [readUnary]
  rcases token with ⟨kind, span, text⟩
  cases kind with
  | minus => exact plain_bind fun inner => rfl
  | plus => exact plain_rewrap fun inner => ⟨rfl, rfl⟩
  | _ => rfl

theorem plain_readFactors (left : Expression α) (cursor : Cursor) :
    plain (readFactors left cursor) =
      match cursor.skipComments.rest with
      | [] => .ok (left, cursor.skipComments)
      | token :: rest =>
        match productOperator? token.kind with
        | some operator => do
          let right ← plain (readUnary (Cursor.behind token rest).skipBreaks)
          plain (readFactors (.binary left operator right.1) right.2)
        | none =>
          if beginsOperand token.kind then do
            let right ← plain (readPrimary cursor.skipComments)
            plain (readFactors (.binary left .multiply right.1) right.2)
          else .ok (left, cursor.skipComments) := by
  rw [readFactors]
  cases taken : cursor.takeAfterComments? with
  | none =>
      rw [Cursor.takeAfterComments?_eq_none taken]
      rfl
  | some token =>
      rcases Cursor.takeAfterComments?_eq_some taken with ⟨rest, shown, next⟩
      simp only [shown]
      cases productOperator? token.value.kind with
      | some operator =>
          dsimp only
          rw [← next]
          exact plain_bind fun right => plain_rewrap fun all => ⟨rfl, rfl⟩
      | none =>
          dsimp only
          split
          · exact plain_bind fun right => plain_rewrap fun all => ⟨rfl, rfl⟩
          · rfl

theorem plain_readProduct (cursor : Cursor) :
    plain (readProduct (α := α) cursor) =
      plain (readUnary cursor) >>= fun first => plain (readFactors first.1 first.2) := by
  rw [readProduct]
  exact plain_bind fun first => plain_rewrap fun all => ⟨rfl, rfl⟩

theorem plain_readTerms (left : Expression α) (cursor : Cursor) :
    plain (readTerms left cursor) =
      match cursor.skipComments.rest with
      | [] => .ok (left, cursor.skipComments)
      | token :: rest =>
        match sumOperator? token.kind with
        | some operator => do
          let right ← plain (readProduct (Cursor.behind token rest).skipBreaks)
          plain (readTerms (.binary left operator right.1) right.2)
        | none => .ok (left, cursor.skipComments) := by
  rw [readTerms]
  cases taken : cursor.takeAfterComments? with
  | none =>
      rw [Cursor.takeAfterComments?_eq_none taken]
      rfl
  | some token =>
      rcases Cursor.takeAfterComments?_eq_some taken with ⟨rest, shown, next⟩
      simp only [shown]
      cases sumOperator? token.value.kind with
      | some operator =>
          dsimp only
          rw [← next]
          exact plain_bind fun right => plain_rewrap fun all => ⟨rfl, rfl⟩
      | none => rfl

theorem plain_readSum (cursor : Cursor) :
    plain (readSum (α := α) cursor) =
      plain (readProduct cursor) >>= fun first => plain (readTerms first.1 first.2) := by
  rw [readSum]
  exact plain_bind fun first => plain_rewrap fun all => ⟨rfl, rfl⟩

/-! ## Induction on what is left -/

/-- What holds of the readers of expressions if, for each of them, it follows
from what the others do on less text.  An operand is read before its signs, the
signs before a product and products before a sum, on the same text. -/
theorem reading_induction {α : Type} {primary unary product sum : Cursor → Prop}
    {factors terms : Expression α → Cursor → Prop}
    (forPrimary : ∀ cursor, (∀ less : Cursor, less.size < cursor.size → sum less) → primary cursor)
    (forUnary : ∀ cursor, (∀ less : Cursor, less.size < cursor.size → unary less) →
      primary cursor → unary cursor)
    (forFactors : ∀ left cursor, (∀ less : Cursor, less.size < cursor.size → unary less) →
      (∀ less : Cursor, less.size ≤ cursor.size → primary less) →
      (∀ left, ∀ less : Cursor, less.size < cursor.size → factors left less) → factors left cursor)
    (forProduct : ∀ cursor, unary cursor →
      (∀ left, ∀ less : Cursor, less.size < cursor.size → factors left less) → product cursor)
    (forTerms : ∀ left cursor, (∀ less : Cursor, less.size < cursor.size → product less) →
      (∀ left, ∀ less : Cursor, less.size < cursor.size → terms left less) → terms left cursor)
    (forSum : ∀ cursor, product cursor →
      (∀ left, ∀ less : Cursor, less.size < cursor.size → terms left less) → sum cursor) :
    ∀ cursor : Cursor, primary cursor ∧ unary cursor ∧ (∀ left, factors left cursor) ∧
      product cursor ∧ (∀ left, terms left cursor) ∧ sum cursor := by
  intro cursor
  induction cursor using Cursor.size_induction with
  | step cursor less =>
      -- Of a cursor of the same size only the operand at its place is needed.
      have operands : ∀ other : Cursor, other.size ≤ cursor.size → primary other :=
        fun other bound => forPrimary other fun inner smaller =>
          (less inner (Nat.lt_of_lt_of_le smaller bound)).2.2.2.2.2
      have signed := forUnary cursor (fun other smaller => (less other smaller).2.1)
        (operands cursor (Nat.le_refl _))
      have factored := fun left (other : Cursor) smaller => (less other smaller).2.2.1 left
      have multiplied := forProduct cursor signed factored
      have added := fun left (other : Cursor) smaller => (less other smaller).2.2.2.2.1 left
      exact ⟨operands cursor (Nat.le_refl _), signed,
        fun left => forFactors left cursor (fun other smaller => (less other smaller).2.1)
          operands factored,
        multiplied,
        fun left => forTerms left cursor (fun other smaller => (less other smaller).2.2.2.1) added,
        forSum cursor multiplied added⟩

end Language
end Optimum
