import Optimum.Proofs.Checks
import Optimum.Proofs.Language.Grammar

namespace Optimum
namespace Language

open Checks

/-!
# What was read derives its tree

What a reader has taken derives its tree, comments left out, and what it stops
at cannot go on with it (`isSum_of_readSum`).  The statements about the six
readers follow from each other on less text.
-/

variable {α : Type}

/-- Tokens that complete whatever has the form and the left tree. -/
def Completes (form : List Token → Expression α → Prop) (left : Expression α)
    (tokens : List Token) (tree : Expression α) : Prop :=
  ∀ before, form before left → form (before ++ tokens) tree

theorem Completes.self (form : List Token → Expression α → Prop) (left : Expression α) :
    Completes form left [] left := by
  intro before derived
  rwa [List.append_nil]

theorem Completes.trans {form : List Token → Expression α → Prop} {left middle tree : Expression α}
    {tokens others : List Token} (first : Completes form left tokens middle)
    (second : Completes form middle others tree) : Completes form left (tokens ++ others) tree := by
  intro before derived
  rw [← List.append_assoc]
  exact second _ (first before derived)

variable [NumberText α]

/-- What is left when a product ends. -/
def EndsProduct (tokens : List Token) : Prop :=
  ∀ token ∈ tokens.head?, token.kind ≠ .comment ∧ productOperator? token.kind = none ∧
    beginsOperand token.kind = false

/-- What is left when a sum ends. -/
def EndsSum (tokens : List Token) : Prop :=
  ∀ token ∈ tokens.head?, token.kind ≠ .comment ∧ continuesExpression token.kind = false

theorem number?_eq_ok {token : Token} {value : α} (read : token.number? = .ok value) :
    NumberText.read? token.text = some value := by
  unfold Token.number? at read
  split at read
  · cases read
    assumption
  · cases read

theorem consumes_expect {cursor next : Cursor} {kind : TokenKind} {token : Token}
    (ordinary : kind ≠ .comment) (read : plain (cursor.expect kind) = .ok (token, next)) :
    token.kind = kind ∧
      ∃ breaks, (∀ token ∈ breaks, IsBreak token) ∧ Consumes cursor next (breaks ++ [token]) := by
  rw [plain_expect] at read
  rcases Consumes.skipBreaks cursor with ⟨breaks, passed, apart⟩
  split at read
  · cases read
  · next first rest shown =>
      split at read
      · next same =>
          cases read
          exact ⟨same, breaks, apart, passed.trans (.token shown (same ▸ ordinary))⟩
      · cases read

/-- A sign, a mark or a parenthesis with the breaks behind it. -/
theorem consumes_breaks {cursor : Cursor} {token : Token} {rest : List Token}
    (shown : cursor.rest = token :: rest) (ordinary : token.kind ≠ .comment) :
    ∃ breaks, (∀ token ∈ breaks, IsBreak token) ∧
      Consumes cursor (Cursor.behind token rest).skipBreaks (token :: breaks) := by
  rcases Consumes.skipBreaks (Cursor.behind token rest) with ⟨breaks, passed, apart⟩
  exact ⟨breaks, apart, (Consumes.token shown ordinary).trans passed⟩

/-- An answer with a tree whose tokens have the form, and with what is left
behind it. -/
def Reads (form : List Token → Expression α → Prop) (ends : List Token → Prop) (cursor : Cursor)
    (answer : Except ParseError (Expression α × Cursor)) : Prop :=
  ∀ tree next, answer = .ok (tree, next) →
    ends next.rest ∧ ∃ tokens, Consumes cursor next tokens ∧ form tokens tree

theorem reads_primary (cursor : Cursor)
    (sum : ∀ less : Cursor, less.size < cursor.size →
      Reads (α := α) IsSum EndsSum less (plain (readSum less))) :
    Reads (α := α) IsPrimary (fun _ => True) cursor (plain (readPrimary cursor)) := by
  intro tree next read
  refine ⟨trivial, ?_⟩
  rcases cursor with ⟨stop, _ | ⟨token, rest⟩⟩
  · rw [plain_readPrimary_nil] at read
    cases read
  · rw [plain_readPrimary] at read
    split at read
    · next literal =>
        rcases bind_eq_ok_iff.mp read with ⟨value, denotes, answered⟩
        cases answered
        exact ⟨_, .token rfl (by simp [literal]), .number literal (number?_eq_ok denotes)⟩
    · next named =>
        cases read
        exact ⟨_, .token rfl (by simp [named]), .name named⟩
    · next opening =>
        rcases bind_eq_ok_iff.mp read with ⟨inner, readInner, onward⟩
        rcases bind_eq_ok_iff.mp onward with ⟨close, readClose, answered⟩
        cases answered
        have opened : (⟨stop, token :: rest⟩ : Cursor).rest = token :: rest := rfl
        rcases consumes_breaks opened (by simp [opening]) with ⟨breaks, apart, begun⟩
        have shorter : (Cursor.behind token rest).skipBreaks.size < rest.length + 1 :=
          Nat.lt_succ_of_le (Cursor.size_skipBreaks_le (.behind token rest))
        rcases sum _ shorter _ _ readInner with ⟨-, tokens, consumed, derived⟩
        rcases consumes_expect (by decide) readClose with ⟨closing, others, apartAfter, ended⟩
        exact ⟨_, begun.trans (consumed.trans ended),
          .parenthesized opening apart derived apartAfter closing⟩
    · cases read

theorem reads_unary (cursor : Cursor)
    (inner : ∀ less : Cursor, less.size < cursor.size →
      Reads (α := α) IsUnary (fun _ => True) less (plain (readUnary less)))
    (primary : Reads (α := α) IsPrimary (fun _ => True) cursor (plain (readPrimary cursor))) :
    Reads (α := α) IsUnary (fun _ => True) cursor (plain (readUnary cursor)) := by
  intro tree next read
  refine ⟨trivial, ?_⟩
  rcases cursor with ⟨stop, _ | ⟨token, rest⟩⟩
  · rw [plain_readUnary_nil] at read
    cases read
  · have shorter : (Cursor.behind token rest).size < rest.length + 1 := Nat.lt_succ_self _
    rw [plain_readUnary] at read
    split at read
    · next minus =>
        rcases bind_eq_ok_iff.mp read with ⟨operand, readOperand, answered⟩
        cases answered
        rcases inner _ shorter _ _ readOperand with ⟨-, tokens, consumed, derived⟩
        exact ⟨_, (Consumes.token rfl (by simp [minus])).trans consumed, .negate minus derived⟩
    · next plus =>
        rcases inner _ shorter _ _ read with ⟨-, tokens, consumed, derived⟩
        exact ⟨_, (Consumes.token rfl (by simp [plus])).trans consumed, .plus plus derived⟩
    · rcases primary _ _ read with ⟨-, tokens, consumed, derived⟩
      exact ⟨tokens, consumed, .primary derived⟩

theorem reads_factors (left : Expression α) (cursor : Cursor)
    (unary : ∀ less : Cursor, less.size < cursor.size →
      Reads (α := α) IsUnary (fun _ => True) less (plain (readUnary less)))
    (primary : ∀ less : Cursor, less.size ≤ cursor.size →
      Reads (α := α) IsPrimary (fun _ => True) less (plain (readPrimary less)))
    (factors : ∀ left : Expression α, ∀ less : Cursor, less.size < cursor.size →
      Reads (Completes IsProduct left) EndsProduct less (plain (readFactors left less))) :
    Reads (Completes IsProduct left) EndsProduct cursor (plain (readFactors left cursor)) := by
  intro tree next read
  have skipped := Consumes.skipComments cursor
  have shrunk := cursor.size_skipComments_le
  rw [plain_readFactors] at read
  split at read
  · next nothing =>
      cases read
      refine ⟨?_, [], skipped, .self (IsProduct (α := α)) left⟩
      rw [nothing]
      exact fun token impossible => nomatch impossible
  · next token rest shown =>
      rw [Cursor.size_of_rest shown, List.length_cons] at shrunk
      have ordinary : token.kind ≠ .comment :=
        cursor.not_comment_of_skipComments token (by rw [shown]; rfl)
      split at read
      · next operator marked =>
          rcases bind_eq_ok_iff.mp read with ⟨right, readRight, onward⟩
          rcases consumes_breaks shown ordinary with ⟨breaks, apart, begun⟩
          have shorter : (Cursor.behind token rest).skipBreaks.size < cursor.size :=
            Nat.lt_of_le_of_lt (Cursor.size_skipBreaks_le (.behind token rest)) shrunk
          rcases unary _ shorter _ _ readRight with ⟨-, tokens, consumed, derived⟩
          have behind := Nat.lt_trans (size_lt_of_plain readRight) shorter
          rcases factors _ _ behind _ _ onward with ⟨ends, others, consumedAfter, completes⟩
          have completesFirst : Completes IsProduct left (token :: (breaks ++ tokens))
              (.binary left operator right.1) :=
            fun before derivedLeft => derivedLeft.factor marked apart derived
          exact ⟨ends, _, (skipped.trans (begun.trans consumed)).trans consumedAfter,
            completesFirst.trans completes⟩
      · next unmarked =>
          split at read
          · rcases bind_eq_ok_iff.mp read with ⟨right, readRight, onward⟩
            rcases primary _ cursor.size_skipComments_le _ _ readRight with
                ⟨-, tokens, consumed, derived⟩
            have behind := Nat.lt_of_lt_of_le (size_lt_of_plain readRight)
              cursor.size_skipComments_le
            rcases factors _ _ behind _ _ onward with ⟨ends, others, consumedAfter, completes⟩
            have completesFirst : Completes IsProduct left tokens (.binary left .multiply right.1) :=
              fun before derivedLeft => .juxtapose derivedLeft derived
            exact ⟨ends, _, (skipped.trans consumed).trans consumedAfter,
              completesFirst.trans completes⟩
          · next noOperand =>
              cases read
              refine ⟨?_, [], skipped, .self (IsProduct (α := α)) left⟩
              rw [shown]
              intro other first
              cases first
              exact ⟨ordinary, unmarked, Bool.eq_false_iff.mpr noOperand⟩

theorem reads_product (cursor : Cursor)
    (unary : Reads (α := α) IsUnary (fun _ => True) cursor (plain (readUnary cursor)))
    (factors : ∀ left : Expression α, ∀ less : Cursor, less.size < cursor.size →
      Reads (α := α) (Completes IsProduct left) EndsProduct less (plain (readFactors left less))) :
    Reads (α := α) IsProduct EndsProduct cursor (plain (readProduct cursor)) := by
  intro tree next read
  rw [plain_readProduct] at read
  rcases bind_eq_ok_iff.mp read with ⟨first, readFirst, onward⟩
  rcases unary _ _ readFirst with ⟨-, tokens, consumed, derived⟩
  rcases factors _ _ (size_lt_of_plain readFirst) _ _ onward with
      ⟨ends, others, consumedAfter, completes⟩
  exact ⟨ends, _, consumed.trans consumedAfter, completes _ (.unary derived)⟩

/-- Terms are looked for where a product has ended.  The induction is on what is
left of the tokens. -/
theorem reads_terms (left : Expression α) (cursor : Cursor)
    (product : ∀ less : Cursor, less.size < cursor.size →
      Reads (α := α) IsProduct EndsProduct less (plain (readProduct less)))
    (terms : ∀ left : Expression α, ∀ less : Cursor, less.size < cursor.size → EndsProduct less.rest →
      Reads (Completes IsSum left) EndsSum less (plain (readTerms left less)))
    (ended : EndsProduct cursor.rest) :
    Reads (Completes IsSum left) EndsSum cursor (plain (readTerms left cursor)) := by
  intro tree next read
  have skipped := Consumes.skipComments cursor
  have shrunk := cursor.size_skipComments_le
  rw [plain_readTerms] at read
  split at read
  · next nothing =>
      cases read
      refine ⟨?_, [], skipped, .self (IsSum (α := α)) left⟩
      rw [nothing]
      exact fun token impossible => nomatch impossible
  · next token rest shown =>
      rw [Cursor.size_of_rest shown, List.length_cons] at shrunk
      have ordinary : token.kind ≠ .comment :=
        cursor.not_comment_of_skipComments token (by rw [shown]; rfl)
      split at read
      · next operator signed =>
          rcases bind_eq_ok_iff.mp read with ⟨right, readRight, onward⟩
          rcases consumes_breaks shown ordinary with ⟨breaks, apart, begun⟩
          have shorter : (Cursor.behind token rest).skipBreaks.size < cursor.size :=
            Nat.lt_of_le_of_lt (Cursor.size_skipBreaks_le (.behind token rest)) shrunk
          rcases product _ shorter _ _ readRight with ⟨endsProduct, tokens, consumed, derived⟩
          have behind := Nat.lt_trans (size_lt_of_plain readRight) shorter
          rcases terms _ _ behind endsProduct _ _ onward with
              ⟨ends, others, consumedAfter, completes⟩
          have completesFirst : Completes IsSum left (token :: (breaks ++ tokens))
              (.binary left operator right.1) :=
            fun before derivedLeft => derivedLeft.term signed apart derived
          exact ⟨ends, _, (skipped.trans (begun.trans consumed)).trans consumedAfter,
            completesFirst.trans completes⟩
      · next unsigned =>
          cases read
          refine ⟨?_, [], skipped, .self (IsSum (α := α)) left⟩
          rw [Cursor.skipComments_eq_self fun token next => (ended token next).1] at shown ⊢
          intro other first
          rw [shown] at first
          cases first
          have last := ended token (by rw [shown]; rfl)
          exact ⟨last.1, continuesExpression_eq_false.mpr ⟨unsigned, last.2⟩⟩

theorem reads_sum (cursor : Cursor)
    (product : Reads (α := α) IsProduct EndsProduct cursor (plain (readProduct cursor)))
    (terms : ∀ left : Expression α, ∀ less : Cursor, less.size < cursor.size →
      EndsProduct less.rest →
      Reads (Completes IsSum left) EndsSum less (plain (readTerms left less))) :
    Reads (α := α) IsSum EndsSum cursor (plain (readSum cursor)) := by
  intro tree next read
  rw [plain_readSum] at read
  rcases bind_eq_ok_iff.mp read with ⟨first, readFirst, onward⟩
  rcases product _ _ readFirst with ⟨ended, tokens, consumed, derived⟩
  rcases terms _ _ (size_lt_of_plain readFirst) ended _ _ onward with
      ⟨ends, others, consumedAfter, completes⟩
  exact ⟨ends, _, consumed.trans consumedAfter, completes _ (.product derived)⟩

/-- Whatever is read as an expression derives it, comments left out, and
nothing that could continue it comes next. -/
theorem isSum_of_readSum (cursor : Cursor) :
    Reads (α := α) IsSum EndsSum cursor (plain (readSum cursor)) := by
  have readers := reading_induction (α := α) reads_primary reads_unary reads_factors reads_product
    reads_terms reads_sum cursor
  exact readers.2.2.2.2.2

end Language
end Optimum
