import Optimum.Language.Lexer
import Optimum.Proofs.Language.Derivations

namespace Optimum
namespace Language

open Checks

/-!
# What derives a tree is read as that tree

By induction on the derivation.  Products and sums are read up to their end
only, where their readers go on looking for factors and terms, so that the
tokens that follow need no condition before the whole expression has been read
(`readSum_of_isSum`).

Together with the converse this says which tokens are read as an expression,
and where the reader stops (`readSum_acceptsGrammar`).
-/

variable {α : Type} [NumberText α]

theorem IsPrimary.opens {tokens : List Token} {tree : Expression α}
    (derived : IsPrimary tokens tree) :
    ∃ first others, tokens = first :: others ∧ beginsOperand first.kind = true := by
  cases derived with
  | number literal _ => exact ⟨_, [], rfl, by rw [literal]; rfl⟩
  | name named => exact ⟨_, [], rfl, by rw [named]; rfl⟩
  | parenthesized leftParen _ _ _ _ => exact ⟨_, _, rfl, by rw [leftParen]; rfl⟩

/-- An operand begins with a token that is neither a break nor a comment. -/
theorem IsUnary.opens {tokens : List Token} {tree : Expression α} (derived : IsUnary tokens tree) :
    ∃ first others, tokens = first :: others ∧ continuesExpression first.kind = true := by
  cases derived with
  | negate minus _ => exact ⟨_, _, rfl, by rw [minus]; rfl⟩
  | plus plus _ => exact ⟨_, _, rfl, by rw [plus]; rfl⟩
  | primary only =>
      rcases only.opens with ⟨first, others, rfl, begins⟩
      refine ⟨first, others, rfl, ?_⟩
      by_contra closed
      have ended := continuesExpression_eq_false.mp (Bool.eq_false_iff.mpr closed)
      rw [ended.2.2] at begins
      cases begins

theorem IsProduct.opens {tokens : List Token} {tree : Expression α}
    (derived : IsProduct tokens tree) :
    ∃ first others, tokens = first :: others ∧ continuesExpression first.kind = true :=
  match derived with
  | .unary only => only.opens
  | .multiply before _ _ _ | .divide before _ _ _ | .juxtapose before _ => by
      rcases before.opens with ⟨first, others, rfl, continues⟩
      exact ⟨first, _, rfl, continues⟩

theorem IsSum.opens {tokens : List Token} {tree : Expression α} (derived : IsSum tokens tree) :
    ∃ first others, tokens = first :: others ∧ continuesExpression first.kind = true :=
  match derived with
  | .product only => only.opens
  | .add before _ _ _ | .subtract before _ _ _ => by
      rcases before.opens with ⟨first, others, rfl, continues⟩
      exact ⟨first, _, rfl, continues⟩

theorem skipBreaks_breaks {breaks : List Token} (apart : ∀ token ∈ breaks, IsBreak token)
    {first : Token} (ordinary : ¬ IsBreak first) (noComment : first.kind ≠ .comment)
    (stop : Nat) (others : List Token) :
    ∃ last, Cursor.skipBreaks ⟨stop, breaks ++ first :: others⟩ = ⟨last, first :: others⟩ := by
  induction breaks generalizing stop with
  | nil =>
      refine ⟨stop, ?_⟩
      simp only [IsBreak, not_or] at ordinary
      simp only [List.nil_append, Cursor.skipBreaks, Cursor.skipFrom, ordinary, noComment,
        decide_false, Bool.or_self, Bool.false_eq_true, if_false]
  | cons token breaks inductionHypothesis =>
      have head := apart token List.mem_cons_self
      rcases inductionHypothesis (fun other member => apart other (List.mem_cons_of_mem _ member))
          token.span.stop with ⟨last, skipped⟩
      refine ⟨last, ?_⟩
      rw [← skipped]
      rcases head with newline | semicolon
      · simp only [List.cons_append, Cursor.skipBreaks, Cursor.skipFrom, newline, decide_true,
          Bool.true_or, if_true]
      · simp only [List.cons_append, Cursor.skipBreaks, Cursor.skipFrom, semicolon, decide_true,
          Bool.or_true, if_true]

/-- Behind an operator or a parenthesis the reader finds the tokens that
follow the breaks. -/
theorem skipBreaks_behind {breaks tokens : List Token} (apart : ∀ token ∈ breaks, IsBreak token)
    (opens : ∃ first others, tokens = first :: others ∧ continuesExpression first.kind = true)
    (token : Token) (rest : List Token) :
    ∃ last, (Cursor.behind token (breaks ++ tokens ++ rest)).skipBreaks = ⟨last, tokens ++ rest⟩ := by
  rcases opens with ⟨first, others, rfl, continues⟩
  have ordinary : ¬ IsBreak first := by
    rintro (newline | semicolon)
    · rw [newline] at continues
      cases continues
    · rw [semicolon] at continues
      cases continues
  have noComment : first.kind ≠ .comment := by
    intro comment
    rw [comment] at continues
    cases continues
  rw [List.append_assoc]
  exact skipBreaks_breaks apart ordinary noComment token.span.stop (others ++ rest)

theorem readFactors_of_endsProduct {left : Expression α} {cursor : Cursor}
    (ended : EndsProduct cursor.rest) : plain (readFactors left cursor) = .ok (left, cursor) := by
  rw [plain_readFactors, Cursor.skipComments_eq_self fun token next => (ended token next).1]
  split
  · rfl
  · next token rest shown =>
      rcases ended token (by rw [shown]; rfl) with ⟨-, unmarked, noOperand⟩
      simp only [unmarked, noOperand, Bool.false_eq_true, if_false]

theorem EndsSum.endsProduct {tokens : List Token} (ended : EndsSum tokens) : EndsProduct tokens :=
  fun token next =>
    ⟨(ended token next).1, (continuesExpression_eq_false.mp (ended token next).2).2⟩

theorem readTerms_of_endsSum {left : Expression α} {cursor : Cursor} (ended : EndsSum cursor.rest) :
    plain (readTerms left cursor) = .ok (left, cursor) := by
  rw [plain_readTerms, Cursor.skipComments_eq_self fun token next => (ended token next).1]
  split
  · rfl
  · next token rest shown =>
      have closed := (ended token (by rw [shown]; rfl)).2
      simp only [(continuesExpression_eq_false.mp closed).1]

/-- Inside parentheses a sum ends at a break or at the closing parenthesis.
Outside of them a break ends a statement. -/
theorem endsSum_of_closing {breaks : List Token} (apart : ∀ token ∈ breaks, IsBreak token)
    {closing : Token} (rightParen : closing.kind = .rightParen) (rest : List Token) :
    EndsSum (breaks ++ closing :: rest) := by
  intro token next
  cases breaks with
  | nil =>
      cases next
      rw [rightParen]
      decide
  | cons first others =>
      cases next
      rcases apart token List.mem_cons_self with newline | semicolon
      · rw [newline]
        decide
      · rw [semicolon]
        decide

/-- Read as an operand.  Nothing is asked of what follows, since an operand ends
with its last token. -/
def PrimaryRead (tokens : List Token) (tree : Expression α) : Prop :=
  ∀ stop rest, ∃ last, plain (readPrimary ⟨stop, tokens ++ rest⟩) = .ok (tree, ⟨last, rest⟩)

/-- Read as an operand with signs. -/
def UnaryRead (tokens : List Token) (tree : Expression α) : Prop :=
  ∀ stop rest, ∃ last, plain (readUnary ⟨stop, tokens ++ rest⟩) = .ok (tree, ⟨last, rest⟩)

/-- Read as a product as far as the tokens go; its reader then looks for more
factors. -/
def ProductRead (tokens : List Token) (tree : Expression α) : Prop :=
  ∀ stop rest, ∃ last,
    plain (readProduct ⟨stop, tokens ++ rest⟩) = plain (readFactors tree ⟨last, rest⟩)

/-- Read as a sum as far as the tokens go, where the last product ends; its
reader then looks for more terms. -/
def SumRead (tokens : List Token) (tree : Expression α) : Prop :=
  ∀ stop rest, EndsProduct rest → ∃ last,
    plain (readSum ⟨stop, tokens ++ rest⟩) = plain (readTerms tree ⟨last, rest⟩)

theorem primaryRead_number {token : Token} {value : α} (literal : token.kind = .number)
    (denotes : NumberText.read? token.text = some value) : PrimaryRead [token] (.number value) := by
  intro stop rest
  refine ⟨token.span.stop, ?_⟩
  rw [List.singleton_append, plain_readPrimary, literal]
  exact bind_eq_ok_iff.mpr ⟨value, by rw [Token.number?, denotes], rfl⟩

theorem primaryRead_name {token : Token} (named : token.kind = .identifier) :
    PrimaryRead (α := α) [token] (.variable token.text token.span) := by
  intro stop rest
  refine ⟨token.span.stop, ?_⟩
  rw [List.singleton_append, plain_readPrimary, named]
  rfl

theorem primaryRead_parenthesized {opening closing : Token} {breaks tokens others : List Token}
    {tree : Expression α} (leftParen : opening.kind = .leftParen)
    (apart : ∀ token ∈ breaks, IsBreak token) (inner : IsSum tokens tree)
    (read : SumRead tokens tree) (apartAfter : ∀ token ∈ others, IsBreak token)
    (rightParen : closing.kind = .rightParen) :
    PrimaryRead (opening :: (breaks ++ (tokens ++ (others ++ [closing])))) (.parenthesized tree) := by
  intro stop rest
  have ended := endsSum_of_closing apartAfter rightParen rest
  rcases skipBreaks_behind apart inner.opens opening (others ++ closing :: rest) with
      ⟨start, skipped⟩
  rcases read start _ ended.endsProduct with ⟨middle, readTree⟩
  have closes : ¬ IsBreak closing := by simp [IsBreak, rightParen]
  rcases skipBreaks_breaks apartAfter closes (by simp [rightParen]) middle rest with
      ⟨last, skippedAfter⟩
  have readInner : plain (readSum (Cursor.behind opening
      (breaks ++ tokens ++ (others ++ closing :: rest))).skipBreaks) =
      .ok (tree, ⟨middle, others ++ closing :: rest⟩) := by
    rw [skipped, readTree]
    exact readTerms_of_endsSum ended
  have readClose : plain (Cursor.expect ⟨middle, others ++ closing :: rest⟩ .rightParen) =
      .ok (closing, .behind closing rest) := by
    rw [plain_expect, skippedAfter]
    exact if_pos rightParen
  refine ⟨closing.span.stop, ?_⟩
  have spelled : opening :: (breaks ++ (tokens ++ (others ++ [closing]))) ++ rest =
      opening :: (breaks ++ tokens ++ (others ++ closing :: rest)) := by
    simp only [List.cons_append, List.append_assoc, List.nil_append]
  rw [spelled, plain_readPrimary, leftParen]
  exact bind_eq_ok_iff.mpr ⟨_, readInner, bind_eq_ok_iff.mpr ⟨_, readClose, rfl⟩⟩

theorem unaryRead_negate {sign : Token} {tokens : List Token} {tree : Expression α}
    (minus : sign.kind = .minus) (read : UnaryRead tokens tree) :
    UnaryRead (sign :: tokens) (.negate tree) := by
  intro stop rest
  rcases read sign.span.stop rest with ⟨last, readTree⟩
  refine ⟨last, ?_⟩
  rw [List.cons_append, plain_readUnary, minus]
  exact bind_eq_ok_iff.mpr ⟨_, readTree, rfl⟩

theorem unaryRead_plus {sign : Token} {tokens : List Token} {tree : Expression α}
    (plus : sign.kind = .plus) (read : UnaryRead tokens tree) : UnaryRead (sign :: tokens) tree := by
  intro stop rest
  rcases read sign.span.stop rest with ⟨last, readTree⟩
  refine ⟨last, ?_⟩
  rw [List.cons_append, plain_readUnary, plus]
  exact readTree

theorem unaryRead_primary {tokens : List Token} {tree : Expression α}
    (only : IsPrimary tokens tree) (read : PrimaryRead tokens tree) : UnaryRead tokens tree := by
  intro stop rest
  rcases read stop rest with ⟨last, readTree⟩
  refine ⟨last, ?_⟩
  rcases only.opens with ⟨⟨kind, span, text⟩, others, rfl, begins⟩
  rw [List.cons_append] at readTree ⊢
  rw [plain_readUnary]
  cases kind <;> first | exact readTree | cases begins

theorem productRead_unary {tokens : List Token} {tree : Expression α}
    (read : UnaryRead tokens tree) : ProductRead tokens tree := by
  intro stop rest
  rcases read stop rest with ⟨last, readTree⟩
  refine ⟨last, ?_⟩
  rw [plain_readProduct, readTree]
  rfl

theorem productRead_factor {tokens breaks others : List Token} {mark : Token} {operator : Operator}
    {left right : Expression α} (marked : productOperator? mark.kind = some operator)
    (read : ProductRead tokens left) (apart : ∀ token ∈ breaks, IsBreak token)
    (last : IsUnary others right) (readLast : UnaryRead others right) :
    ProductRead (tokens ++ mark :: (breaks ++ others)) (.binary left operator right) := by
  intro stop rest
  rcases read stop (mark :: (breaks ++ others ++ rest)) with ⟨middle, readLeft⟩
  rcases skipBreaks_behind apart last.opens mark rest with ⟨start, skipped⟩
  rcases readLast start rest with ⟨stopped, readRight⟩
  have ordinary : mark.kind ≠ .comment := by
    intro comment
    rw [comment] at marked
    cases marked
  refine ⟨stopped, ?_⟩
  rw [List.append_assoc, List.cons_append, readLeft, plain_readFactors,
    Cursor.skipComments_eq_self fun token next => by cases next; exact ordinary]
  rw [← skipped] at readRight
  simp only [marked, readRight]
  rfl

theorem productRead_juxtaposed {tokens others : List Token} {left right : Expression α}
    (read : ProductRead tokens left) (last : IsPrimary others right)
    (readLast : PrimaryRead others right) :
    ProductRead (tokens ++ others) (.binary left .multiply right) := by
  intro stop rest
  rcases read stop (others ++ rest) with ⟨middle, readLeft⟩
  rcases readLast middle rest with ⟨stopped, readRight⟩
  refine ⟨stopped, ?_⟩
  rcases last.opens with ⟨first, behind, rfl, begins⟩
  have noComment : first.kind ≠ .comment := by
    intro comment
    rw [comment] at begins
    cases begins
  have unmarked : productOperator? first.kind = none := by
    cases kind : first.kind <;> rw [kind] at begins <;> first | rfl | cases begins
  rw [List.cons_append] at readRight
  rw [List.append_assoc, readLeft, List.cons_append, plain_readFactors,
    Cursor.skipComments_eq_self fun token next => by cases next; exact noComment]
  simp only [unmarked, begins, if_true, readRight]
  rfl

theorem sumRead_product {tokens : List Token} {tree : Expression α}
    (read : ProductRead tokens tree) : SumRead tokens tree := by
  intro stop rest ended
  rcases read stop rest with ⟨last, readTree⟩
  rw [readFactors_of_endsProduct ended] at readTree
  refine ⟨last, ?_⟩
  rw [plain_readSum, readTree]
  rfl

theorem sumRead_term {tokens breaks others : List Token} {sign : Token} {operator : Operator}
    {left right : Expression α} (signed : sumOperator? sign.kind = some operator)
    (read : SumRead tokens left) (apart : ∀ token ∈ breaks, IsBreak token)
    (last : IsProduct others right) (readLast : ProductRead others right) :
    SumRead (tokens ++ sign :: (breaks ++ others)) (.binary left operator right) := by
  intro stop rest ended
  -- The sign ends the product before it.
  have endsBefore : EndsProduct (sign :: (breaks ++ others ++ rest)) := by
    intro token next
    cases next
    cases kind : sign.kind <;> rw [kind] at signed <;> cases signed <;> decide
  rcases read stop _ endsBefore with ⟨middle, readLeft⟩
  rcases skipBreaks_behind apart last.opens sign rest with ⟨start, skipped⟩
  rcases readLast start rest with ⟨stopped, readRight⟩
  rw [readFactors_of_endsProduct ended, ← skipped] at readRight
  refine ⟨stopped, ?_⟩
  rw [List.append_assoc, List.cons_append, readLeft, plain_readTerms,
    Cursor.skipComments_eq_self fun token next => (endsBefore token next).1]
  simp only [signed, readRight]
  rfl

/-- Whatever derives a tree is read as that tree, up to its end.  The induction
is on the derivation, all four forms at once. -/
theorem readSum_of_isSum {tokens : List Token} {tree : Expression α}
    (derived : IsSum tokens tree) : SumRead tokens tree :=
  derivation_induction
    (fun _ read => sumRead_product read)
    (fun signed _ read apart last readLast => sumRead_term signed read apart last readLast)
    (fun _ read => productRead_unary read)
    (fun marked _ read apart last readLast => productRead_factor marked read apart last readLast)
    (fun _ read last readLast => productRead_juxtaposed read last readLast)
    (fun minus _ read => unaryRead_negate minus read)
    (fun plus _ read => unaryRead_plus plus read)
    (fun only read => unaryRead_primary only read)
    primaryRead_number primaryRead_name
    (fun leftParen apart inner read apartAfter rightParen =>
      primaryRead_parenthesized leftParen apart inner read apartAfter rightParen)
    derived

/-! ## Acceptance -/

/-- The expression read from the token at `start` on is `tree`, and the reader
stops before the token at `stop`. -/
def ReadsAs (tokens : List Token) (place start stop : Nat) (tree : Expression α) : Prop :=
  start ≤ stop ∧ stop ≤ tokens.length ∧
    ∃ answer, readSum ⟨place, tokens.drop start⟩ = .ok answer ∧ answer.value = tree ∧
      answer.next.rest = tokens.drop stop

/-- The tokens from `start` up to `stop` derive `tree`, and the one at `stop`
cannot go on with it. -/
def DerivesAs (tokens : List Token) (start stop : Nat) (tree : Expression α) : Prop :=
  start ≤ stop ∧ stop ≤ tokens.length ∧
    IsSum ((tokens.drop start).take (stop - start)) tree ∧ Closed (tokens.drop stop)

theorem withoutComments_eq_self {tokens : List Token}
    (plainText : ∀ token ∈ tokens, token.kind ≠ .comment) : withoutComments tokens = tokens :=
  List.filter_eq_self.mpr fun token member => decide_eq_true (plainText token member)

/-- Whatever is read stops at a token of the list, and derives its tree.  There
is no other stopping place, since the list is closed by its last token. -/
theorem derivesAs_of_readSum {tokens : List Token}
    (plainText : ∀ token ∈ tokens, token.kind ≠ .comment) {place start : Nat}
    {tree : Expression α} {next : Cursor}
    (read : plain (readSum ⟨place, tokens.drop start⟩) = .ok (tree, next)) :
    ∃ stop, next.rest = tokens.drop stop ∧ DerivesAs tokens start stop tree := by
  rcases isSum_of_readSum _ tree next read with ⟨ended, derivedTokens, ⟨used, shown, rfl⟩, derived⟩
  have usedPlain : ∀ token ∈ used, token.kind ≠ .comment := by
    intro token member
    refine plainText token (List.mem_of_mem_drop (i := start) ?_)
    rw [show tokens.drop start = _ from shown]
    exact List.mem_append_left _ member
  rw [withoutComments_eq_self usedPlain] at derived
  have left : used ≠ [] := by
    rcases derived.opens with ⟨first, others, rfl, -⟩
    exact List.cons_ne_nil _ _
  have counted := congrArg List.length (show tokens.drop start = _ from shown)
  rw [List.length_drop, List.length_append] at counted
  have nonempty := List.length_pos_of_ne_nil left
  have rest : next.rest = tokens.drop (start + used.length) := by
    rw [← List.drop_drop, show tokens.drop start = _ from shown, List.drop_left]
  refine ⟨start + used.length, rest, Nat.le_add_right _ _, by omega, ?_, ?_⟩
  · rw [Nat.add_sub_cancel_left, show tokens.drop start = _ from shown, List.take_left]
    exact derived
  · rw [← rest]
    exact fun token following => (ended token following).2

theorem readsAs_of_derivesAs {tokens : List Token}
    (plainText : ∀ token ∈ tokens, token.kind ≠ .comment) (place : Nat) {start stop : Nat}
    {tree : Expression α} (derives : DerivesAs tokens start stop tree) :
    ReadsAs tokens place start stop tree := by
  rcases derives with ⟨forward, inside, derived, closed⟩
  have ended : EndsSum (tokens.drop stop) := fun token next =>
    ⟨plainText token (List.mem_of_mem_drop (List.mem_of_mem_head? next)), closed token next⟩
  have split : tokens.drop start =
      (tokens.drop start).take (stop - start) ++ tokens.drop stop := by
    conv_lhs => rw [← List.take_append_drop (stop - start) (tokens.drop start)]
    rw [List.drop_drop, Nat.add_sub_cancel' forward]
  rcases readSum_of_isSum derived place (tokens.drop stop) ended.endsProduct with ⟨last, read⟩
  rw [← split, readTerms_of_endsSum ended] at read
  rcases plain_eq_ok.mp read with ⟨answer, answered, same, rest⟩
  exact ⟨forward, inside, answer, answered, same, by rw [rest]⟩

/-- On tokens without comments, the reader of expressions answers with a tree
and a stopping place exactly where the grammar derives the tree up to there and
nothing goes on with it, and has no answer exactly where the grammar derives
nothing. -/
theorem readSum_acceptsGrammar (tokens : List Token)
    (plainText : ∀ token ∈ tokens, token.kind ≠ .comment) (place start : Nat) :
    (∀ (tree : Expression α) (stop : Nat),
      ReadsAs tokens place start stop tree ↔ DerivesAs tokens start stop tree) ∧
    ((∃ fault, readSum (α := α) ⟨place, tokens.drop start⟩ = .error fault) ↔
      ¬ ∃ (tree : Expression α) (stop : Nat), DerivesAs tokens start stop tree) := by
  refine ⟨fun tree stop => ⟨?_, readsAs_of_derivesAs plainText place⟩, ?_⟩
  · rintro ⟨forward, inside, answer, read, rfl, rest⟩
    rcases derivesAs_of_readSum plainText (plain_eq_ok.mpr ⟨answer, read, rfl, rfl⟩) with
        ⟨reached, same, derives⟩
    have equal : stop = reached := by
      have counted := congrArg List.length (rest.symm.trans same)
      have within := derives.2.1
      rw [List.length_drop, List.length_drop] at counted
      omega
    rwa [equal]
  · constructor
    · rintro ⟨fault, failed⟩ ⟨tree, stop, derives⟩
      rcases readsAs_of_derivesAs plainText place derives with ⟨-, -, answer, read, -⟩
      rw [failed] at read
      cases read
    · intro nothing
      cases answered : readSum (α := α) ⟨place, tokens.drop start⟩ with
      | error fault => exact ⟨fault, rfl⟩
      | ok answer =>
          rcases derivesAs_of_readSum plainText (plain_eq_ok.mpr ⟨answer, answered, rfl, rfl⟩) with
              ⟨stop, -, derives⟩
          exact absurd ⟨answer.value, stop, derives⟩ nothing

theorem readSum_acceptsGrammar_quotient :
    (∀ token ∈ tokenize "2 x / 3 y <= 4", token.kind ≠ .comment) ∧
    (∀ (tree : Expression Float) (stop : Nat),
      ReadsAs (tokenize "2 x / 3 y <= 4") 0 0 stop tree ↔
        DerivesAs (tokenize "2 x / 3 y <= 4") 0 stop tree) ∧
    ((∃ fault, readSum (α := Float) ⟨0, (tokenize "2 x / 3 y <= 4").drop 0⟩ = .error fault) ↔
      ¬ ∃ (tree : Expression Float) (stop : Nat),
        DerivesAs (tokenize "2 x / 3 y <= 4") 0 stop tree) :=
  have plainText : ∀ token ∈ tokenize "2 x / 3 y <= 4", token.kind ≠ .comment := by
    decide +kernel
  ⟨plainText, readSum_acceptsGrammar _ plainText 0 0⟩

end Language
end Optimum
