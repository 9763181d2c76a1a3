import Optimum.Proofs.Language.Answers

namespace Optimum
namespace Language

/-!
# The grammar of expressions

The grammar is stated on its own, as relations between tokens and trees: a sum
of products of signed operands, every level grouped to the left, line ends and
semicolons allowed behind an operator and inside parentheses.  Comments are no
part of it.

A reader takes from a text exactly what the grammar calls an expression:
`readSum` reads tokens that derive the tree it answers with and stops where
nothing can continue the expression (`isSum_of_readSum`, on any text, comments
left out), and whatever derives a tree is read as that tree, whatever follows
(`readSum_of_isSum`).
-/

variable {α : Type} [NumberText α]

/-- Line ends and semicolons.  Between the operands of an expression they mean
the same, and only after it they end something. -/
def IsBreak (token : Token) : Prop :=
  token.kind = .newline ∨ token.kind = .semicolon

mutual

/-- Terms with `+` and `-` between them.  The tree leans to the left, so each
rule adds one term behind a sum. -/
inductive IsSum : List Token → Expression α → Prop
  | product {tokens : List Token} {tree : Expression α} (only : IsProduct tokens tree) :
      IsSum tokens tree
  | add {tokens breaks others : List Token} {sign : Token} {left right : Expression α}
      (before : IsSum tokens left) (plus : sign.kind = .plus)
      (apart : ∀ token ∈ breaks, IsBreak token) (last : IsProduct others right) :
      IsSum (tokens ++ sign :: (breaks ++ others)) (.binary left .add right)
  | subtract {tokens breaks others : List Token} {sign : Token} {left right : Expression α}
      (before : IsSum tokens left) (minus : sign.kind = .minus)
      (apart : ∀ token ∈ breaks, IsBreak token) (last : IsProduct others right) :
      IsSum (tokens ++ sign :: (breaks ++ others)) (.binary left .subtract right)

/-- Factors with `*` or `/` between them, or with nothing where an operand
without a sign follows. -/
inductive IsProduct : List Token → Expression α → Prop
  | unary {tokens : List Token} {tree : Expression α} (only : IsUnary tokens tree) :
      IsProduct tokens tree
  | multiply {tokens breaks others : List Token} {mark : Token} {left right : Expression α}
      (before : IsProduct tokens left) (star : mark.kind = .star)
      (apart : ∀ token ∈ breaks, IsBreak token) (last : IsUnary others right) :
      IsProduct (tokens ++ mark :: (breaks ++ others)) (.binary left .multiply right)
  | divide {tokens breaks others : List Token} {mark : Token} {left right : Expression α}
      (before : IsProduct tokens left) (slash : mark.kind = .slash)
      (apart : ∀ token ∈ breaks, IsBreak token) (last : IsUnary others right) :
      IsProduct (tokens ++ mark :: (breaks ++ others)) (.binary left .divide right)
  | juxtapose {tokens others : List Token} {left right : Expression α}
      (before : IsProduct tokens left) (last : IsPrimary others right) :
      IsProduct (tokens ++ others) (.binary left .multiply right)

/-- An operand behind any number of signs.  A plus sign leaves no trace.  No
break may stand between a sign and its operand. -/
inductive IsUnary : List Token → Expression α → Prop
  | negate {sign : Token} {tokens : List Token} {tree : Expression α}
      (minus : sign.kind = .minus) (inner : IsUnary tokens tree) :
      IsUnary (sign :: tokens) (.negate tree)
  | plus {sign : Token} {tokens : List Token} {tree : Expression α}
      (plus : sign.kind = .plus) (inner : IsUnary tokens tree) : IsUnary (sign :: tokens) tree
  | primary {tokens : List Token} {tree : Expression α} (only : IsPrimary tokens tree) :
      IsUnary tokens tree

/-- A number, a name or a sum in parentheses.  Breaks may stand on the inner
sides of the parentheses. -/
inductive IsPrimary : List Token → Expression α → Prop
  | number {token : Token} {value : α} (literal : token.kind = .number)
      (denotes : NumberText.read? token.text = some value) : IsPrimary [token] (.number value)
  | name {token : Token} (named : token.kind = .identifier) :
      IsPrimary [token] (.variable token.text token.span)
  | parenthesized {opening closing : Token} {breaks tokens others : List Token}
      {tree : Expression α} (leftParen : opening.kind = .leftParen)
      (apart : ∀ token ∈ breaks, IsBreak token) (inner : IsSum tokens tree)
      (apartAfter : ∀ token ∈ others, IsBreak token) (rightParen : closing.kind = .rightParen) :
      IsPrimary (opening :: (breaks ++ (tokens ++ (others ++ [closing])))) (.parenthesized tree)

end

theorem IsSum.term {tokens breaks others : List Token} {sign : Token} {operator : Operator}
    {left right : Expression α} (before : IsSum tokens left)
    (signed : sumOperator? sign.kind = some operator) (apart : ∀ token ∈ breaks, IsBreak token)
    (last : IsProduct others right) :
    IsSum (tokens ++ sign :: (breaks ++ others)) (.binary left operator right) := by
  cases kind : sign.kind <;> rw [kind] at signed <;> cases signed
  · exact .add before kind apart last
  · exact .subtract before kind apart last

theorem IsProduct.factor {tokens breaks others : List Token} {mark : Token} {operator : Operator}
    {left right : Expression α} (before : IsProduct tokens left)
    (marked : productOperator? mark.kind = some operator) (apart : ∀ token ∈ breaks, IsBreak token)
    (last : IsUnary others right) :
    IsProduct (tokens ++ mark :: (breaks ++ others)) (.binary left operator right) := by
  cases kind : mark.kind <;> rw [kind] at marked <;> cases marked
  · exact .multiply before kind apart last
  · exact .divide before kind apart last

/-- What holds of every derivation if each rule keeps it.  The four forms refer
to one another, so their properties are shown together. -/
theorem derivation_induction {sum product unary primary : List Token → Expression α → Prop}
    (onlyProduct : ∀ {tokens tree}, IsProduct tokens tree → product tokens tree → sum tokens tree)
    (term : ∀ {tokens breaks others sign left operator right},
      sumOperator? sign.kind = some operator → IsSum tokens left → sum tokens left →
      (∀ token ∈ breaks, IsBreak token) → IsProduct others right → product others right →
      sum (tokens ++ sign :: (breaks ++ others)) (.binary left operator right))
    (onlyUnary : ∀ {tokens tree}, IsUnary tokens tree → unary tokens tree → product tokens tree)
    (factor : ∀ {tokens breaks others mark left operator right},
      productOperator? mark.kind = some operator → IsProduct tokens left → product tokens left →
      (∀ token ∈ breaks, IsBreak token) → IsUnary others right → unary others right →
      product (tokens ++ mark :: (breaks ++ others)) (.binary left operator right))
    (juxtaposed : ∀ {tokens others left right}, IsProduct tokens left → product tokens left →
      IsPrimary others right → primary others right →
      product (tokens ++ others) (.binary left .multiply right))
    (negated : ∀ {sign tokens tree}, sign.kind = .minus → IsUnary tokens tree →
      unary tokens tree → unary (sign :: tokens) (.negate tree))
    (signed : ∀ {sign tokens tree}, sign.kind = .plus → IsUnary tokens tree →
      unary tokens tree → unary (sign :: tokens) tree)
    (onlyPrimary : ∀ {tokens tree}, IsPrimary tokens tree → primary tokens tree →
      unary tokens tree)
    (number : ∀ {token value}, token.kind = .number →
      NumberText.read? token.text = some value → primary [token] (.number value))
    (name : ∀ {token}, token.kind = .identifier →
      primary [token] (.variable token.text token.span))
    (parenthesized : ∀ {opening closing breaks tokens others tree}, opening.kind = .leftParen →
      (∀ token ∈ breaks, IsBreak token) → IsSum tokens tree → sum tokens tree →
      (∀ token ∈ others, IsBreak token) → closing.kind = .rightParen →
      primary (opening :: (breaks ++ (tokens ++ (others ++ [closing])))) (.parenthesized tree))
    {tokens : List Token} {tree : Expression α} (derived : IsSum tokens tree) : sum tokens tree :=
  @IsSum.rec α _ (fun tokens tree _ => sum tokens tree) (fun tokens tree _ => product tokens tree)
    (fun tokens tree _ => unary tokens tree) (fun tokens tree _ => primary tokens tree)
    onlyProduct
    (fun before plus apart last held heldLast =>
      term (by rw [plus]; rfl) before held apart last heldLast)
    (fun before minus apart last held heldLast =>
      term (by rw [minus]; rfl) before held apart last heldLast)
    onlyUnary
    (fun before star apart last held heldLast =>
      factor (by rw [star]; rfl) before held apart last heldLast)
    (fun before slash apart last held heldLast =>
      factor (by rw [slash]; rfl) before held apart last heldLast)
    (fun before last held heldLast => juxtaposed before held last heldLast)
    negated signed onlyPrimary number name
    (fun leftParen apart inner apartAfter rightParen held =>
      parenthesized leftParen apart inner held apartAfter rightParen)
    tokens tree derived

/-- The tokens that would continue an expression: operators, and what begins an
operand without a sign. -/
def continuesExpression : TokenKind → Bool
  | .plus => true
  | .minus => true
  | .star => true
  | .slash => true
  | .number => true
  | .identifier => true
  | .leftParen => true
  | _ => false

/-- What is left when an expression ends: nothing that would continue it comes
next. -/
def Closed (tokens : List Token) : Prop :=
  ∀ token ∈ tokens.head?, continuesExpression token.kind = false

theorem continuesExpression_eq_false {kind : TokenKind} :
    continuesExpression kind = false ↔
      sumOperator? kind = none ∧ productOperator? kind = none ∧ beginsOperand kind = false := by
  cases kind <;> decide

/-! ## What a reader has taken -/

/-- From one place to a later one stand the given tokens, and comments.  The
grammar does not mention comments; this is where they are passed. -/
def Consumes (cursor next : Cursor) (tokens : List Token) : Prop :=
  ∃ used, cursor.rest = used ++ next.rest ∧ withoutComments used = tokens

namespace Consumes

variable {first second third : Cursor} {tokens others : List Token}

theorem trans (before : Consumes first second tokens) (after : Consumes second third others) :
    Consumes first third (tokens ++ others) := by
  rcases before with ⟨used, shown, rfl⟩
  rcases after with ⟨usedAfter, shownAfter, rfl⟩
  exact ⟨used ++ usedAfter, by rw [shown, shownAfter, List.append_assoc],
    withoutComments_append used usedAfter⟩

theorem of_skipFrom (skipped : TokenKind → Bool) (cursor : Cursor) :
    ∃ tokens, Consumes cursor (Cursor.skipFrom skipped cursor.stop cursor.rest) tokens ∧
      ∀ token ∈ tokens, skipped token.kind = true ∧ token.kind ≠ .comment := by
  refine ⟨_, ⟨cursor.rest.takeWhile fun token => skipped token.kind, ?_, rfl⟩, ?_⟩
  · rw [Cursor.rest_skipFrom, List.takeWhile_append_dropWhile]
  · intro token member
    rcases List.mem_filter.mp member with ⟨taken, ordinary⟩
    exact ⟨List.all_eq_true.mp List.all_takeWhile token taken, of_decide_eq_true ordinary⟩

theorem skipComments (cursor : Cursor) : Consumes cursor cursor.skipComments [] := by
  rcases of_skipFrom (fun kind => kind = .comment) cursor with ⟨tokens, consumed, skipped⟩
  rcases List.eq_nil_iff_forall_not_mem.mpr fun token member => (skipped token member).2
      (of_decide_eq_true (skipped token member).1) with rfl
  exact consumed

theorem skipBreaks (cursor : Cursor) :
    ∃ breaks, Consumes cursor cursor.skipBreaks breaks ∧ ∀ token ∈ breaks, IsBreak token := by
  rcases of_skipFrom (fun kind => kind = .newline || kind = .comment || kind = .semicolon) cursor
      with ⟨tokens, consumed, skipped⟩
  refine ⟨tokens, consumed, fun token member => ?_⟩
  have passed := skipped token member
  simp only [Bool.or_eq_true, decide_eq_true_eq, or_assoc] at passed
  exact passed.1.imp_right fun other => other.resolve_left passed.2

theorem token {cursor : Cursor} {token : Token} {rest : List Token}
    (shown : cursor.rest = token :: rest) (ordinary : token.kind ≠ .comment) :
    Consumes cursor (.behind token rest) [token] :=
  ⟨[token], shown, List.filter_cons_of_pos (decide_eq_true ordinary)⟩

end Consumes

end Language
end Optimum
