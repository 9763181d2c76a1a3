import Optimum.Proofs.Language.Comments
import Optimum.Proofs.Language.Passages

namespace Optimum
namespace Language

open Checks

/-!
# How statements are written

The grammar goes on from expressions to objectives and constraints.  The tokens
that are passed over for a statement derive it, comments left out, and its span
reaches from the first to the last of them.
-/

variable {α : Type} [NumberText α]

/-! ## Statements -/

/-- A sense and an expression. -/
inductive IsObjective : List Token → Objective α → Prop
  | intro {keyword : Token} {tokens : List Token} {objective : Objective α}
      (opens : senseOf? keyword.kind = some objective.sense)
      (body : IsSum tokens objective.expression) : IsObjective (keyword :: tokens) objective

/-- A name with a colon, or nothing. -/
inductive IsLabel : List Token → Option String → Prop
  | absent : IsLabel [] none
  | given {name colon : Token} (named : name.kind = .identifier) (mark : colon.kind = .colon) :
      IsLabel [name, colon] (some name.text)

/-- Two expressions with a relation between them, perhaps behind a label. -/
inductive IsDeclaration : List Token → Declaration α → Prop
  | intro {label left right : List Token} {mark : Token} {declaration : Declaration α}
      (labelled : IsLabel label declaration.label) (before : IsSum left declaration.left)
      (compares : relationOf? mark.kind = some declaration.relation)
      (after : IsSum right declaration.right) :
      IsDeclaration (label ++ (left ++ mark :: right)) declaration

theorem IsObjective.ne_nil {tokens : List Token} {objective : Objective α}
    (derived : IsObjective tokens objective) : tokens ≠ [] := by
  cases derived
  simp

theorem IsDeclaration.ne_nil {tokens : List Token} {declaration : Declaration α}
    (derived : IsDeclaration tokens declaration) : tokens ≠ [] := by
  cases derived
  simp

/-- What has a form and a span has it from tokens that stand together in a
list, comments left out. -/
def WrittenIn {β : Type} (form : List Token → β → Prop) (tokens : List Token) (value : β)
    (span : Span) : Prop :=
  ∃ own, own <:+: tokens ∧ form (withoutComments own) value ∧ span = spanOf own

/-! ## Reading a statement -/

theorem Passes.span_eq {cursor next : Cursor} {own : List Token} (passes : Passes cursor own next)
    (nonempty : own ≠ []) : (⟨cursor.start, next.stop⟩ : Span) = spanOf own := by
  rcases List.exists_cons_of_ne_nil nonempty with ⟨first, rest, rfl⟩
  rw [passes.stop_eq, Cursor.start, passes.shown]
  rfl

theorem Passes.isInfix {cursor next : Cursor} {own tokens : List Token}
    (passes : Passes cursor own next) (suffix : cursor.rest <:+ tokens) : own <:+: tokens := by
  have ahead : own <+: cursor.rest := passes.shown ▸ List.prefix_append own next.rest
  exact ahead.isInfix.trans suffix.isInfix

theorem passes_labelAt (cursor : Cursor) :
    ∃ own, Passes cursor own (labelAt cursor).2 ∧
      IsLabel (withoutComments own) (labelAt cursor).1 := by
  unfold labelAt
  split
  · next name colon rest shown =>
      split
      · next labelled =>
          have bare : withoutComments [name, colon] = [name, colon] := by
            simp [withoutComments, labelled]
          refine ⟨[name, colon], ⟨shown, rfl⟩, ?_⟩
          rw [bare]
          exact .given labelled.1 labelled.2
      · exact ⟨[], .refl cursor, .absent⟩
  · exact ⟨[], .refl cursor, .absent⟩

theorem ne_comment_of_relationOf? {token : Token} {relation : Linear.Relation}
    (compares : relationOf? token.kind = some relation) : token.kind ≠ .comment := by
  intro comment
  rw [comment] at compares
  cases compares

/-- The tokens that were passed over for a constraint derive it and span it. -/
theorem passes_of_readDeclaration {cursor next : Cursor} {declaration : Declaration α}
    (read : plain (readDeclaration cursor) = .ok (declaration, next)) :
    ∃ own, Passes cursor own next ∧ IsDeclaration (withoutComments own) declaration ∧
      declaration.span = spanOf own := by
  rw [plain_readDeclaration] at read
  rcases bind_eq_ok_iff.mp read with ⟨⟨left, middle⟩, readLeft, onward⟩
  rcases passes_labelAt cursor with ⟨label, labelPassed, labelled⟩
  rcases passes_of_readSum readLeft with ⟨before, leftPassed, derivedLeft⟩
  rcases Passes.skipComments middle with ⟨comments, commentsPassed, none⟩
  unfold readRight at onward
  split at onward
  · cases onward
  · next mark rest shown =>
      split at onward
      · cases onward
      · next relation compares =>
          rcases bind_eq_ok_iff.mp onward with ⟨⟨right, last⟩, readRight, answered⟩
          cases answered
          rcases passes_of_readSum readRight with ⟨after, rightPassed, derivedRight⟩
          have passed := labelPassed.trans (leftPassed.trans
            (commentsPassed.trans ((Passes.token shown).trans rightPassed)))
          -- The comments before the relation are all that the grammar does not see.
          have bare : withoutComments (label ++ (before ++ (comments ++ ([mark] ++ after)))) =
              withoutComments label ++
                (withoutComments before ++ mark :: withoutComments after) := by
            simp only [withoutComments_append, none, List.nil_append, List.cons_append,
              withoutComments_cons (ne_comment_of_relationOf? compares)]
          have derived : IsDeclaration
              (withoutComments (label ++ (before ++ (comments ++ ([mark] ++ after)))))
              ⟨⟨cursor.start, last.stop⟩, (labelAt cursor).1, left, relation, right⟩ := by
            rw [bare]
            exact .intro labelled derivedLeft compares derivedRight
          refine ⟨_, passed, derived, passed.span_eq ?_⟩
          intro empty
          exact derived.ne_nil (congrArg withoutComments empty)

/-- The tokens that were passed over for an objective derive it and span it. -/
theorem passes_of_objective {cursor next : Cursor} {keyword : Token} {rest : List Token}
    {sense : Linear.Sense} {tree : Expression α} (shown : cursor.rest = keyword :: rest)
    (opens : senseOf? keyword.kind = some sense)
    (read : plain (readSum (.behind keyword rest)) = .ok (tree, next)) :
    ∃ own, Passes cursor own next ∧
      IsObjective (withoutComments own) ⟨⟨keyword.span.start, next.stop⟩, sense, tree⟩ ∧
      (⟨keyword.span.start, next.stop⟩ : Span) = spanOf own := by
  rcases passes_of_readSum read with ⟨used, passes, derived⟩
  have ordinary : keyword.kind ≠ .comment := by
    intro comment
    rw [comment] at opens
    cases opens
  refine ⟨keyword :: used, (Passes.token shown).trans passes, ?_, ?_⟩
  · rw [withoutComments_cons ordinary]
    exact .intro opens derived
  · rw [passes.stop_eq]
    rfl

end Language
end Optimum
