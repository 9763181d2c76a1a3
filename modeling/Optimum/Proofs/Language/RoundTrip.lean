import Optimum.Proofs.Language.Readings
import Optimum.Proofs.Language.ShownTokens

namespace Optimum
namespace Language

open Checks

/-!
# Showing and reading expressions

Shown trees carry no parentheses but their own, so what is read back depends on
how operators, signs and parentheses bind.  A normal tree is shown as tokens
that derive it on every level of the grammar that its root allows
(`shows_of_normal`), and what derives a tree is read as that tree.  Together
with the normality of whatever is read, showing and reading are inverse
(`text_readSum_inverse`).
-/

/-! ## Trees without places -/

namespace Expression

variable {α : Type}

/-- A tree without the places of its names. -/
def unplaced : Expression α → Expression α
  | .number value => .number value
  | .variable name _ => .variable name ⟨0, 0⟩
  | .negate inner => .negate inner.unplaced
  | .binary left operator right => .binary left.unplaced operator right.unplaced
  | .parenthesized inner => .parenthesized inner.unplaced

@[simp] theorem isBinary_unplaced (tree : Expression α) :
    tree.unplaced.isBinary = tree.isBinary := by
  cases tree <;> rfl

@[simp] theorem isAdditive_unplaced (tree : Expression α) :
    tree.unplaced.isAdditive = tree.isAdditive := by
  cases tree with
  | binary left operator right => cases operator <;> rfl
  | _ => rfl

/-- Whether two trees are joined without parentheses does not depend on places. -/
theorem joinable_unplaced (left : Expression α) (operator : Operator) (right : Expression α) :
    left.unplaced.Joinable operator right.unplaced ↔ left.Joinable operator right := by
  cases operator <;> simp only [Joinable, isAdditive_unplaced, isBinary_unplaced]

end Expression

/-! ## Derivations on every level -/

section Levels

variable {α : Type} [NumberText α]

/-- Tokens that derive a tree on every level of the grammar that its root
allows. -/
structure Derives (tokens : List Token) (tree : Expression α) : Prop where
  sum : IsSum tokens tree
  product : tree.isAdditive = false → IsProduct tokens tree
  unary : tree.isBinary = false → IsUnary tokens tree

theorem Derives.of_unary {tokens : List Token} {tree : Expression α}
    (derived : IsUnary tokens tree) : Derives tokens tree :=
  ⟨.product (.unary derived), fun _ => .unary derived, fun _ => derived⟩

theorem Derives.of_product {tokens : List Token} {tree : Expression α}
    (derived : IsProduct tokens tree) (joined : tree.isBinary = true) : Derives tokens tree :=
  ⟨.product derived, fun _ => derived, fun operand => by rw [joined] at operand; cases operand⟩

theorem Derives.of_sum {tokens : List Token} {tree : Expression α} (derived : IsSum tokens tree)
    (added : tree.isAdditive = true) : Derives tokens tree where
  sum := derived
  product := fun factor => by rw [added] at factor; cases factor
  unary := fun operand => by
    rw [Expression.isAdditive_of_not_binary operand] at added
    cases added

/-- Operands that can be joined without parentheses are joined by the mark
between their tokens. -/
theorem Derives.join {tokens others : List Token} {mark : Token} {operator : Operator}
    {left right : Expression α} (before : Derives tokens left) (after : Derives others right)
    (marked : mark.kind = operator.tokenKind) (joinable : left.Joinable operator right) :
    Derives (tokens ++ mark :: others) (.binary left operator right) := by
  have apart : ∀ token ∈ ([] : List Token), IsBreak token := nofun
  cases operator with
  | add => exact .of_sum (.add before.sum marked apart (after.product joinable)) rfl
  | subtract => exact .of_sum (.subtract before.sum marked apart (after.product joinable)) rfl
  | multiply =>
      exact .of_product
        (.multiply (before.product joinable.1) marked apart (after.unary joinable.2)) rfl
  | divide =>
      exact .of_product
        (.divide (before.product joinable.1) marked apart (after.unary joinable.2)) rfl

end Levels

/-! ## Normal trees are shown as what derives them -/

/-- Text whose tokens derive a tree up to the places of its names, wherever it
stands and whatever delimits it. -/
def Shows (text : List Char) (tree : Expression Float) : Prop :=
  ∀ position rest, Delimited rest → ∃ tokens stop read,
    tokensFrom .unicode position (text ++ rest) = tokens ++ tokensFrom .unicode stop rest ∧
      Derives tokens read ∧ read.unplaced = tree.unplaced

theorem shows_number {value : Float} (magnitude : IsMagnitude value) :
    Shows (NumberText.write value).toList (.number value) := by
  intro position rest delimited
  rcases magnitude with ⟨significand, exponent, finite⟩
  rcases Decimal.write_spells_read finite with ⟨⟨whole, fraction, spells⟩, denotes⟩
  rcases tokensFrom_of_lexedAs (lexedAs_number spells delimited) position with ⟨place, stop, lexed⟩
  refine ⟨[_], stop, .number value, lexed, .of_unary (.primary (.number rfl ?_)), rfl⟩
  rw [String.ofList_toList]
  exact denotes

theorem shows_name {name : String} (isName : IsName name) (span : Span) :
    Shows name.toList (.variable name span) := by
  intro position rest delimited
  rcases tokensFrom_of_lexedAs (lexedAs_name isName delimited) position with ⟨place, stop, lexed⟩
  refine ⟨[_], stop, _, lexed, .of_unary (.primary (.name rfl)), ?_⟩
  rw [String.ofList_toList]
  rfl

theorem shows_negate {text : List Char} {inner : Expression Float} (shows : Shows text inner)
    (operand : inner.isBinary = false) : Shows ('-' :: text) (.negate inner) := by
  intro position rest delimited
  rcases tokensFrom_of_lexedAs (lexedAs_minus (text ++ rest)) position with ⟨place, middle, lexed⟩
  rcases shows middle rest delimited with ⟨tokens, stop, read, lexedInner, derives, same⟩
  refine ⟨⟨.minus, place, String.ofList ['-']⟩ :: tokens, stop, .negate read, ?_,
    .of_unary (.negate rfl (derives.unary ?_)), congrArg Expression.negate same⟩
  · exact lexed.trans (congrArg (_ :: ·) lexedInner)
  · rw [← read.isBinary_unplaced, same, inner.isBinary_unplaced]
    exact operand

theorem shows_parenthesized {text : List Char} {inner : Expression Float}
    (shows : Shows text inner) : Shows ('(' :: (text ++ [')'])) (.parenthesized inner) := by
  intro position rest delimited
  rcases tokensFrom_of_lexedAs (lexedAs_leftParen (text ++ ')' :: rest)) position with
      ⟨place, middle, lexed⟩
  rcases shows middle (')' :: rest) (delimited_closing rest) with
      ⟨tokens, ended, read, lexedInner, derives, same⟩
  rcases tokensFrom_of_lexedAs (lexedAs_rightParen rest) ended with ⟨placeAfter, stop, lexedAfter⟩
  have apart : ∀ token ∈ ([] : List Token), IsBreak token := nofun
  refine ⟨⟨.leftParen, place, String.ofList ['(']⟩ ::
      ([] ++ (tokens ++ ([] ++ [⟨.rightParen, placeAfter, String.ofList [')']⟩]))), stop,
    .parenthesized read, ?_,
    .of_unary (.primary (.parenthesized rfl apart derives.sum apart rfl)),
    congrArg Expression.parenthesized same⟩
  have spelled : '(' :: (text ++ [')']) ++ rest = ['('] ++ (text ++ ')' :: rest) := by simp
  rw [spelled, lexed, lexedInner, show ')' :: rest = [')'] ++ rest from rfl, lexedAfter]
  simp

theorem shows_binary {before after : List Char} {left right : Expression Float}
    {operator : Operator} (showsLeft : Shows before left) (showsRight : Shows after right)
    (joinable : left.Joinable operator right) :
    Shows (before ++ ' ' :: (operator.mark.toList ++ ' ' :: after))
      (.binary left operator right) := by
  intro position rest delimited
  rcases showsLeft position (' ' :: (operator.mark.toList ++ ' ' :: (after ++ rest)))
      (delimited_space _) with ⟨tokens, first, readLeft, lexedLeft, derivesLeft, sameLeft⟩
  rcases tokensFrom_space .unicode first (operator.mark.toList ++ ' ' :: (after ++ rest)) with
      ⟨second, skipped⟩
  rcases tokensFrom_of_lexedAs (lexedAs_mark operator (after ++ rest)) second with
      ⟨place, third, lexedMark⟩
  rcases tokensFrom_space .unicode third (after ++ rest) with ⟨fourth, skippedAfter⟩
  rcases showsRight fourth rest delimited with
      ⟨others, stop, readRight, lexedRight, derivesRight, sameRight⟩
  refine ⟨tokens ++ ⟨operator.tokenKind, place, String.ofList operator.mark.toList⟩ :: others, stop,
    .binary readLeft operator readRight, ?_, derivesLeft.join derivesRight rfl ?_, ?_⟩
  · simp only [List.append_assoc, List.cons_append]
    rw [lexedLeft, skipped, lexedMark, skippedAfter, lexedRight]
  · rw [← Expression.joinable_unplaced, sameLeft, sameRight, Expression.joinable_unplaced]
    exact joinable
  · rw [Expression.unplaced, sameLeft, sameRight, Expression.unplaced]

/-- Normal trees are shown as tokens that derive them.  The induction is on the
tree, wherever it stands in the text. -/
theorem shows_of_normal {tree : Expression Float} (normal : tree.Normal) :
    Shows tree.text.toList tree := by
  induction tree with
  | number value => exact shows_number normal
  | «variable» name span => exact shows_name normal span
  | negate inner inductionHypothesis =>
      rw [Expression.text, String.toList_append]
      exact shows_negate (inductionHypothesis normal.1) normal.2
  | binary left operator right leftHypothesis rightHypothesis =>
      have shows := shows_binary (leftHypothesis normal.1) (rightHypothesis normal.2.1) normal.2.2
      simpa [Expression.text] using shows
  | parenthesized inner inductionHypothesis =>
      have shows := shows_parenthesized (inductionHypothesis normal)
      simpa [Expression.text] using shows

/-! ## The round trip -/

/-- The shown tree is read to its end, and it is the tree up to the places of
its names. -/
def ReadsBack (tree : Expression Float) : Prop :=
  ∀ place, ∃ answer, readSum ⟨place, tokenize tree.text⟩ = .ok answer ∧
    answer.value.unplaced = tree.unplaced ∧
    ∃ last, answer.next.rest = [⟨.endOfFile, last, ""⟩]

theorem readsBack_of_normal {tree : Expression Float} (normal : tree.Normal) : ReadsBack tree := by
  intro place
  rcases shows_of_normal normal 0 [] (by simp [Delimited]) with
      ⟨tokens, stop, read, lexed, derives, same⟩
  rw [List.append_nil, tokensFrom.eq_1 .unicode stop] at lexed
  have ended : EndsSum [⟨.endOfFile, ⟨stop, stop⟩, ""⟩] := by
    intro token next
    cases next
    exact ⟨by simp, rfl⟩
  rcases readSum_of_isSum derives.sum place _ ended.endsProduct with ⟨last, readSumIs⟩
  rw [readTerms_of_endsSum ended, ← lexed] at readSumIs
  rcases plain_eq_ok.mp readSumIs with ⟨answer, answered, value, next⟩
  exact ⟨answer, answered, by rw [value, same], ⟨stop, stop⟩, by rw [next]⟩

/-- Every normal tree is read back from its text, up to the places of its
names.  Every tree that is read from a text is normal, be it an expression of
a program or one that is read from some token on, if no literal of the text is
too large for a double. -/
theorem text_readSum_inverse :
    (∀ tree : Expression Float, tree.Normal → ReadsBack tree) ∧
    ∀ source, WithinRange source →
      (∀ program, parse source = .ok program →
        ∀ item ∈ program.items, ∀ tree ∈ item.expressions, tree.Normal) ∧
      ∀ place start answer, readSum ⟨place, (tokenize source).drop start⟩ = .ok answer →
        answer.value.Normal := by
  refine ⟨fun tree => readsBack_of_normal, fun source inRange => ⟨?_, ?_⟩⟩
  · exact fun program read => normal_of_parse inRange read
  · intro place start answer read
    have sound := sound_of_suffix inRange.sound (List.drop_suffix start (tokenize source))
    exact (normal_of_readSum sound (plain_eq_ok.mpr ⟨answer, read, rfl, rfl⟩)).1

theorem text_readSum_inverse_difference :
    (Expression.binary (.negate (.variable "x" ⟨0, 0⟩)) .subtract (.parenthesized
      (.binary (.number 0.5) .multiply (.variable "y" ⟨0, 0⟩)))).Normal ∧
    ReadsBack (.binary (.negate (.variable "x" ⟨0, 0⟩)) .subtract (.parenthesized
      (.binary (.number 0.5) .multiply (.variable "y" ⟨0, 0⟩)))) ∧
    WithinRange "lp m { max -x - (0.5 y) }" ∧
    (parse (α := Float) "lp m { max -x - (0.5 y) }").isOk = true ∧
    (∀ program, parse "lp m { max -x - (0.5 y) }" = .ok program →
      ∀ item ∈ program.items, ∀ tree ∈ item.expressions, tree.Normal) ∧
    ∀ place start answer, readSum ⟨place, (tokenize "lp m { max -x - (0.5 y) }").drop start⟩ =
      .ok answer → answer.value.Normal :=
  have isName : IsName "x" ∧ IsName "y" :=
    ⟨⟨'x', [], rfl, by decide +kernel, nofun, by decide⟩,
      ⟨'y', [], rfl, by decide +kernel, nofun, by decide⟩⟩
  have half : IsMagnitude 0.5 := ⟨2 ^ 52, -53, by decide +kernel⟩
  have normal : (Expression.binary (.negate (.variable "x" ⟨0, 0⟩)) .subtract (.parenthesized
      (.binary (.number 0.5) .multiply (.variable "y" ⟨0, 0⟩)))).Normal :=
    ⟨⟨isName.1, rfl⟩, ⟨half, isName.2, rfl, rfl⟩, rfl⟩
  have inRange : WithinRange "lp m { max -x - (0.5 y) }" := by decide +kernel
  ⟨normal, text_readSum_inverse.1 _ normal, inRange, by decide +kernel,
    text_readSum_inverse.2 _ inRange⟩

end Language
end Optimum
