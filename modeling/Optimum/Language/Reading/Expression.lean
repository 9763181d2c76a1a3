import Optimum.Language.Cursor

namespace Optimum
namespace Language

/-!
# Reading expressions

Sums of products of signed operands.  An operand that directly follows another
one is multiplied with it.  A line end closes an expression, except where an
operand must still come: after an operator and after an opening parenthesis.
A closing parenthesis may stand on a later line.

The readers call each other on ever shorter token lists; the limit that each
answer carries makes that visible.
-/

/-- The operator of a sum that a token stands for. -/
def sumOperator? : TokenKind → Option Operator
  | .plus => some .add
  | .minus => some .subtract
  | _ => none

/-- The operator of a product that a token stands for. -/
def productOperator? : TokenKind → Option Operator
  | .star => some .multiply
  | .slash => some .divide
  | _ => none

/-- Whether an operand without a sign can begin with a token.  Where it can, a
product may leave out its mark. -/
def beginsOperand : TokenKind → Bool
  | .number => true
  | .identifier => true
  | .leftParen => true
  | _ => false

/-- The number that a token's text writes.  The fault of a text that writes none
is kept, though the lexer makes no such token. -/
def Token.number? {α : Type} [NumberText α] (token : Token) : Except ParseError α :=
  match NumberText.read? token.text with
  | some value => .ok value
  | none => .error (.invalidNumber token.text token.span)

variable {α : Type} [NumberText α]

mutual

/-- An operand without a sign: a number, a name or a parenthesis.  Inside a
parenthesis a sum starts afresh. -/
def readPrimary (cursor : Cursor) : Except ParseError (Parsed (Expression α) cursor.size) :=
  match cursor.take? with
  | none => .error .unexpectedEnd
  | some token =>
    match token.value.kind with
    | .number => do
      let value ← token.value.number?
      return token.map fun _ => .number value
    | .identifier => return token.map fun token => .variable token.text token.span
    | .leftParen => do
      let inner ← readSum token.skipBreaks.next
      let close ← inner.next.expect .rightParen
      return token.skipBreaks.followedBy
        (inner.followedBy (close.map fun _ => .parenthesized inner.value))
    | _ => .error (cursor.unexpected .operand)
termination_by 6 * cursor.size
decreasing_by
  have opened := token.skipBreaks.within
  omega

/-- An operand with any number of signs.  A plus sign leaves no trace.  A sign
binds closer than a product does. -/
def readUnary (cursor : Cursor) : Except ParseError (Parsed (Expression α) cursor.size) :=
  match cursor.take? with
  | none => readPrimary cursor
  | some token =>
    match token.value.kind with
    | .minus => do
      let inner ← readUnary token.next
      return token.followedBy (inner.map .negate)
    | .plus => do
      let inner ← readUnary token.next
      return token.followedBy inner
    | _ => readPrimary cursor
termination_by 6 * cursor.size + 1
decreasing_by
  · omega
  · have signed := token.within
    omega
  · have signed := token.within
    omega
  · omega

/-- The factors that follow `left`.  They are taken from left to right, so
quotients associate to the left. -/
def readFactors (left : Expression α) (cursor : Cursor) :
    Except ParseError (Parsed (Expression α) (cursor.size + 1)) :=
  match cursor.takeAfterComments? with
  | none => return (cursor.yield left).skipComments
  | some token =>
    match productOperator? token.value.kind with
    | some operator => do
      let right ← readUnary token.skipBreaks.next
      let all ← readFactors (.binary left operator right.value) right.next
      return (token.skipBreaks.followedBy (right.extendedBy all)).relax
    | none =>
      if beginsOperand token.value.kind then do
        let right ← readPrimary cursor.skipComments
        let all ← readFactors (.binary left .multiply right.value) right.next
        return ((right.extendedBy all).widen cursor.size_skipComments_le).relax
      else return (cursor.yield left).skipComments
termination_by 6 * cursor.size + 2
decreasing_by
  · have operated := token.skipBreaks.within
    omega
  · have operated := token.skipBreaks.within
    have read := right.within
    omega
  · have skipped := cursor.size_skipComments_le
    omega
  · have skipped := cursor.size_skipComments_le
    have read := right.within
    omega

/-- A product. -/
def readProduct (cursor : Cursor) : Except ParseError (Parsed (Expression α) cursor.size) := do
  let first ← readUnary cursor
  let all ← readFactors first.value first.next
  return first.extendedBy all
termination_by 6 * cursor.size + 3
decreasing_by
  · omega
  · have read := first.within
    omega

/-- The terms that follow `left`.  They are taken from left to right, so
differences associate to the left. -/
def readTerms (left : Expression α) (cursor : Cursor) :
    Except ParseError (Parsed (Expression α) (cursor.size + 1)) :=
  match cursor.takeAfterComments? with
  | none => return (cursor.yield left).skipComments
  | some token =>
    match sumOperator? token.value.kind with
    | some operator => do
      let right ← readProduct token.skipBreaks.next
      let all ← readTerms (.binary left operator right.value) right.next
      return (token.skipBreaks.followedBy (right.extendedBy all)).relax
    | none => return (cursor.yield left).skipComments
termination_by 6 * cursor.size + 4
decreasing_by
  · have operated := token.skipBreaks.within
    omega
  · have operated := token.skipBreaks.within
    have read := right.within
    omega

/-- A sum, which is the general form of an expression. -/
def readSum (cursor : Cursor) : Except ParseError (Parsed (Expression α) cursor.size) := do
  let first ← readProduct cursor
  let all ← readTerms first.value first.next
  return first.extendedBy all
termination_by 6 * cursor.size + 5
decreasing_by
  · omega
  · have read := first.within
    omega

end

end Language
end Optimum
