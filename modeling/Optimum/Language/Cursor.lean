import Optimum.Language.ParseError

namespace Optimum
namespace Language

/-!
# Places in a token list

A cursor holds the tokens that are still to be read and the end of the last
token that was read, which closes the span of a finished construct.

Every reader answers with `Parsed`, which carries the proof that fewer tokens
are left than a given limit.  That proof is what the recursion of the readers
rests on: there is no bound on the depth of a text other than its length.
-/

structure Cursor where
  /-- Where the last token that was read ends. -/
  stop : Nat
  rest : List Token
  deriving DecidableEq, Repr

/-- How many tokens are left.  Readers call each other on cursors of smaller
size, which is why they end. -/
def Cursor.size (cursor : Cursor) : Nat :=
  cursor.rest.length

/-- A value that was read, and what is left after it.  The bound on what is left
comes with it, so a caller need not know how the value was read to see that its
own reading ends. -/
structure Parsed (β : Type) (limit : Nat) where
  value : β
  next : Cursor
  within : next.size < limit

namespace Parsed

variable {β γ : Type} {limit larger : Nat}

def map (f : β → γ) (parsed : Parsed β limit) : Parsed γ limit :=
  ⟨f parsed.value, parsed.next, parsed.within⟩

/-- Forget how much was read beyond a weaker limit. -/
def widen (parsed : Parsed β limit) (weaker : limit ≤ larger) : Parsed β larger :=
  ⟨parsed.value, parsed.next, Nat.lt_of_lt_of_le parsed.within weaker⟩

/-- Forget that a token was read. -/
def relax (parsed : Parsed β limit) : Parsed β (limit + 1) :=
  parsed.widen (Nat.le_succ limit)

/-! A value may be read after another one.  The three ways differ in which of
the two readers may leave all its tokens in place: neither, the second one or
the first one. -/

def followedBy (first : Parsed β limit) (second : Parsed γ first.next.size) : Parsed γ limit :=
  second.widen (Nat.le_of_lt first.within)

def extendedBy (first : Parsed β limit) (second : Parsed γ (first.next.size + 1)) :
    Parsed γ limit :=
  second.widen first.within

def leadingTo (first : Parsed β (limit + 1)) (second : Parsed γ first.next.size) :
    Parsed γ limit :=
  second.widen (Nat.le_of_lt_succ first.within)

end Parsed

namespace Cursor

/-- The class of the next token. -/
def kind (cursor : Cursor) : TokenKind :=
  match cursor.rest with
  | token :: _ => token.kind
  | [] => .endOfFile

def take? (cursor : Cursor) : Option (Parsed Token cursor.size) :=
  match cursor with
  | ⟨_, token :: rest⟩ => some ⟨token, ⟨token.span.stop, rest⟩, Nat.lt_succ_self rest.length⟩
  | ⟨_, []⟩ => none

/-- Pass the tokens of the classes that are skipped.  The end of the last one is
kept, since a range ends where its last token does. -/
def skipFrom (skipped : TokenKind → Bool) (stop : Nat) : List Token → Cursor
  | [] => ⟨stop, []⟩
  | token :: rest =>
    if skipped token.kind then skipFrom skipped token.span.stop rest else ⟨stop, token :: rest⟩

theorem size_skipFrom_le (skipped : TokenKind → Bool) (stop : Nat) (tokens : List Token) :
    (skipFrom skipped stop tokens).size ≤ tokens.length := by
  induction tokens generalizing stop with
  | nil => exact Nat.le_refl _
  | cons token rest inductionHypothesis =>
      simp only [skipFrom]
      split
      · exact Nat.le_succ_of_le (inductionHypothesis _)
      · exact Nat.le_refl _

/-- Skip comments, which may stand anywhere in a line. -/
def skipComments (cursor : Cursor) : Cursor :=
  skipFrom (fun kind => kind = .comment) cursor.stop cursor.rest

/-- Skip line ends, semicolons and comments. -/
def skipBreaks (cursor : Cursor) : Cursor :=
  skipFrom (fun kind => kind = .newline || kind = .comment || kind = .semicolon)
    cursor.stop cursor.rest

theorem size_skipComments_le (cursor : Cursor) : cursor.skipComments.size ≤ cursor.size :=
  size_skipFrom_le _ _ _

theorem size_skipBreaks_le (cursor : Cursor) : cursor.skipBreaks.size ≤ cursor.size :=
  size_skipFrom_le _ _ _

/-- Skip one token of a class, if it comes next. -/
def skipOne (kind : TokenKind) (cursor : Cursor) : Cursor :=
  match cursor.take? with
  | some token => if token.value.kind = kind then token.next else cursor
  | none => cursor

theorem size_skipOne_le (kind : TokenKind) (cursor : Cursor) :
    (cursor.skipOne kind).size ≤ cursor.size := by
  unfold skipOne
  split
  · next token _ =>
      split
      · exact Nat.le_of_lt token.within
      · exact Nat.le_refl _
  · exact Nat.le_refl _

/-- A value for which nothing has to be read.  It leaves as much as before, so
its bound is one above the size. -/
def yield {β : Type} (cursor : Cursor) (value : β) : Parsed β (cursor.size + 1) :=
  ⟨value, cursor, Nat.lt_succ_self cursor.size⟩

/-- Read the next token, after any comments. -/
def takeAfterComments? (cursor : Cursor) : Option (Parsed Token cursor.size) :=
  cursor.skipComments.take?.map fun token => token.widen cursor.size_skipComments_le

/-- Read the next token, after any breaks. -/
def takeAfterBreaks? (cursor : Cursor) : Option (Parsed Token cursor.size) :=
  cursor.skipBreaks.take?.map fun token => token.widen cursor.size_skipBreaks_le

/-- The fault of finding the next token where something else should stand.  At
the end of the text it has no place. -/
def unexpected (cursor : Cursor) (expected : Expectation) : ParseError :=
  match cursor.rest with
  | token :: _ =>
    if token.kind = .endOfFile then .unexpectedEnd
    else .unexpectedToken expected token.kind token.span
  | [] => .unexpectedEnd

/-- Read a token of one class, after any breaks.  A token of another class is
not passed, so the fault shows it. -/
def expect (cursor : Cursor) (kind : TokenKind) : Except ParseError (Parsed Token cursor.size) :=
  match cursor.takeAfterBreaks? with
  | some token =>
    if token.value.kind = kind then .ok token
    else .error (cursor.skipBreaks.unexpected (.token kind))
  | none => .error (cursor.skipBreaks.unexpected (.token kind))

end Cursor

namespace Parsed

variable {β : Type} {limit : Nat}

/-- Pass the comments after what was read. -/
def skipComments (parsed : Parsed β limit) : Parsed β limit :=
  ⟨parsed.value, parsed.next.skipComments,
    Nat.lt_of_le_of_lt parsed.next.size_skipComments_le parsed.within⟩

/-- Pass the breaks after what was read. -/
def skipBreaks (parsed : Parsed β limit) : Parsed β limit :=
  ⟨parsed.value, parsed.next.skipBreaks,
    Nat.lt_of_le_of_lt parsed.next.size_skipBreaks_le parsed.within⟩

/-- Pass one token of a class after what was read, if it comes next. -/
def skipOne (kind : TokenKind) (parsed : Parsed β limit) : Parsed β limit :=
  ⟨parsed.value, parsed.next.skipOne kind,
    Nat.lt_of_le_of_lt (parsed.next.size_skipOne_le kind) parsed.within⟩

end Parsed

end Language
end Optimum
