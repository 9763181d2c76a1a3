import Optimum.Proofs.Language.ModelAnswers

namespace Optimum
namespace Language

/-!
# Reading with comments left out

A reader is followed on two token lists at once: a full one, and the same one
without its comments.  Wherever a reader passes comments before it looks at the
next token, both runs go on alike.  At a few places it does not: behind a sign,
a relation, the keyword of an objective or the colon of a label, and before a
colon.  A comment there is a fault of the full run, and `ExposedComment` says
which one.

`SameReading` is what one reader keeps, stated so that it composes along a
reader's steps (`SameReading.bind`).
-/

/-! ## Exposed comments -/

/-- The tokens behind which an operand or a number is read at once, without
passing comments. -/
def TokenKind.awaitsOperand : TokenKind → Bool
  | .maximize => true
  | .minimize => true
  | .le => true
  | .ge => true
  | .eq => true
  | .plus => true
  | .minus => true
  | .colon => true
  | _ => false

/-- The faults of a comment that stands where none is passed: it is found in
the place of what should follow, or it hides a name from the colon behind it. -/
inductive ExposedComment (tokens : List Token) : ParseError → Prop
  | behind {before after : List Token} {previous token : Token} {expected : Expectation}
      (shown : tokens = before ++ previous :: token :: after)
      (awaits : previous.kind.awaitsOperand = true) (comment : token.kind = .comment)
      (wanted : expected = .operand ∨ expected = .number) :
      ExposedComment tokens (.unexpectedToken expected .comment token.span)
  | beforeColon {before after : List Token} {previous token : Token} {expected : Expectation}
      (shown : tokens = before ++ previous :: token :: after)
      (comment : previous.kind = .comment) (colon : token.kind = .colon)
      (wanted : expected = .relation ∨ expected = .token .leftBracket ∨
        expected = .token .leftBrace) :
      ExposedComment tokens (.unexpectedToken expected .colon token.span)

theorem ExposedComment.of_suffix {tokens others : List Token} {fault : ParseError}
    (exposed : ExposedComment others fault) (suffix : others <:+ tokens) :
    ExposedComment tokens fault := by
  rcases suffix with ⟨first, rfl⟩
  cases exposed with
  | behind shown awaits comment wanted =>
      exact .behind (shown ▸ (List.append_assoc ..).symm) awaits comment wanted
  | beforeColon shown comment colon wanted =>
      exact .beforeColon (shown ▸ (List.append_assoc ..).symm) comment colon wanted

/-- A fault without its place.  Without its comments a text has other offsets,
so only the rest of a fault can be the same. -/
def ParseError.unplaced : ParseError → ParseError
  | .unexpectedToken expected found _ => .unexpectedToken expected found ⟨0, 0⟩
  | .unexpectedEnd => .unexpectedEnd
  | .invalidNumber text _ => .invalidNumber text ⟨0, 0⟩
  | .duplicateObjective model _ => .duplicateObjective model ⟨0, 0⟩
  | .duplicateSection name _ => .duplicateSection name ⟨0, 0⟩
  | .unknownSection name known _ => .unknownSection name known ⟨0, 0⟩

/-! ## Answers that agree -/

/-- The same place in a full list and in the one without comments.  The offsets
differ, and the tokens are the same up to comments. -/
def Bared (cursor bare : Cursor) : Prop :=
  bare.rest = withoutComments cursor.rest

/-- The answer of a full run on `tokens` beside one without comments: the same
value, up to what `erase` forgets, with the same tokens left, or the same fault
up to its place, unless the full run stops at an exposed comment. -/
inductive SameReading {β γ : Type} (erase : β → γ) (tokens : List Token) :
    Except ParseError (β × Cursor) → Except ParseError (β × Cursor) → Prop
  | read {value other : β} {next bare : Cursor} (same : erase value = erase other)
      (suffix : next.rest <:+ tokens) (bared : Bared next bare) :
      SameReading erase tokens (.ok (value, next)) (.ok (other, bare))
  | fault {fault other : ParseError} (same : fault.unplaced = other.unplaced) :
      SameReading erase tokens (.error fault) (.error other)
  | exposed {fault : ParseError} {answer : Except ParseError (β × Cursor)}
      (exposed : ExposedComment tokens fault) : SameReading erase tokens (.error fault) answer

namespace SameReading

variable {β γ δ ε : Type} {erase : β → γ} {tokens others : List Token}
  {full bare : Except ParseError (β × Cursor)}

theorem of_suffix (reading : SameReading erase others full bare) (suffix : others <:+ tokens) :
    SameReading erase tokens full bare := by
  cases reading with
  | read same inside bared => exact .read same (inside.trans suffix) bared
  | fault same => exact .fault same
  | exposed exposed => exact .exposed (exposed.of_suffix suffix)

theorem bind {eraseAfter : δ → ε} {onward onwardBare : β × Cursor → Except ParseError (δ × Cursor)}
    (first : SameReading erase tokens full bare)
    (after : ∀ value other next nextBare, full = .ok (value, next) → erase value = erase other →
      Bared next nextBare →
      SameReading eraseAfter next.rest (onward (value, next)) (onwardBare (other, nextBare))) :
    SameReading eraseAfter tokens (full >>= onward) (bare >>= onwardBare) := by
  cases first with
  | read same suffix bared => exact (after _ _ _ _ rfl same bared).of_suffix suffix
  | fault same => exact .fault same
  | exposed exposed => exact .exposed exposed

theorem map {eraseAfter : δ → ε} (convert convertBare : β → δ)
    (keeps : ∀ value other, erase value = erase other →
      eraseAfter (convert value) = eraseAfter (convertBare other))
    (reading : SameReading erase tokens full bare) :
    SameReading eraseAfter tokens (full.map fun read => (convert read.1, read.2))
      (bare.map fun read => (convertBare read.1, read.2)) := by
  cases reading with
  | read same suffix bared => exact .read (keeps _ _ same) suffix bared
  | fault same => exact .fault same
  | exposed exposed => exact .exposed exposed

end SameReading

/-! ## Places that agree -/

/-- No comment comes next.  Readers that begin at such a place see the same
token in both lists. -/
def Cursor.Clear (cursor : Cursor) : Prop :=
  ∀ token ∈ cursor.rest.head?, token.kind ≠ .comment

theorem withoutComments_cons {token : Token} (ordinary : token.kind ≠ .comment)
    (rest : List Token) : withoutComments (token :: rest) = token :: withoutComments rest :=
  List.filter_cons_of_pos (decide_eq_true ordinary)

theorem withoutComments_cons_comment {token : Token} (comment : token.kind = .comment)
    (rest : List Token) : withoutComments (token :: rest) = withoutComments rest :=
  List.filter_cons_of_neg (by simp [comment])

theorem withoutComments_dropWhile (skipped : TokenKind → Bool) (comment : skipped .comment = true)
    (tokens : List Token) :
    withoutComments (tokens.dropWhile fun token => skipped token.kind) =
      (withoutComments tokens).dropWhile fun token => skipped token.kind := by
  induction tokens with
  | nil => rfl
  | cons token rest inductionHypothesis =>
      by_cases kind : token.kind = .comment
      · rw [List.dropWhile_cons_of_pos (by rw [kind]; exact comment), inductionHypothesis,
          withoutComments_cons_comment kind]
      · rw [withoutComments_cons kind, List.dropWhile_cons, List.dropWhile_cons]
        split
        · exact inductionHypothesis
        · exact withoutComments_cons kind rest

theorem Cursor.clear_skipComments (cursor : Cursor) : cursor.skipComments.Clear :=
  cursor.not_comment_of_skipComments

theorem Cursor.clear_skipBreaks (cursor : Cursor) : cursor.skipBreaks.Clear := by
  intro token next comment
  rw [skipBreaks, rest_skipFrom] at next
  have stopped := List.head?_dropWhile_not (fun token : Token => decide (token.kind = .newline) ||
    decide (token.kind = .comment) || decide (token.kind = .semicolon)) cursor.rest
  rw [Option.mem_def.mp next] at stopped
  simp [comment] at stopped

theorem Cursor.suffix_skipComments (cursor : Cursor) : cursor.skipComments.rest <:+ cursor.rest := by
  rw [skipComments, rest_skipFrom]
  exact List.dropWhile_suffix _

theorem Cursor.suffix_skipBreaks (cursor : Cursor) : cursor.skipBreaks.rest <:+ cursor.rest := by
  rw [skipBreaks, rest_skipFrom]
  exact List.dropWhile_suffix _

namespace Bared

variable {cursor bare : Cursor}

theorem skipFrom (bared : Bared cursor bare) (skipped : TokenKind → Bool)
    (comment : skipped .comment = true) :
    Bared (Cursor.skipFrom skipped cursor.stop cursor.rest)
      (Cursor.skipFrom skipped bare.stop bare.rest) := by
  rw [Bared, Cursor.rest_skipFrom, Cursor.rest_skipFrom, bared,
    withoutComments_dropWhile skipped comment]

theorem skipComments (bared : Bared cursor bare) :
    Bared cursor.skipComments bare.skipComments :=
  bared.skipFrom _ rfl

theorem skipBreaks (bared : Bared cursor bare) : Bared cursor.skipBreaks bare.skipBreaks :=
  bared.skipFrom _ rfl

/-- Where no comment comes next, both places show the same token.  The readers
decide by it, so they go the same way in both lists. -/
theorem cases (bared : Bared cursor bare) (clear : cursor.Clear) :
    (cursor.rest = [] ∧ bare.rest = []) ∨
      ∃ token rest, cursor.rest = token :: rest ∧ bare.rest = token :: withoutComments rest ∧
        token.kind ≠ .comment := by
  cases shown : cursor.rest with
  | nil => exact .inl ⟨rfl, by rw [bared, shown]; rfl⟩
  | cons token rest =>
      have ordinary : token.kind ≠ .comment := clear token (by rw [shown]; rfl)
      refine .inr ⟨token, rest, rfl, ?_, ordinary⟩
      rw [bared, shown, withoutComments_cons ordinary]

theorem behind (token : Token) (rest : List Token) :
    Bared (.behind token rest) (.behind token (withoutComments rest)) := rfl

theorem kind_eq (bared : Bared cursor bare) (clear : cursor.Clear) : cursor.kind = bare.kind := by
  rcases bared.cases clear with ⟨shown, shownBare⟩ | ⟨token, rest, shown, shownBare, -⟩ <;>
    simp only [Cursor.kind, shown, shownBare]

theorem unexpected_eq (bared : Bared cursor bare) (clear : cursor.Clear)
    (expected : Expectation) : cursor.unexpected expected = bare.unexpected expected := by
  rcases bared.cases clear with ⟨shown, shownBare⟩ | ⟨token, rest, shown, shownBare, -⟩ <;>
    simp only [Cursor.unexpected, shown, shownBare]

end Bared

theorem Cursor.rest_skipOne (kind : TokenKind) (cursor : Cursor) :
    (cursor.skipOne kind).rest = match cursor.rest with
      | token :: rest => if token.kind = kind then rest else token :: rest
      | [] => [] := by
  rcases cursor with ⟨stop, _ | ⟨token, rest⟩⟩
  · rfl
  · simp only [skipOne, take?]
    split <;> rfl

theorem Cursor.suffix_skipOne (kind : TokenKind) (cursor : Cursor) :
    (cursor.skipOne kind).rest <:+ cursor.rest := by
  rw [rest_skipOne]
  rcases cursor.rest with _ | ⟨token, rest⟩
  · exact List.suffix_rfl
  · dsimp only
    split
    · exact List.suffix_cons token rest
    · exact List.suffix_rfl

theorem Bared.skipOne {cursor bare : Cursor} (bared : Bared cursor bare) (clear : cursor.Clear)
    (kind : TokenKind) : Bared (cursor.skipOne kind) (bare.skipOne kind) := by
  rw [Bared, Cursor.rest_skipOne, Cursor.rest_skipOne]
  rcases bared.cases clear with ⟨shown, shownBare⟩ | ⟨token, rest, shown, shownBare, ordinary⟩
  · simp only [shown, shownBare]
    rfl
  · simp only [shown, shownBare]
    split
    · rfl
    · exact (withoutComments_cons ordinary rest).symm

theorem expect_sameReading {cursor bare : Cursor} (bared : Bared cursor bare) (kind : TokenKind) :
    SameReading id cursor.rest (plain (cursor.expect kind)) (plain (bare.expect kind)) := by
  have clear := cursor.clear_skipBreaks
  rw [plain_expect, plain_expect]
  rcases bared.skipBreaks.cases clear with ⟨shown, shownBare⟩ | ⟨token, rest, shown, shownBare, -⟩
  · simp only [shown, shownBare]
    exact .fault (congrArg _ (bared.skipBreaks.unexpected_eq clear _))
  · simp only [shown, shownBare]
    split
    · refine .read rfl ?_ (.behind token rest)
      exact (List.suffix_cons token rest).trans (shown ▸ cursor.suffix_skipBreaks)
    · exact .fault (congrArg _ (bared.skipBreaks.unexpected_eq clear _))

/-! ## Expressions -/

variable {α : Type}

/-- What the readers of expressions keep where no comment comes next. -/
def ReadsAlike (reader : Cursor → Except ParseError (Expression α × Cursor)) (cursor : Cursor) :
    Prop :=
  ∀ bare, Bared cursor bare → cursor.Clear → SameReading id cursor.rest (reader cursor) (reader bare)

/-- Behind a token that awaits an operand a comment is exposed. -/
theorem ReadsAlike.behind {reader : Cursor → Except ParseError (Expression α × Cursor)}
    (refuses : ∀ stop token rest, token.kind = .comment →
      reader ⟨stop, token :: rest⟩ = .error (.unexpectedToken .operand .comment token.span))
    {previous : Token} (awaits : previous.kind.awaitsOperand = true) {rest : List Token}
    (alike : ReadsAlike reader (.behind previous rest)) {bare : Cursor}
    (bared : Bared (.behind previous rest) bare) :
    SameReading id (previous :: rest) (reader (.behind previous rest)) (reader bare) := by
  rcases rest with _ | ⟨token, after⟩
  · exact (alike bare bared fun _ next => nomatch next).of_suffix (List.suffix_cons previous [])
  · by_cases comment : token.kind = .comment
    · rw [Cursor.behind, refuses _ token after comment]
      exact .exposed (.behind (List.nil_append _).symm awaits comment (.inl rfl))
    · have clear : (Cursor.behind previous (token :: after)).Clear := by
        intro first next
        cases next
        exact comment
      exact (alike bare bared clear).of_suffix (List.suffix_cons previous _)

variable [NumberText α]

theorem readPrimary_comment (stop : Nat) (token : Token) (rest : List Token)
    (comment : token.kind = .comment) :
    plain (readPrimary (α := α) ⟨stop, token :: rest⟩) =
      .error (.unexpectedToken .operand .comment token.span) := by
  rw [plain_readPrimary]
  simp only [comment, Cursor.unexpected, reduceCtorEq, if_false]

theorem readUnary_comment (stop : Nat) (token : Token) (rest : List Token)
    (comment : token.kind = .comment) :
    plain (readUnary (α := α) ⟨stop, token :: rest⟩) =
      .error (.unexpectedToken .operand .comment token.span) := by
  rw [plain_readUnary]
  simp only [comment]
  exact readPrimary_comment stop token rest comment

theorem readSum_comment (stop : Nat) (token : Token) (rest : List Token)
    (comment : token.kind = .comment) :
    plain (readSum (α := α) ⟨stop, token :: rest⟩) =
      .error (.unexpectedToken .operand .comment token.span) := by
  rw [plain_readSum, plain_readProduct, readUnary_comment stop token rest comment]
  rfl

theorem primary_alike (cursor : Cursor)
    (sum : ∀ less : Cursor, less.size < cursor.size →
      ReadsAlike (α := α) (fun place => plain (readSum place)) less) :
    ReadsAlike (α := α) (fun place => plain (readPrimary place)) cursor := by
  rintro ⟨stopBare, restBare⟩ bared clear
  rcases cursor with ⟨stop, tokens⟩
  rcases bared.cases clear with ⟨shown, shownBare⟩ | ⟨token, rest, shown, shownBare, -⟩
  · obtain rfl : tokens = [] := shown
    obtain rfl : restBare = [] := shownBare
    dsimp only
    rw [plain_readPrimary_nil, plain_readPrimary_nil]
    exact .fault rfl
  · obtain rfl : tokens = token :: rest := shown
    obtain rfl : restBare = token :: withoutComments rest := shownBare
    have suffix := List.suffix_cons token rest
    dsimp only
    rw [plain_readPrimary, plain_readPrimary]
    split
    · cases Token.number? (α := α) token with
      | error fault => exact .fault rfl
      | ok value => exact .read rfl suffix (.behind token rest)
    · exact .read rfl suffix (.behind token rest)
    · have shorter : (Cursor.behind token rest).skipBreaks.size < rest.length + 1 :=
        Nat.lt_succ_of_le (Cursor.size_skipBreaks_le (.behind token rest))
      have inner := sum _ shorter _ (Bared.behind token rest).skipBreaks
        (Cursor.clear_skipBreaks (.behind token rest))
      refine (inner.bind ?_).of_suffix
        ((Cursor.suffix_skipBreaks (.behind token rest)).trans suffix)
      rintro tree other next nextBare - rfl bared
      refine (expect_sameReading bared .rightParen).bind ?_
      rintro close closeBare last lastBare - - bared
      exact .read rfl List.suffix_rfl bared
    · exact .fault (congrArg _ (bared.unexpected_eq clear .operand))

theorem unary_alike (cursor : Cursor)
    (inner : ∀ less : Cursor, less.size < cursor.size →
      ReadsAlike (α := α) (fun place => plain (readUnary place)) less)
    (primary : ReadsAlike (α := α) (fun place => plain (readPrimary place)) cursor) :
    ReadsAlike (α := α) (fun place => plain (readUnary place)) cursor := by
  rintro ⟨stopBare, restBare⟩ bared clear
  have alike := primary ⟨stopBare, restBare⟩ bared clear
  rcases cursor with ⟨stop, tokens⟩
  rcases bared.cases clear with ⟨shown, shownBare⟩ | ⟨token, rest, shown, shownBare, -⟩
  · obtain rfl : tokens = [] := shown
    obtain rfl : restBare = [] := shownBare
    dsimp only
    rw [plain_readUnary_nil, plain_readUnary_nil]
    exact .fault rfl
  · obtain rfl : tokens = token :: rest := shown
    obtain rfl : restBare = token :: withoutComments rest := shownBare
    have signed := inner (.behind token rest) (Nat.lt_succ_self _)
    have behind (awaits : token.kind.awaitsOperand = true) :=
      signed.behind readUnary_comment awaits (Bared.behind token rest)
    dsimp only
    rw [plain_readUnary, plain_readUnary]
    split
    · next minus =>
        refine (behind (by rw [minus]; rfl)).bind ?_
        rintro tree other next nextBare - rfl bared
        exact .read rfl List.suffix_rfl bared
    · next plus => exact behind (by rw [plus]; rfl)
    · exact alike

theorem factors_alike (left : Expression α) (cursor : Cursor)
    (unary : ∀ less : Cursor, less.size < cursor.size →
      ReadsAlike (α := α) (fun place => plain (readUnary place)) less)
    (primary : ∀ less : Cursor, less.size ≤ cursor.size →
      ReadsAlike (α := α) (fun place => plain (readPrimary place)) less)
    (factors : ∀ left : Expression α, ∀ less : Cursor, less.size < cursor.size →
      ∀ bare, Bared less bare → SameReading id less.rest (plain (readFactors left less))
        (plain (readFactors left bare))) :
    ∀ bare, Bared cursor bare → SameReading id cursor.rest (plain (readFactors left cursor))
      (plain (readFactors left bare)) := by
  intro bare bared
  have clear := cursor.clear_skipComments
  have skipped := cursor.size_skipComments_le
  have suffix := cursor.suffix_skipComments
  rw [plain_readFactors, plain_readFactors]
  rcases bared.skipComments.cases clear with
    ⟨shown, shownBare⟩ | ⟨token, rest, shown, shownBare, -⟩
  · simp only [shown, shownBare]
    exact .read rfl suffix bared.skipComments
  · have taken := (List.suffix_cons token rest).trans (shown ▸ suffix)
    rw [Cursor.size_of_rest shown, List.length_cons] at skipped
    simp only [shown, shownBare]
    split
    · next operator marked =>
        have shorter : (Cursor.behind token rest).skipBreaks.size < cursor.size :=
          Nat.lt_of_le_of_lt (Cursor.size_skipBreaks_le (.behind token rest)) skipped
        have operand := unary _ shorter _ (Bared.behind token rest).skipBreaks
          (Cursor.clear_skipBreaks (.behind token rest))
        refine (operand.bind ?_).of_suffix
          ((Cursor.suffix_skipBreaks (.behind token rest)).trans taken)
        rintro right other next nextBare read rfl bared
        exact factors _ next (Nat.lt_trans (size_lt_of_plain read) shorter) nextBare bared
    · split
      · refine ((primary _ cursor.size_skipComments_le _ bared.skipComments clear).bind ?_).of_suffix
          suffix
        rintro right other next nextBare read rfl bared
        have behind := Nat.lt_of_lt_of_le (size_lt_of_plain read) cursor.size_skipComments_le
        exact factors _ next behind nextBare bared
      · exact .read rfl suffix bared.skipComments

theorem product_alike (cursor : Cursor)
    (unary : ReadsAlike (α := α) (fun place => plain (readUnary place)) cursor)
    (factors : ∀ left : Expression α, ∀ less : Cursor, less.size < cursor.size →
      ∀ bare, Bared less bare → SameReading id less.rest (plain (readFactors left less))
        (plain (readFactors left bare))) :
    ReadsAlike (α := α) (fun place => plain (readProduct place)) cursor := by
  intro bare bared clear
  dsimp only
  rw [plain_readProduct, plain_readProduct]
  refine (unary bare bared clear).bind ?_
  rintro first other next nextBare read rfl bared
  exact factors _ next (size_lt_of_plain read) nextBare bared

theorem terms_alike (left : Expression α) (cursor : Cursor)
    (product : ∀ less : Cursor, less.size < cursor.size →
      ReadsAlike (α := α) (fun place => plain (readProduct place)) less)
    (terms : ∀ left : Expression α, ∀ less : Cursor, less.size < cursor.size →
      ∀ bare, Bared less bare → SameReading id less.rest (plain (readTerms left less))
        (plain (readTerms left bare))) :
    ∀ bare, Bared cursor bare → SameReading id cursor.rest (plain (readTerms left cursor))
      (plain (readTerms left bare)) := by
  intro bare bared
  have clear := cursor.clear_skipComments
  have skipped := cursor.size_skipComments_le
  have suffix := cursor.suffix_skipComments
  rw [plain_readTerms, plain_readTerms]
  rcases bared.skipComments.cases clear with
    ⟨shown, shownBare⟩ | ⟨token, rest, shown, shownBare, -⟩
  · simp only [shown, shownBare]
    exact .read rfl suffix bared.skipComments
  · have taken := (List.suffix_cons token rest).trans (shown ▸ suffix)
    rw [Cursor.size_of_rest shown, List.length_cons] at skipped
    simp only [shown, shownBare]
    split
    · next operator signed =>
        have shorter : (Cursor.behind token rest).skipBreaks.size < cursor.size :=
          Nat.lt_of_le_of_lt (Cursor.size_skipBreaks_le (.behind token rest)) skipped
        have operand := product _ shorter _ (Bared.behind token rest).skipBreaks
          (Cursor.clear_skipBreaks (.behind token rest))
        refine (operand.bind ?_).of_suffix
          ((Cursor.suffix_skipBreaks (.behind token rest)).trans taken)
        rintro right other next nextBare read rfl bared
        exact terms _ next (Nat.lt_trans (size_lt_of_plain read) shorter) nextBare bared
    · exact .read rfl suffix bared.skipComments

theorem sum_alike (cursor : Cursor)
    (product : ReadsAlike (α := α) (fun place => plain (readProduct place)) cursor)
    (terms : ∀ left : Expression α, ∀ less : Cursor, less.size < cursor.size →
      ∀ bare, Bared less bare → SameReading id less.rest (plain (readTerms left less))
        (plain (readTerms left bare))) :
    ReadsAlike (α := α) (fun place => plain (readSum place)) cursor := by
  intro bare bared clear
  dsimp only
  rw [plain_readSum, plain_readSum]
  refine (product bare bared clear).bind ?_
  rintro first other next nextBare read rfl bared
  exact terms _ next (size_lt_of_plain read) nextBare bared

/-- Where no comment comes next, comments make no difference to an expression
unless one is exposed in it. -/
theorem readSum_alike (cursor : Cursor) :
    ReadsAlike (α := α) (fun place => plain (readSum place)) cursor := by
  have readers := reading_induction (α := α) primary_alike unary_alike factors_alike product_alike
    terms_alike sum_alike cursor
  exact readers.2.2.2.2.2

/-- Behind a token that awaits an operand a comment is exposed.  Otherwise an
expression is read alike from there. -/
theorem readSum_behind {previous : Token} (awaits : previous.kind.awaitsOperand = true)
    {rest : List Token} {bare : Cursor} (bared : Bared (.behind previous rest) bare) :
    SameReading id (previous :: rest) (plain (readSum (α := α) (.behind previous rest)))
      (plain (readSum bare)) :=
  (readSum_alike (.behind previous rest)).behind readSum_comment awaits bared

end Language
end Optimum
