import Optimum.Proofs.Checks
import Optimum.Proofs.Language.Comments

namespace Optimum
namespace Language

open Checks

/-!
# Lists, tables and constraints with comments left out

What the readers of the parts of models make of a full token list and of the
same one without its comments, followed side by side.
-/

/-! ## Lists and tables -/

namespace Cursor

theorem size_skipDivider_le (cursor : Cursor) : cursor.skipDivider.size ≤ cursor.size :=
  Nat.le_trans (size_skipOne_le _ _) cursor.size_skipBreaks_le

theorem suffix_skipDivider (cursor : Cursor) : cursor.skipDivider.rest <:+ cursor.rest :=
  (suffix_skipOne _ _).trans cursor.suffix_skipBreaks

/-- Behind a token that was passed a comment may come next. -/
theorem clear_skipOne {cursor : Cursor} (clear : cursor.Clear) (kind : TokenKind) :
    (cursor.skipOne kind).Clear ∨
      ∃ passed token rest, cursor.rest = passed :: token :: rest ∧ passed.kind = kind ∧
        token.kind = .comment ∧ (cursor.skipOne kind).rest = token :: rest := by
  rw [Clear] at clear ⊢
  rw [rest_skipOne]
  generalize cursor.rest = tokens at clear ⊢
  rcases tokens with _ | ⟨passed, _ | ⟨token, rest⟩⟩
  · exact .inl clear
  · refine .inl ?_
    dsimp only
    split
    · exact fun token impossible => nomatch impossible
    · exact clear
  · by_cases same : passed.kind = kind
    · by_cases comment : token.kind = .comment
      · exact .inr ⟨passed, token, rest, rfl, same, comment, if_pos same⟩
      · refine .inl ?_
        simp only [same, if_true]
        intro first next
        cases next
        exact comment
    · refine .inl ?_
      simp only [same, if_false]
      exact clear

end Cursor

theorem Bared.skipDivider {cursor bare : Cursor} (bared : Bared cursor bare) :
    Bared cursor.skipDivider bare.skipDivider :=
  bared.skipBreaks.skipOne cursor.clear_skipBreaks .comma

/-- A reader that makes the same of a text with and without comments, wherever
it begins. -/
def Alike {β : Type} (reader : Cursor → Except ParseError (β × Cursor)) : Prop :=
  ∀ cursor bare, Bared cursor bare → SameReading id cursor.rest (reader cursor) (reader bare)

/-- Entries up to a closing mark are read alike if each one is. -/
theorem entries_alike {β : Type} {closing : TokenKind}
    {entries : Cursor → Except ParseError (List β × Cursor)}
    {entry : Cursor → Except ParseError (β × Cursor)}
    (equation : ∀ cursor, entries cursor =
      match cursor.skipBreaks.rest with
      | [] => .error .unexpectedEnd
      | token :: rest =>
        if token.kind = closing then .ok ([], .behind token rest)
        else do
          let value ← entry cursor
          let others ← entries value.2.skipDivider
          return (value.1 :: others.1, others.2))
    (shrinks : ∀ cursor value next, entry cursor = .ok (value, next) → next.size < cursor.size)
    (alike : Alike entry) : Alike entries := by
  intro cursor
  induction cursor using Cursor.size_induction with
  | step cursor inductionHypothesis =>
      intro bare bared
      rw [equation cursor, equation bare]
      rcases bared.skipBreaks.cases cursor.clear_skipBreaks with
        ⟨shown, shownBare⟩ | ⟨token, rest, shown, shownBare, -⟩
      · simp only [shown, shownBare]
        exact .fault rfl
      · simp only [shown, shownBare]
        split
        · exact .read rfl ((List.suffix_cons token rest).trans (shown ▸ cursor.suffix_skipBreaks))
            (.behind token rest)
        · refine (alike cursor bare bared).bind ?_
          rintro value other next nextBare read rfl bared
          have shorter :=
            Nat.lt_of_le_of_lt next.size_skipDivider_le (shrinks cursor value next read)
          have others := inductionHypothesis _ shorter _ bared.skipDivider
          refine (others.bind ?_).of_suffix next.suffix_skipDivider
          rintro values valuesBare last lastBare - rfl bared
          exact .read rfl List.suffix_rfl bared

theorem nextLabel_alike : Alike nextLabel := by
  intro cursor bare bared
  have clear := cursor.clear_skipBreaks
  rw [nextLabel, nextLabel]
  rcases bared.skipBreaks.cases clear with ⟨shown, shownBare⟩ | ⟨token, rest, shown, shownBare, -⟩
  · simp only [shown, shownBare]
    exact .fault rfl
  · simp only [shown, shownBare]
    cases token.label? with
    | none => exact .fault (congrArg _ (bared.skipBreaks.unexpected_eq clear .label))
    | some label =>
        exact .read rfl ((List.suffix_cons token rest).trans (shown ▸ cursor.suffix_skipBreaks))
          (.behind token rest)

theorem size_lt_of_nextLabel (cursor : Cursor) (label : String) (next : Cursor)
    (read : nextLabel cursor = .ok (label, next)) : next.size < cursor.size := by
  have skipped := cursor.size_skipBreaks_le
  rw [nextLabel] at read
  split at read
  · cases read
  · next token rest shown =>
      rw [Cursor.size_of_rest shown, List.length_cons] at skipped
      split at read
      · cases read
        exact skipped
      · cases read

theorem readLabelList_alike : Alike fun cursor => plain (readLabelList cursor) := by
  intro cursor bare bared
  dsimp only
  rw [plain_readLabelList, plain_readLabelList]
  refine (expect_sameReading bared .leftBracket).bind ?_
  rintro opened openedBare next nextBare - - bared
  exact entries_alike plain_readLabels size_lt_of_nextLabel nextLabel_alike next nextBare bared

variable {α : Type} [NumberText α]

theorem readSignedNumber_alike [Neg α] {cursor bare : Cursor} (bared : Bared cursor bare)
    (clear : cursor.Clear) :
    SameReading id cursor.rest (plain (readSignedNumber (α := α) cursor))
      (plain (readSignedNumber bare)) := by
  have suffix := cursor.suffix_skipOne .minus
  have unsigned := bared.skipOne clear .minus
  rw [plain_readSignedNumber, plain_readSignedNumber, ← bared.kind_eq clear]
  rcases Cursor.clear_skipOne clear .minus with
    unsignedClear | ⟨sign, token, rest, shown, minus, comment, behind⟩
  · rcases unsigned.cases unsignedClear with
      ⟨shown, shownBare⟩ | ⟨token, rest, shown, shownBare, -⟩
    · simp only [shown, shownBare]
      exact .fault rfl
    · simp only [shown, shownBare]
      split
      · cases Token.number? (α := α) token with
        | error fault => exact .fault rfl
        | ok value =>
            exact .read rfl ((List.suffix_cons token rest).trans (shown ▸ suffix))
              (.behind token rest)
      · exact .fault (congrArg _ (unsigned.unexpected_eq unsignedClear .number))
  · simp only [behind, comment, Cursor.unexpected, reduceCtorEq, if_false]
    rw [shown]
    exact .exposed (.behind (List.nil_append _).symm (by rw [minus]; rfl) comment (.inr rfl))

theorem readNumberList_alike [Neg α] : Alike fun cursor => plain (readNumberList (α := α) cursor) := by
  intro cursor bare bared
  dsimp only
  rw [plain_readNumberList, plain_readNumberList]
  refine (expect_sameReading bared .leftBracket).bind ?_
  rintro opened openedBare next nextBare - - bared
  refine entries_alike plain_readNumbers ?_ ?_ next nextBare bared
  · intro place value last read
    exact Nat.lt_of_lt_of_le (size_lt_of_plain read) place.size_skipBreaks_le
  · intro place placeBare bared
    exact (readSignedNumber_alike bared.skipBreaks place.clear_skipBreaks).of_suffix
      place.suffix_skipBreaks

theorem readTable_alike [Neg α] : Alike fun cursor => plain (readTable (α := α) cursor) := by
  intro cursor bare bared
  dsimp only
  rw [plain_readTable, plain_readTable]
  refine (expect_sameReading bared .leftBrace).bind ?_
  rintro opened openedBare next nextBare - - bared
  exact entries_alike plain_readRows (fun _ _ _ read => size_lt_of_plain read) readNumberList_alike
    next nextBare bared

/-! ## Constraints -/

/-- A constraint without its place.  The names in its expressions keep theirs,
which are the same in both runs. -/
def Declaration.unplaced {α : Type} (declaration : Declaration α) : Declaration α :=
  { declaration with span := ⟨0, 0⟩ }

/-- Of the comments that hide a token the last one stands right before it, and
whoever passes comments finds it. -/
theorem last_comment {token : Token} {rest : List Token} (comment : token.kind = .comment)
    {hidden : Token} {others : List Token} (behind : withoutComments rest = hidden :: others) :
    ∃ before previous after, token :: rest = before ++ previous :: hidden :: after ∧
      previous.kind = .comment ∧
      ∀ (skipped : TokenKind → Bool) (stop : Nat), skipped .comment = true →
        skipped hidden.kind = false →
        (Cursor.skipFrom skipped stop (token :: rest)).rest = hidden :: after := by
  simp only [Cursor.rest_skipFrom]
  induction rest generalizing token with
  | nil => cases behind
  | cons next rest inductionHypothesis =>
      by_cases kind : next.kind = .comment
      · rw [withoutComments_cons_comment kind] at behind
        rcases inductionHypothesis kind behind with
            ⟨before, previous, after, shown, commentBefore, found⟩
        refine ⟨token :: before, previous, after, congrArg (token :: ·) shown, commentBefore, ?_⟩
        intro skipped stop passed kept
        rw [← found skipped stop passed kept, List.dropWhile_cons, comment, if_pos passed]
      · rw [withoutComments_cons kind] at behind
        cases behind
        refine ⟨[], token, rest, rfl, comment, ?_⟩
        intro skipped stop passed kept
        rw [List.dropWhile_cons, comment, if_pos passed, List.dropWhile_cons, kept]
        rfl

theorem readStatementEnd_alike : Alike fun cursor => plain (readStatementEnd cursor) := by
  intro cursor bare bared
  have clear := cursor.clear_skipComments
  dsimp only
  rw [plain_readStatementEnd, plain_readStatementEnd, ← bared.skipComments.kind_eq clear]
  split
  · exact .read rfl cursor.suffix_skipComments bared.skipComments
  · exact .fault (congrArg _ (bared.skipComments.unexpected_eq clear .endOfLine))

theorem readRight_alike (start other : Nat) (label : Option String) (left : Expression α)
    {cursor bare : Cursor} (bared : Bared cursor bare) :
    SameReading Declaration.unplaced cursor.rest (readRight start label (left, cursor))
      (readRight other label (left, bare)) := by
  have clear := cursor.clear_skipComments
  rw [readRight, readRight]
  rcases bared.skipComments.cases clear with
    ⟨shown, shownBare⟩ | ⟨token, rest, shown, shownBare, -⟩
  · simp only [shown, shownBare]
    exact .fault rfl
  · simp only [shown, shownBare]
    cases related : relationOf? token.kind with
    | none => exact .fault (congrArg _ (bared.skipComments.unexpected_eq clear .relation))
    | some relation =>
        have awaits : token.kind.awaitsOperand = true := by
          cases kind : token.kind <;> rw [kind] at related <;> first | rfl | cases related
        refine ((readSum_behind awaits (.behind token rest)).bind ?_).of_suffix
          (shown ▸ cursor.suffix_skipComments)
        rintro right rightBare next nextBare - rfl bared
        exact .read rfl List.suffix_rfl bared

/-- The label is read alike, or comments hide the colon behind its name.  In
that case the name is read as an expression, and the colon is the fault. -/
theorem labelAt_alike {cursor bare : Cursor} (bared : Bared cursor bare) (clear : cursor.Clear) :
    ((labelAt cursor).1 = (labelAt bare).1 ∧ SameReading id cursor.rest
      (plain (readSum (α := α) (labelAt cursor).2)) (plain (readSum (labelAt bare).2))) ∨
    ∃ name token rest colon others, cursor.rest = name :: token :: rest ∧
      name.kind = .identifier ∧ token.kind = .comment ∧ colon.kind = .colon ∧
      withoutComments rest = colon :: others := by
  have unlabelled (full : labelAt cursor = (none, cursor)) (plainly : labelAt bare = (none, bare)) :
      (labelAt cursor).1 = (labelAt bare).1 ∧ SameReading id cursor.rest
        (plain (readSum (α := α) (labelAt cursor).2)) (plain (readSum (labelAt bare).2)) := by
    rw [full, plainly]
    exact ⟨rfl, readSum_alike cursor bare bared clear⟩
  rcases bared.cases clear with ⟨shown, shownBare⟩ | ⟨name, rest, shown, shownBare, -⟩
  · exact .inl (unlabelled (by simp only [labelAt, shown]) (by simp only [labelAt, shownBare]))
  · rcases rest with _ | ⟨token, rest⟩
    · exact .inl (unlabelled (by simp only [labelAt, shown])
        (by simp only [labelAt, shownBare, withoutComments, List.filter_nil]))
    · by_cases comment : token.kind = .comment
      · rw [withoutComments_cons_comment comment] at shownBare
        have full : labelAt cursor = (none, cursor) := by
          simp only [labelAt, shown, comment, reduceCtorEq, and_false, if_false]
        cases hidden : withoutComments rest with
        | nil =>
            rw [hidden] at shownBare
            exact .inl (unlabelled full (by simp only [labelAt, shownBare]))
        | cons colon others =>
            rw [hidden] at shownBare
            by_cases label : name.kind = .identifier ∧ colon.kind = .colon
            · exact .inr ⟨name, token, rest, colon, others, shown, label.1, comment, label.2, hidden⟩
            · exact .inl (unlabelled full (by simp only [labelAt, shownBare, label, if_false]))
      · rw [withoutComments_cons comment] at shownBare
        by_cases label : name.kind = .identifier ∧ token.kind = .colon
        · have full : labelAt cursor = (some name.text, .behind token rest) := by
            simp only [labelAt, shown, label, and_self, if_true]
          have plainly : labelAt bare = (some name.text, .behind token (withoutComments rest)) := by
            simp only [labelAt, shownBare, label, and_self, if_true]
          rw [full, plainly, shown]
          refine .inl ⟨rfl, ?_⟩
          exact (readSum_behind (α := α) (by rw [label.2]; rfl) (.behind token rest)).of_suffix
            (List.suffix_cons name _)
        · exact .inl (unlabelled (by simp only [labelAt, shown, label, if_false])
            (by simp only [labelAt, shownBare, label, if_false]))

/-- A name alone is an expression where a colon comes next. -/
theorem readSum_beforeColon {name colon : Token} {rest others : List Token}
    (named : name.kind = .identifier)
    (next : (Cursor.behind name rest).skipComments.rest = colon :: others)
    (isColon : colon.kind = .colon) (stop : Nat) :
    plain (readSum (α := α) ⟨stop, name :: rest⟩) =
      .ok (.variable name.text name.span, (Cursor.behind name rest).skipComments) := by
  have operand : plain (readUnary (α := α) ⟨stop, name :: rest⟩) =
      .ok (.variable name.text name.span, .behind name rest) := by
    rw [plain_readUnary, named]
    dsimp only
    rw [plain_readPrimary, named]
  have factors : plain (readFactors (α := α) (.variable name.text name.span)
      (.behind name rest)) =
      .ok (.variable name.text name.span, (Cursor.behind name rest).skipComments) := by
    rw [plain_readFactors, next]
    simp only [isColon, productOperator?, beginsOperand, Bool.false_eq_true, if_false]
  have terms : plain (readTerms (α := α) (.variable name.text name.span)
      (Cursor.behind name rest).skipComments) =
      .ok (.variable name.text name.span, (Cursor.behind name rest).skipComments) := by
    rw [plain_readTerms, Cursor.skipComments_eq_self (Cursor.clear_skipComments _), next]
    simp only [isColon, sumOperator?]
  rw [plain_readSum, plain_readProduct, operand]
  exact bind_eq_ok_iff.mpr ⟨_, factors, terms⟩

theorem readDeclaration_alike {cursor bare : Cursor} (bared : Bared cursor bare)
    (clear : cursor.Clear) :
    SameReading Declaration.unplaced cursor.rest (plain (readDeclaration (α := α) cursor))
      (plain (readDeclaration bare)) := by
  rw [plain_readDeclaration, plain_readDeclaration]
  rcases labelAt_alike (α := α) bared clear with
    ⟨same, left⟩ | ⟨name, token, rest, colon, others, shown, named, comment, isColon, behind⟩
  · rw [← same]
    refine left.bind ?_
    rintro tree treeBare next nextBare - rfl bared
    exact readRight_alike _ _ _ _ bared
  · -- The name is read as the left side, and the colon is found in the relation's place.
    rcases last_comment comment behind with ⟨before, previous, after, spelled, commentBefore, found⟩
    have passed : ∀ stop, (Cursor.skipComments ⟨stop, token :: rest⟩).rest = colon :: after :=
      fun stop => found _ stop rfl (by rw [isColon]; rfl)
    rcases cursor with ⟨stop, tokens⟩
    obtain rfl : tokens = name :: token :: rest := shown
    have unlabelled : labelAt ⟨stop, name :: token :: rest⟩ =
        (none, ⟨stop, name :: token :: rest⟩) := by
      simp only [labelAt, comment, reduceCtorEq, and_false, if_false]
    have left := readSum_beforeColon (α := α) named (passed name.span.stop) isColon stop
    have fault : plain (readSum (α := α) (labelAt ⟨stop, name :: token :: rest⟩).2) >>=
        readRight (Cursor.start ⟨stop, name :: token :: rest⟩)
          (labelAt ⟨stop, name :: token :: rest⟩).1 =
        .error (.unexpectedToken .relation .colon colon.span) := by
      rw [unlabelled, left]
      refine (?_ : readRight (α := α) _ _ (_, _) = _)
      rw [readRight, Cursor.skipComments_eq_self (Cursor.clear_skipComments _)]
      dsimp only
      rw [Cursor.unexpected, Cursor.behind, passed name.span.stop]
      simp only [isColon, relationOf?, reduceCtorEq, if_false]
    rw [fault]
    have placed : name :: token :: rest = (name :: before) ++ previous :: colon :: after :=
      congrArg (name :: ·) spelled
    exact .exposed (.beforeColon placed commentBefore isColon (.inl rfl))

end Language
end Optimum
