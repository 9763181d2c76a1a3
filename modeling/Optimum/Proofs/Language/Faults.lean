import Optimum.Proofs.Language.CommentsInParts
import Optimum.Proofs.Language.Statements

namespace Optimum
namespace Language

open Checks

/-!
# What faults are about

The readers of lists, tables, models and programs are traced as those of
expressions are.  Whatever a program cannot be read for is therefore found in
the tokens of its text (`faultAt_of_ofTokens`): no fault invents a place or a
name.
-/

/-! ## Lists and tables -/

namespace Passes

theorem skipOne (kind : TokenKind) (cursor : Cursor) :
    ∃ used, Passes cursor used (cursor.skipOne kind) := by
  rcases cursor with ⟨stop, _ | ⟨token, rest⟩⟩
  · exact ⟨[], .refl _⟩
  · simp only [Cursor.skipOne, Cursor.take?]
    split
    · exact ⟨[token], .token rfl⟩
    · exact ⟨[], .refl _⟩

end Passes

namespace Traced

variable {α : Type} [NumberText α] {β γ : Type} {cursor : Cursor}
  {answer : Except ParseError (β × Cursor)}

theorem skipOne (kind : TokenKind) (traced : Traced α (cursor.skipOne kind) answer) :
    Traced α cursor answer := by
  rcases Passes.skipOne kind cursor with ⟨used, passes⟩
  exact traced.from_passed passes

theorem skipDivider (traced : Traced α cursor.skipDivider answer) : Traced α cursor answer :=
  (traced.skipOne .comma).skipBreaks

theorem convert (traced : Traced α cursor answer) (value : β × Cursor → γ) :
    Traced α cursor (answer >>= fun read => .ok (value read, read.2)) :=
  traced.bind fun _ next _ => .ok (.refl next)

end Traced

variable {α : Type} [NumberText α]

/-- Entries up to a closing mark are traced if each one is.  Lists of labels, of
numbers and of rows are all of this form. -/
theorem traced_entries {β : Type} {closing : TokenKind}
    {entries : Cursor → Except ParseError (List β × Cursor)}
    {entry : Cursor → Except ParseError (β × Cursor)}
    (equation : ∀ cursor, entries cursor =
      match cursor.skipBreaks.rest with
      | [] => .error .unexpectedEnd
      | token :: rest =>
        if token.kind = closing then .ok ([], .behind token rest)
        else do
          let value ← entry cursor
          let others ← entries value.2.skipDivider
          return (value.1 :: others.1, others.2))
    (shrinks : ∀ cursor value next, entry cursor = .ok (value, next) → next.size < cursor.size)
    (traced : ∀ cursor, Traced α cursor (entry cursor)) (cursor : Cursor) :
    Traced α cursor (entries cursor) := by
  induction cursor using Cursor.size_induction with
  | step cursor inductionHypothesis =>
      rw [equation cursor]
      split
      · exact .error .unexpectedEnd
      · next token rest shown =>
          split
          · exact .skipBreaks (.ok (.token shown))
          · refine (traced cursor).bind fun value next read => ?_
            have shorter :=
              Nat.lt_of_le_of_lt next.size_skipDivider_le (shrinks cursor value next read)
            exact ((inductionHypothesis _ shorter).convert _).skipDivider

theorem traced_nextLabel (cursor : Cursor) : Traced α cursor (nextLabel cursor) := by
  rw [nextLabel]
  refine .skipBreaks ?_
  split
  · exact .error .unexpectedEnd
  · next token rest shown =>
      split
      · exact .ok (.token shown)
      · exact .unexpected _ _

theorem traced_readLabelList (cursor : Cursor) : Traced α cursor (plain (readLabelList cursor)) := by
  rw [plain_readLabelList]
  refine (traced_expect cursor .leftBracket).bind fun opened next _ => ?_
  exact traced_entries plain_readLabels size_lt_of_nextLabel traced_nextLabel next

theorem traced_readSignedNumber [Neg α] (cursor : Cursor) :
    Traced α cursor (plain (readSignedNumber (α := α) cursor)) := by
  rw [plain_readSignedNumber]
  refine .skipOne .minus ?_
  split
  · exact .error .unexpectedEnd
  · next token rest shown =>
      split
      · next number => exact traced_number? shown number _
      · exact .unexpected _ _

theorem traced_readNumberList [Neg α] (cursor : Cursor) :
    Traced α cursor (plain (readNumberList (α := α) cursor)) := by
  rw [plain_readNumberList]
  refine (traced_expect cursor .leftBracket).bind fun opened next _ => ?_
  refine traced_entries plain_readNumbers ?_ ?_ next
  · intro place value last read
    exact Nat.lt_of_lt_of_le (size_lt_of_plain read) place.size_skipBreaks_le
  · exact fun place => (traced_readSignedNumber place.skipBreaks).skipBreaks

theorem traced_readTable [Neg α] (cursor : Cursor) :
    Traced α cursor (plain (readTable (α := α) cursor)) := by
  rw [plain_readTable]
  refine (traced_expect cursor .leftBrace).bind fun opened next _ => ?_
  exact traced_entries plain_readRows (fun _ _ _ read => size_lt_of_plain read)
    traced_readNumberList next

/-! ## Linear models -/

theorem traced_readStatementEnd (cursor : Cursor) :
    Traced α cursor (plain (readStatementEnd cursor)) := by
  rw [plain_readStatementEnd]
  refine .skipComments ?_
  split
  · exact .ok (.refl _)
  · exact .unexpected _ _

theorem traced_readDeclaration (cursor : Cursor) :
    Traced α cursor (plain (readDeclaration (α := α) cursor)) := by
  rcases passes_labelAt cursor with ⟨label, passes, -⟩
  rw [plain_readDeclaration]
  refine ((traced_readSum _).bind fun left next _ => ?_).from_passed passes
  rw [readRight]
  refine .skipComments ?_
  split
  · exact .error .unexpectedEnd
  · next mark rest shown =>
      split
      · exact .unexpected _ _
      · refine .behind shown ((traced_readSum _).bind fun right last _ => ?_)
        exact .ok (.refl last)

theorem traced_readStatements (cursor : Cursor) :
    ∀ model : LinearModel α, Traced α cursor (plain (readStatements model cursor)) := by
  induction cursor using Cursor.size_induction with
  | step cursor inductionHypothesis =>
      intro model
      have skipped := cursor.size_skipBreaks_le
      rw [plain_readStatements]
      refine .skipBreaks ?_
      split
      · exact .error .unexpectedEnd
      · next token rest shown =>
          rw [Cursor.size_of_rest shown, List.length_cons] at skipped
          split
          · exact .ok (.token shown)
          · split
            · next sense opens =>
                have whole := (traced_readSum (α := α) (.behind token rest)).behind shown
                refine whole.bind_from fun tree middle _ read _ => ?_
                rcases passes_of_objective shown opens read with ⟨own, passes, derived, span⟩
                dsimp only
                split
                · rw [span]
                  refine .error (.duplicateObjective (passes.isInfix List.suffix_rfl) ?_)
                  rintro rfl
                  exact derived.ne_nil rfl
                · refine ((traced_readStatementEnd middle).bind
                    fun _ last readEnd => ?_).from_passed passes
                  refine inductionHypothesis last ?_ _
                  exact Nat.lt_of_le_of_lt (Nat.le_of_lt_succ (size_lt_of_plain readEnd))
                    (Nat.lt_trans (size_lt_of_plain read) skipped)
            · refine (traced_readDeclaration cursor.skipBreaks).bind fun declaration middle read => ?_
              refine (traced_readStatementEnd middle).bind fun _ last readEnd => ?_
              refine inductionHypothesis last ?_ _
              exact Nat.lt_of_le_of_lt (Nat.le_of_lt_succ (size_lt_of_plain readEnd))
                (Nat.lt_of_lt_of_le (size_lt_of_plain read) cursor.size_skipBreaks_le)

theorem traced_readOpening (keyword : TokenKind) (cursor : Cursor) :
    Traced α cursor (plain (readOpening keyword cursor)) := by
  rw [plain_readOpening]
  refine (traced_expect cursor keyword).bind fun opened next _ => ?_
  refine (traced_expect next .identifier).bind fun name last _ => ?_
  exact (traced_expect last .leftBrace).convert _

theorem traced_readLinearModel (cursor : Cursor) :
    Traced α cursor (plain (readLinearModel (α := α) cursor)) := by
  rw [plain_readLinearModel]
  exact (traced_readOpening .lp cursor).bind fun opening next _ => traced_readStatements next _

/-! ## Models of data -/

/-- The body of a section is read behind its heading and a colon. -/
def BodyTraced (α : Type) [NumberText α] {β : Type} (heading : Token)
    (body : Cursor → Except ParseError (β × Cursor)) : Prop :=
  ∀ cursor rest, cursor.rest = heading :: rest →
    Traced α cursor (body ((Cursor.behind heading rest).skipOne .colon))

namespace BodyTraced

variable {β γ : Type} {heading : Token}

theorem fillWith {body : Cursor → Except ParseError (β × Cursor)}
    (traced : ∀ cursor, Traced α cursor (body cursor)) (slot : Option β) (update : Option β → γ) :
    BodyTraced α heading fun cursor => fillWith (body cursor) heading slot update := by
  intro cursor rest shown
  have inner := ((traced ((Cursor.behind heading rest).skipOne .colon)).skipOne _).behind shown
  refine inner.bind_from fun value next used _ passes => ?_
  dsimp only [fillOnce]
  split
  · exact .error (.duplicateSection (shown ▸ List.mem_cons_self))
  · exact .ok passes

theorem unknown (known : List String) :
    BodyTraced α heading fun _ =>
      (.error (.unknownSection heading.text known heading.span) : Except ParseError (β × Cursor)) :=
  fun _ _ shown => .error (.unknownSection (shown ▸ List.mem_cons_self))

end BodyTraced

theorem traced_readAssignmentSection [Neg α] (model : AssignmentModel α) (heading : Token) :
    BodyTraced α heading fun cursor => plain (readAssignmentSection model heading cursor) := by
  simp only [plain_readAssignmentSection]
  repeat' split
  · exact .fillWith traced_readLabelList _ _
  · exact .fillWith traced_readLabelList _ _
  · exact .fillWith traced_readTable _ _
  · exact .unknown _

theorem traced_readTransportSection [Neg α] (model : TransportModel α) (heading : Token) :
    BodyTraced α heading fun cursor => plain (readTransportSection model heading cursor) := by
  simp only [plain_readTransportSection]
  repeat' split
  · exact .fillWith traced_readLabelList _ _
  · exact .fillWith traced_readLabelList _ _
  · exact .fillWith traced_readNumberList _ _
  · exact .fillWith traced_readNumberList _ _
  · exact .fillWith traced_readTable _ _
  · exact .unknown _

theorem traced_readSections {β : Type}
    {readSection : β → Token → (body : Cursor) → Except ParseError (Parsed β body.size)}
    (bodies : ∀ model heading,
      BodyTraced α heading fun cursor => plain (readSection model heading cursor))
    (cursor : Cursor) :
    ∀ model : β, Traced α cursor (plain (readSections readSection model cursor)) := by
  induction cursor using Cursor.size_induction with
  | step cursor inductionHypothesis =>
      intro model
      have skipped := cursor.size_skipBreaks_le
      rw [plain_readSections, plain_expect]
      refine .skipBreaks ?_
      cases shown : cursor.skipBreaks.rest with
      | nil => exact .error .unexpectedEnd
      | cons token rest =>
          rw [Cursor.size_of_rest shown, List.length_cons] at skipped
          dsimp only
          split
          · exact .ok (.token shown)
          · split
            · refine (bodies model token _ rest shown).bind fun filled last read => ?_
              refine inductionHypothesis last ?_ filled
              have body := Nat.lt_of_lt_of_le (size_lt_of_plain read)
                (Cursor.size_skipOne_le .colon (.behind token rest))
              exact Nat.lt_trans body skipped
            · exact .unexpected _ _

theorem traced_readAssignmentModel [Neg α] (cursor : Cursor) :
    Traced α cursor (plain (readAssignmentModel (α := α) cursor)) := by
  rw [plain_readAssignmentModel]
  refine (traced_readOpening .assignment cursor).bind fun opening next _ => ?_
  exact (traced_readSections traced_readAssignmentSection next _).convert _

theorem traced_readTransportModel [Neg α] (cursor : Cursor) :
    Traced α cursor (plain (readTransportModel (α := α) cursor)) := by
  rw [plain_readTransportModel]
  refine (traced_readOpening .transport cursor).bind fun opening next _ => ?_
  exact (traced_readSections traced_readTransportSection next _).convert _

/-! ## Programs -/

theorem traced_readItem [Neg α] (cursor : Cursor) :
    Traced α cursor (plain (readItem (α := α) cursor)) := by
  rw [plain_readItem]
  split
  · exact (traced_readLinearModel cursor).map _
  · exact (traced_readAssignmentModel cursor).map _
  · exact (traced_readTransportModel cursor).map _
  · exact .unexpected _ _

theorem faultAt_of_readItems [Neg α] (cursor : Cursor) :
    ∀ fault, readItems (α := α) cursor = .error fault → FaultAt α cursor.rest fault := by
  induction cursor using Cursor.size_induction with
  | step cursor inductionHypothesis =>
      intro fault failed
      have item := (traced_readItem (α := α) cursor.skipBreaks).skipBreaks
      rw [readItems_eq] at failed
      split at failed
      · cases failed
      · rcases bind_eq_error_iff.mp failed with first | ⟨⟨value, next⟩, read, onward⟩
        · rw [first] at item
          exact item.points
        · rcases bind_eq_error_iff.mp onward with later | ⟨others, -, impossible⟩
          · have shorter : next.size < cursor.size :=
              Nat.lt_of_lt_of_le (size_lt_of_plain read) cursor.size_skipBreaks_le
            exact (inductionHypothesis next shorter fault later).of_suffix (item.suffix read)
          · cases impossible

/-- What tokens cannot be read as a program for is found in them.  So a fault
never points at a place where nothing stands. -/
theorem faultAt_of_ofTokens [Neg α] {tokens : List Token} {fault : ParseError}
    (failed : Program.ofTokens (α := α) tokens = .error fault) : FaultAt α tokens fault :=
  faultAt_of_readItems ⟨0, tokens⟩ fault (map_eq_error_iff.mp failed)

end Language
end Optimum
