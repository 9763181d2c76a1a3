import Optimum.Language.Reading.Models
import Optimum.Proofs.Language.CommentsInParts

namespace Optimum
namespace Language

open Checks

/-!
# Comments make no difference unless they are exposed

Models and programs, on a full token list and on the same one without its
comments.  A program is read alike up to the places of its parts, unless the
full run stops at an exposed comment (`ofTokens_withoutComments`).
-/

/-! ## Parts without their places -/

def Objective.unplaced {α : Type} (objective : Objective α) : Objective α :=
  { objective with span := ⟨0, 0⟩ }

def LinearModel.unplaced {α : Type} (model : LinearModel α) : LinearModel α :=
  ⟨⟨0, 0⟩, model.name, model.objective.map Objective.unplaced,
    model.constraints.map Declaration.unplaced⟩

def Item.unplaced {α : Type} : Item α → Item α
  | .lp model => .lp model.unplaced
  | .assignment model => .assignment { model with span := ⟨0, 0⟩ }
  | .transport model => .transport { model with span := ⟨0, 0⟩ }

def Program.unplaced {α : Type} (program : Program α) : Program α :=
  ⟨program.items.map Item.unplaced⟩

/-- A program or a fault without its places. -/
def unplaced {α : Type} : Except ParseError (Program α) → Except ParseError (Program α)
  | .ok program => .ok program.unplaced
  | .error fault => .error fault.unplaced

theorem unplaced_cons {α : Type} {item other : Item α} (same : item.unplaced = other.unplaced)
    {full plainly : Except ParseError (List (Item α))}
    (others : unplaced (full.map Program.mk) = unplaced (plainly.map Program.mk)) :
    unplaced ((full >>= fun items => pure (item :: items)).map Program.mk) =
      unplaced ((plainly >>= fun items => pure (other :: items)).map Program.mk) := by
  cases full with
  | error fault =>
      cases plainly with
      | error faultBare => exact others
      | ok itemsBare => cases others
  | ok items =>
      cases plainly with
      | error faultBare => cases others
      | ok itemsBare =>
          have sameItems : items.map Item.unplaced = itemsBare.map Item.unplaced :=
            congrArg Program.items (Except.ok.inj others)
          refine congrArg (fun items => Except.ok (Program.mk items)) ?_
          rw [List.map_cons, List.map_cons, same, sameItems]

variable {α : Type} [NumberText α]

/-! ## Linear models -/

theorem readStatements_alike (cursor : Cursor) :
    ∀ (model other : LinearModel α) (bare : Cursor), model.unplaced = other.unplaced →
      Bared cursor bare →
      SameReading LinearModel.unplaced cursor.rest (plain (readStatements model cursor))
        (plain (readStatements other bare)) := by
  induction cursor using Cursor.size_induction with
  | step cursor inductionHypothesis =>
      intro model other bare same bared
      have clear := cursor.clear_skipBreaks
      have skipped := cursor.size_skipBreaks_le
      have suffix := cursor.suffix_skipBreaks
      obtain ⟨sameName, sameObjective, sameConstraints⟩ :
          model.name = other.name ∧
            model.objective.map Objective.unplaced = other.objective.map Objective.unplaced ∧
            model.constraints.map Declaration.unplaced =
              other.constraints.map Declaration.unplaced := by
        simpa only [LinearModel.unplaced, LinearModel.mk.injEq, true_and] using same
      rw [plain_readStatements, plain_readStatements]
      rcases bared.skipBreaks.cases clear with
        ⟨shown, shownBare⟩ | ⟨token, rest, shown, shownBare, -⟩
      · simp only [shown, shownBare]
        exact .fault rfl
      · have taken : token :: rest <:+ cursor.rest := shown ▸ suffix
        rw [Cursor.size_of_rest shown, List.length_cons] at skipped
        simp only [shown, shownBare]
        split
        · exact .read same ((List.suffix_cons token rest).trans taken) (.behind token rest)
        · cases sensed : senseOf? token.kind with
          | some sense =>
              have awaits : token.kind.awaitsOperand = true := by
                cases kind : token.kind <;> rw [kind] at sensed <;> first | rfl | cases sensed
              refine ((readSum_behind awaits (.behind token rest)).bind ?_).of_suffix taken
              rintro tree treeBare next nextBare read rfl bared
              have filled : model.objective.isSome = other.objective.isSome := by
                simpa only [Option.isSome_map] using congrArg Option.isSome sameObjective
              dsimp only
              rw [filled, sameName]
              split
              · exact .fault rfl
              · refine (readStatementEnd_alike next nextBare bared).bind ?_
                rintro _ _ last lastBare readEnd - bared
                have shorter : last.size < cursor.size :=
                  Nat.lt_of_le_of_lt (Nat.le_of_lt_succ (size_lt_of_plain readEnd))
                    (Nat.lt_trans (size_lt_of_plain read) skipped)
                refine inductionHypothesis last shorter _ _ lastBare ?_ bared
                simp only [LinearModel.unplaced, sameConstraints, Option.map_some, Objective.unplaced]
                rfl
          | none =>
              refine ((readDeclaration_alike bared.skipBreaks clear).bind ?_).of_suffix suffix
              rintro declaration declarationBare next nextBare read sameDeclaration bared
              refine (readStatementEnd_alike next nextBare bared).bind ?_
              rintro _ _ last lastBare readEnd - bared
              have shorter : last.size < cursor.size :=
                Nat.lt_of_le_of_lt (Nat.le_of_lt_succ (size_lt_of_plain readEnd))
                  (Nat.lt_of_lt_of_le (size_lt_of_plain read) cursor.size_skipBreaks_le)
              refine inductionHypothesis last shorter _ _ lastBare ?_ bared
              simp only [LinearModel.unplaced, sameName, sameObjective, List.map_append,
                sameConstraints, List.map_cons, List.map_nil, sameDeclaration]

theorem readOpening_alike (keyword : TokenKind) :
    Alike fun cursor => plain (readOpening keyword cursor) := by
  intro cursor bare bared
  dsimp only
  rw [plain_readOpening, plain_readOpening]
  refine (expect_sameReading bared keyword).bind ?_
  rintro opened openedBare next nextBare - rfl bared
  refine (expect_sameReading bared .identifier).bind ?_
  rintro name nameBare last lastBare - rfl bared
  refine (expect_sameReading bared .leftBrace).bind ?_
  rintro brace braceBare behind behindBare - - bared
  exact .read rfl List.suffix_rfl bared

theorem readLinearModel_alike {cursor bare : Cursor} (bared : Bared cursor bare) :
    SameReading LinearModel.unplaced cursor.rest (plain (readLinearModel (α := α) cursor))
      (plain (readLinearModel bare)) := by
  rw [plain_readLinearModel, plain_readLinearModel]
  refine (readOpening_alike .lp cursor bare bared).bind ?_
  rintro opening openingBare next nextBare - rfl bared
  exact readStatements_alike next _ _ nextBare rfl bared

/-! ## Models of data -/

/-- A body that begins with a mark, and has a colon neither there nor before
it. -/
def RefusesColon {β : Type} (body : Cursor → Except ParseError (β × Cursor)) (mark : TokenKind) :
    Prop :=
  ∀ cursor token rest, cursor.skipBreaks.rest = token :: rest → token.kind = .colon →
    body cursor = .error (.unexpectedToken (.token mark) .colon token.span)

/-- The body of a section is read alike, and where comments hide a colon from
the heading before it, either that colon is the fault or the heading is. -/
structure BodyAlike {β : Type} (body : Cursor → Except ParseError (β × Cursor)) : Prop where
  alike : Alike body
  colon : (∃ mark, (mark = .leftBracket ∨ mark = .leftBrace) ∧ RefusesColon body mark) ∨
    ∃ fault, ∀ cursor, body cursor = .error fault

/-- Where a mark is expected a colon is a fault, whatever would have followed
the mark. -/
theorem expect_refusesColon {β : Type} {mark : TokenKind} (other : mark ≠ .colon)
    (onward : Token × Cursor → Except ParseError (β × Cursor)) :
    RefusesColon (fun cursor => plain (cursor.expect mark) >>= onward) mark := by
  intro cursor token rest shown isColon
  dsimp only
  rw [plain_expect, Cursor.unexpected, shown]
  simp only [isColon, other.symm, reduceCtorEq, if_false]
  rfl

theorem readLabelList_body : BodyAlike fun cursor => plain (readLabelList cursor) where
  alike := readLabelList_alike
  colon := by
    simp only [plain_readLabelList]
    exact .inl ⟨_, .inl rfl, expect_refusesColon (by decide) _⟩

theorem readNumberList_body [Neg α] :
    BodyAlike fun cursor => plain (readNumberList (α := α) cursor) where
  alike := readNumberList_alike
  colon := by
    simp only [plain_readNumberList]
    exact .inl ⟨_, .inl rfl, expect_refusesColon (by decide) _⟩

theorem readTable_body [Neg α] : BodyAlike fun cursor => plain (readTable (α := α) cursor) where
  alike := readTable_alike
  colon := by
    simp only [plain_readTable]
    exact .inl ⟨_, .inr rfl, expect_refusesColon (by decide) _⟩

theorem BodyAlike.of_error {β : Type} (fault : ParseError) :
    BodyAlike fun _ => (.error fault : Except ParseError (β × Cursor)) where
  alike := fun _ _ _ => .fault rfl
  colon := .inr ⟨fault, fun _ => rfl⟩

theorem BodyAlike.fillWith {β γ : Type} {body : Cursor → Except ParseError (β × Cursor)}
    (same : BodyAlike body) (heading : Token) (slot : Option β) (update : Option β → γ) :
    BodyAlike fun cursor => fillWith (body cursor) heading slot update where
  alike := by
    intro cursor bare bared
    refine (same.alike cursor bare bared).bind ?_
    rintro read readBare next nextBare - equal bared
    obtain rfl : read = readBare := equal
    dsimp only
    cases fillOnce heading slot read with
    | error fault => exact .fault rfl
    | ok filled => exact .read rfl List.suffix_rfl bared
  colon := by
    rcases same.colon with ⟨mark, marked, refuses⟩ | ⟨fault, fails⟩
    · refine .inl ⟨mark, marked, fun cursor token rest shown isColon => ?_⟩
      dsimp only
      rw [Language.fillWith, refuses cursor token rest shown isColon]
      rfl
    · refine .inr ⟨fault, fun cursor => ?_⟩
      simp only [Language.fillWith, fails]
      rfl

theorem readAssignmentSection_body [Neg α] (model : AssignmentModel α) (heading : Token) :
    BodyAlike fun cursor => plain (readAssignmentSection model heading cursor) := by
  simp only [plain_readAssignmentSection]
  repeat' split
  · exact readLabelList_body.fillWith _ _ _
  · exact readLabelList_body.fillWith _ _ _
  · exact readTable_body.fillWith _ _ _
  · exact .of_error _

theorem readTransportSection_body [Neg α] (model : TransportModel α) (heading : Token) :
    BodyAlike fun cursor => plain (readTransportSection model heading cursor) := by
  simp only [plain_readTransportSection]
  repeat' split
  · exact readLabelList_body.fillWith _ _ _
  · exact readLabelList_body.fillWith _ _ _
  · exact readNumberList_body.fillWith _ _ _
  · exact readNumberList_body.fillWith _ _ _
  · exact readTable_body.fillWith _ _ _
  · exact .of_error _

/-- Behind a heading a colon is passed alike, unless comments hide it. -/
theorem behindHeading_alike {β : Type} {body : Cursor → Except ParseError (β × Cursor)}
    (same : BodyAlike body) {next bare : Cursor} (bared : Bared next bare) :
    SameReading id next.rest (body (next.skipOne .colon)) (body (bare.skipOne .colon)) := by
  by_cases clear : next.Clear
  · exact (same.alike _ _ (bared.skipOne clear .colon)).of_suffix (next.suffix_skipOne .colon)
  · rcases next with ⟨stop, tokens⟩
    obtain ⟨token, rest, rfl, comment⟩ : ∃ token rest, tokens = token :: rest ∧
        token.kind = .comment := by
      rcases tokens with _ | ⟨token, rest⟩
      · exact absurd (by simp [Cursor.Clear]) clear
      · refine ⟨token, rest, rfl, ?_⟩
        by_contra ordinary
        exact clear fun first shown => by
          cases shown
          exact ordinary
    have unmoved : Cursor.skipOne .colon ⟨stop, token :: rest⟩ = ⟨stop, token :: rest⟩ := by
      simp only [Cursor.skipOne, Cursor.take?, comment, reduceCtorEq, if_false]
    have shownBare : bare.rest = withoutComments rest := by
      rw [bared, withoutComments_cons_comment comment]
    rw [unmoved]
    have stays (other : ∀ first ∈ bare.rest.head?, first.kind ≠ .colon) :
        SameReading id (token :: rest) (body ⟨stop, token :: rest⟩) (body (bare.skipOne .colon)) := by
      refine same.alike ⟨stop, token :: rest⟩ (bare.skipOne .colon) ?_
      rw [Bared, ← bared, Cursor.rest_skipOne]
      rcases shown : bare.rest with _ | ⟨first, others⟩
      · rfl
      · exact if_neg (other first (by rw [shown]; rfl))
    cases hidden : withoutComments rest with
    | nil => exact stays (by simp [shownBare, hidden])
    | cons colon others =>
        by_cases isColon : colon.kind = .colon
        · rcases last_comment comment hidden with
              ⟨before, previous, after, spelled, commentBefore, found⟩
          rcases same.colon with ⟨mark, marked, refuses⟩ | ⟨fault, fails⟩
          · rw [refuses ⟨stop, token :: rest⟩ colon after
              (found _ stop rfl (by rw [isColon]; rfl)) isColon]
            refine .exposed (.beforeColon spelled commentBefore isColon (.inr ?_))
            exact marked.imp (congrArg _) (congrArg _)
          · rw [fails, fails]
            exact .fault rfl
        · refine stays ?_
          rw [shownBare, hidden]
          intro first next
          cases next
          exact isColon

theorem readSections_alike {β : Type}
    {readSection : β → Token → (body : Cursor) → Except ParseError (Parsed β body.size)}
    (bodies : ∀ model heading, BodyAlike fun cursor => plain (readSection model heading cursor))
    (cursor : Cursor) :
    ∀ (model : β) (bare : Cursor), Bared cursor bare →
      SameReading id cursor.rest (plain (readSections readSection model cursor))
        (plain (readSections readSection model bare)) := by
  induction cursor using Cursor.size_induction with
  | step cursor inductionHypothesis =>
      intro model bare bared
      rw [plain_readSections, plain_readSections]
      rcases bared.skipBreaks.cases cursor.clear_skipBreaks with
        ⟨shown, shownBare⟩ | ⟨token, rest, shown, shownBare, -⟩
      · simp only [shown, shownBare]
        exact .fault rfl
      · simp only [shown, shownBare]
        split
        · exact .read rfl ((List.suffix_cons token rest).trans (shown ▸ cursor.suffix_skipBreaks))
            (.behind token rest)
        · refine (expect_sameReading bared .identifier).bind ?_
          rintro heading headingBare next nextBare read rfl bared
          refine (behindHeading_alike (bodies model heading) bared).bind ?_
          rintro filled filledBare last lastBare readBody rfl bared
          have shorter : last.size < cursor.size :=
            Nat.lt_trans (Nat.lt_of_lt_of_le (size_lt_of_plain readBody) (next.size_skipOne_le _))
              (size_lt_of_plain read)
          exact inductionHypothesis last shorter filled lastBare bared

theorem readAssignmentModel_alike [Neg α] :
    Alike fun cursor => plain (readAssignmentModel (α := α) cursor) := by
  intro cursor bare bared
  dsimp only
  rw [plain_readAssignmentModel, plain_readAssignmentModel]
  refine (readOpening_alike .assignment cursor bare bared).bind ?_
  rintro opening openingBare next nextBare - rfl bared
  refine (readSections_alike readAssignmentSection_body next _ nextBare bared).bind ?_
  rintro filled filledBare last lastBare - rfl bared
  exact .read rfl List.suffix_rfl bared

theorem readTransportModel_alike [Neg α] :
    Alike fun cursor => plain (readTransportModel (α := α) cursor) := by
  intro cursor bare bared
  dsimp only
  rw [plain_readTransportModel, plain_readTransportModel]
  refine (readOpening_alike .transport cursor bare bared).bind ?_
  rintro opening openingBare next nextBare - rfl bared
  refine (readSections_alike readTransportSection_body next _ nextBare bared).bind ?_
  rintro filled filledBare last lastBare - rfl bared
  exact .read rfl List.suffix_rfl bared

/-! ## Programs -/

theorem readItem_alike [Neg α] {cursor bare : Cursor} (bared : Bared cursor bare)
    (clear : cursor.Clear) :
    SameReading Item.unplaced cursor.rest (plain (readItem (α := α) cursor))
      (plain (readItem bare)) := by
  rw [plain_readItem, plain_readItem, ← bared.kind_eq clear]
  split
  · exact (readLinearModel_alike bared).map _ _ fun _ _ same => congrArg Item.lp same
  · exact (readAssignmentModel_alike cursor bare bared).map _ _
      fun _ _ same => congrArg (Item.unplaced ∘ Item.assignment) same
  · exact (readTransportModel_alike cursor bare bared).map _ _
      fun _ _ same => congrArg (Item.unplaced ∘ Item.transport) same
  · exact .fault (congrArg _ (bared.unexpected_eq clear .model))

/-- Models are read alike up to the end of the text, or the full run stops at an
exposed comment. -/
theorem readItems_alike [Neg α] (cursor : Cursor) :
    ∀ bare, Bared cursor bare →
      unplaced ((readItems (α := α) cursor).map Program.mk) =
          unplaced ((readItems bare).map Program.mk) ∨
        ∃ fault, readItems (α := α) cursor = .error fault ∧ ExposedComment cursor.rest fault := by
  induction cursor using Cursor.size_induction with
  | step cursor inductionHypothesis =>
      intro bare bared
      have clear := cursor.clear_skipBreaks
      have item := readItem_alike (α := α) bared.skipBreaks clear
      rw [readItems_eq, readItems_eq, ← bared.skipBreaks.kind_eq clear]
      split
      · exact .inl rfl
      · generalize read : plain (readItem (α := α) cursor.skipBreaks) = full at item ⊢
        generalize plain (readItem (α := α) bare.skipBreaks) = plainly at item ⊢
        cases item with
        | @read value other next nextBare same suffix bared =>
            have shorter : next.size < cursor.size :=
              Nat.lt_of_lt_of_le (size_lt_of_plain read) cursor.size_skipBreaks_le
            rcases inductionHypothesis next shorter nextBare bared with
              others | ⟨fault, failed, exposed⟩
            · exact .inl (unplaced_cons same others)
            · refine .inr ⟨fault, ?_, exposed.of_suffix (suffix.trans cursor.suffix_skipBreaks)⟩
              exact congrArg (· >>= fun items => pure (value :: items)) failed
        | fault same => exact .inl (congrArg Except.error same)
        | exposed exposed =>
            exact .inr ⟨_, rfl, exposed.of_suffix cursor.suffix_skipBreaks⟩

/-- A token list and the same one without its comments are read as the same
program up to the places of its parts, or with the same fault up to its place,
unless the reading of the full list stops at a comment in an exposed place. -/
theorem ofTokens_withoutComments [Neg α] (tokens : List Token) :
    unplaced (Program.ofTokens (α := α) tokens) =
        unplaced (Program.ofTokens (withoutComments tokens)) ∨
      ∃ fault, Program.ofTokens (α := α) tokens = .error fault ∧ ExposedComment tokens fault := by
  rcases readItems_alike (α := α) ⟨0, tokens⟩ ⟨0, withoutComments tokens⟩ rfl with
    same | ⟨fault, failed, exposed⟩
  · exact .inl same
  · exact .inr ⟨fault, by rw [Program.ofTokens, failed]; rfl, exposed⟩

/-- A comment between the keyword of an objective and its expression is a fault,
and nothing is wrong without it. -/
theorem ofTokens_objectiveComment :
    (Program.ofTokens (α := Float) (tokenize "lp m { max /* c */ x1 }")).isOk = false ∧
      (Program.ofTokens (α := Float)
        (withoutComments (tokenize "lp m { max /* c */ x1 }"))).isOk = true := by
  decide +kernel

end Language
end Optimum
