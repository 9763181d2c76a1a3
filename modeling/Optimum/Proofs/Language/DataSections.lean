import Mathlib.Data.List.Pairwise
import Mathlib.Data.List.Perm.Basic
import Optimum.Language.Reading.Models
import Optimum.Proofs.Language.DataLists

namespace Optimum
namespace Language

/-!
# Sections are read back

The sections of a model are read in whatever order they come.  Each fills a slot
of its own, so no section finds its slot filled before, and the model that they
fill is the same in every order (`foldl_fill_perm`).  What the readers of both
kinds of models share is stated once, for any kind whose sections keep to this
(`Fills`).
-/


variable {β σ : Type}

/-- What is known of the sections of a kind of models: where they go, and that a
reader takes their bodies where they may go there. -/
structure Fills (heading : σ → String) (body : σ → Language Char) (fill : β → σ → β)
    (Vacant : β → σ → Prop)
    (readSection : β → Token → (body : Cursor) → Except ParseError (Parsed β body.size)) :
    Prop where
  isName : ∀ given, IsName (heading given)
  opens : ∀ given, ∃ c ∈ ['[', '{'], ∃ language, body given = mark c * language
  takes : ∀ model given (token : Token), token.text = heading given → Vacant model given →
    Takes (body given) Anything (fun cursor => plain (readSection model token cursor))
      (fill model given)
  vacant_fill : ∀ model first second, heading first ≠ heading second → Vacant model second →
    Vacant (fill model first) second
  fill_comm : ∀ model first second, heading first ≠ heading second →
    fill (fill model first) second = fill (fill model second) first

variable {heading : σ → String} {body : σ → Language Char} {fill : β → σ → β}
  {Vacant : β → σ → Prop}
  {readSection : β → Token → (body : Cursor) → Except ParseError (Parsed β body.size)}

namespace Fills

/-- The body of a section opens with a bracket or a brace. -/
theorem avoids_body (fills : Fills heading body fill Vacant readSection) {given : σ}
    {text : List Char} (inside : text ∈ body given) (rest : List Char) :
    Parted (text ++ rest) ∧ Avoids [.colon] (text ++ rest) := by
  rcases fills.opens given with ⟨c, either, language, shown⟩
  rw [shown] at inside
  rcases mem_mark_mul.mp inside with ⟨others, -, rfl⟩
  rcases List.mem_cons.mp either with rfl | second
  · exact ⟨parted_cons (by decide) _, (lexedAs_leftBracket (others ++ rest)).avoids (by decide)⟩
  · rcases List.mem_singleton.mp second with rfl
    exact ⟨parted_cons (by decide) _, (lexedAs_leftBrace (others ++ rest)).avoids (by decide)⟩

end Fills

theorem Cursor.Faces.skipColon {cursor : Cursor} {text between chars : List Char}
    (faces : cursor.Faces (text ++ (between ++ chars))) (inside : text ∈ 1 + blanks * mark ':')
    (inGap : between ∈ gap) (avoids : Avoids [.colon] chars) :
    (cursor.skipOne .colon).Faces (between ++ chars) := by
  rcases inside with rfl | withColon
  · have here : cursor.Faces (between ++ chars) := faces
    rcases here.first_of_gap inGap avoids (by decide) (by decide) with
      ⟨token, others, shown, other⟩
    rw [skipOne_of_ne shown fun same => other (same ▸ List.mem_cons_self)]
    exact here
  · rcases Language.mem_mul.mp withColon with ⟨spaces, blank, _, rfl, rfl⟩
    rw [List.append_assoc] at faces
    have colon : LexedAs .unicode .colon [':'] (between ++ chars) := lexedAs_single (by decide) rfl
    rcases (faces.behind_blanks blank).token colon with ⟨token, others, shown, kind, -, behind⟩
    rw [skipOne_of_kind shown kind]
    exact behind

theorem parted_colon {text : List Char} (inside : text ∈ 1 + blanks * mark ':') {rest : List Char}
    (parted : Parted rest) : Parted (text ++ rest) := by
  rcases inside with rfl | withColon
  · exact parted
  · rcases Language.mem_mul.mp withColon with ⟨spaces, blank, _, rfl, rfl⟩
    cases spaces with
    | nil => exact parted_cons (by decide) _
    | cons c spaces =>
        exact parted_cons (mem_partingMarks_of_isBlank (blank c List.mem_cons_self)) _

theorem exists_readSection (fills : Fills heading body fill Vacant readSection) {model : β}
    {given : σ} (vacant : Vacant model given) {before text rest : List Char} (inGap : before ∈ gap)
    (inside : text ∈ headed (heading given) (body given)) {cursor : Cursor}
    (faces : cursor.Faces (before ++ (text ++ rest))) :
    ∃ token others next, cursor.skipBreaks.rest = token :: others ∧ token.kind = .identifier ∧
      plain (readSection model token ((Cursor.behind token others).skipOne .colon)) =
        .ok (fill model given, next) ∧ next.Faces rest := by
  rcases Language.mem_mul.mp inside with ⟨_, rfl, colonTail, inColonTail, rfl⟩
  rcases Language.mem_mul.mp inColonTail with ⟨colon, inColon, bodyTail, inBodyTail, rfl⟩
  rcases Language.mem_mul.mp inBodyTail with ⟨between, inBetween, content, inContent, rfl⟩
  simp only [List.append_assoc] at faces
  rcases fills.avoids_body inContent rest with ⟨partedBody, noColon⟩
  have word := lexedAs_isName (fills.isName given)
    (parted_colon inColon (parted_gap inBetween partedBody))
  rcases (faces.skipBreaks inGap (word.avoids (by decide))).token word with
    ⟨token, others, shown, kind, written, behind⟩
  rw [String.ofList_toList] at written
  rcases fills.takes model given token written vacant between inBetween content inContent rest
    trivial _ (behind.skipColon inColon inBetween noColon) with ⟨next, read, facing⟩
  exact ⟨token, others, next, shown, kind, read, facing⟩

/-- Sections are read in any order as long as each finds its slot vacant.  So
nothing in the reader speaks of an order. -/
theorem exists_readSections (fills : Fills heading body fill Vacant readSection) (order : List σ)
    {model : β} (distinct : order.Pairwise fun first second => heading first ≠ heading second)
    (vacant : ∀ given ∈ order, Vacant model given) {before text rest : List Char}
    (inGap : before ∈ gap)
    (inside : text ∈ inSequence (order.map fun given => headed (heading given) (body given)))
    {cursor : Cursor} (faces : cursor.Faces (before ++ (text ++ (['}'] ++ rest)))) :
    ∃ brace next, plain (readSections readSection model cursor) =
      .ok ((order.foldl fill model, brace), next) ∧ next.Faces rest := by
  induction order generalizing model before text cursor with
  | nil =>
      rcases inside with rfl
      have closes := lexedAs_rightBrace rest
      have here : cursor.Faces (before ++ (['}'] ++ rest)) := faces
      rcases (here.skipBreaks inGap (closes.avoids (by decide))).token closes with
        ⟨brace, others, shown, kind, -, behind⟩
      refine ⟨brace, .behind brace others, ?_, behind⟩
      rw [plain_readSections, shown]
      exact if_pos kind
  | cons given order inductionHypothesis =>
      rcases List.pairwise_cons.mp distinct with ⟨apart, distinctLater⟩
      rcases List.forall_mem_cons.mp vacant with ⟨free, freeLater⟩
      rcases Language.mem_mul.mp inside with ⟨own, isSection, tail, inTail, rfl⟩
      rcases Language.mem_mul.mp inTail with ⟨behindOwn, inGapBehind, later, inLater, rfl⟩
      simp only [List.append_assoc] at faces
      rcases exists_readSection fills free inGap isSection faces with
        ⟨token, others, next, shown, kind, readOwn, facing⟩
      -- The section fills no slot but its own, so the later ones stay vacant.
      have freeFilled : ∀ other ∈ order, Vacant (fill model given) other := fun other member =>
        fills.vacant_fill model given other (apart other member) (freeLater other member)
      rcases inductionHypothesis distinctLater freeFilled inGapBehind inLater facing with
        ⟨brace, last, readOthers, facingLast⟩
      refine ⟨brace, last, ?_, facingLast⟩
      rw [plain_readSections, plain_expect, shown]
      dsimp only
      rw [if_neg (by simp [kind]), if_pos kind]
      change plain (readSection model token ((Cursor.behind token others).skipOne .colon)) >>= _ = _
      rw [readOwn]
      exact readOthers

/-- Sections with slots of their own fill the same model in any order.  To fill
two of them commutes, and so any permutation does. -/
theorem foldl_fill_perm (fills : Fills heading body fill Vacant readSection)
    {order sections : List σ} (permuted : order.Perm sections)
    (distinct : order.Pairwise fun first second => heading first ≠ heading second) (model : β) :
    order.foldl fill model = sections.foldl fill model := by
  refine permuted.foldl_eq' (fun first inOrder second inOrderToo model => ?_) model
  by_cases same : first = second
  · rw [same]
  · have symmetric : Std.Symm fun first second : σ => heading first ≠ heading second :=
      ⟨fun _ _ => Ne.symm⟩
    exact fills.fill_comm model first second (distinct.forall inOrder inOrderToo same)

/-! ## Models -/

/-- The keyword, the name and the opening brace of a model are read. -/
theorem Cursor.Faces.readOpening {cursor : Cursor} {kind : TokenKind}
    {keyword apart between rest : List Char} {name : String}
    (faces : cursor.Faces (keyword ++ (apart ++ (name.toList ++ (between ++ (['{'] ++ rest))))))
    (opens : ∀ rest, Parted rest → LexedAs .unicode kind keyword rest)
    (solid : kind ∉ Cursor.breakKinds) (inSpace : apart ∈ space) (isName : IsName name)
    (inGap : between ∈ gap) :
    ∃ span next, plain (readOpening kind cursor) = .ok ((span, name), next) ∧ next.Faces rest := by
  have keywordLexed := opens _ (parted_of_ne_nil inSpace.2 inSpace.1
    (name.toList ++ (between ++ (['{'] ++ rest))))
  have nameLexed := lexedAs_isName isName
    (parted_gap inGap (parted_cons (c := '{') (by decide) rest))
  have here : cursor.Faces ([] ++ (keyword ++ _)) := faces
  rcases here.expect .empty keywordLexed solid with ⟨opened, first, readKeyword, -, behindKeyword⟩
  rcases behindKeyword.expect inSpace.2 nameLexed (by decide) with
    ⟨named, second, readName, written, behindName⟩
  rcases behindName.expect inGap (lexedAs_leftBrace rest) (by decide) with
    ⟨brace, third, readBrace, -, behindBrace⟩
  refine ⟨opened.span, third, ?_, behindBrace⟩
  rw [String.ofList_toList] at written
  rw [plain_readOpening, readKeyword]
  change (plain (first.expect .identifier) >>= _) = _
  rw [readName]
  change (plain (second.expect .leftBrace) >>= _) = _
  rw [readBrace, written]
  rfl

/-- A text of a model is read to its end, whatever the order of its sections.
The slots are vacant at first, and each section fills its own. -/
theorem exists_readModel (fills : Fills heading body fill Vacant readSection) {kind : TokenKind}
    {keyword name : String}
    (opens : ∀ rest, Parted rest → LexedAs .unicode kind keyword.toList rest)
    (solid : kind ∉ Cursor.breakKinds) (isName : IsName name) {order sections : List σ}
    (permuted : order.Perm sections) (distinct : (sections.map heading).Nodup)
    (start : Span → β) (vacant : ∀ span given, Vacant (start span) given) {text : List Char}
    (inside : text ∈ modelText keyword name
      (order.map fun given => headed (heading given) (body given)))
    {cursor : Cursor} (faces : cursor.Faces text) :
    cursor.skipBreaks.kind = kind ∧ ∃ span opened brace next,
      plain (readOpening kind cursor.skipBreaks) = .ok ((span, name), opened) ∧
      plain (readSections readSection (start span) opened) =
        .ok ((sections.foldl fill (start span), brace), next) ∧
      next.skipBreaks.kind = .endOfFile := by
  have apart : order.Pairwise fun first second => heading first ≠ heading second :=
    List.pairwise_map.mp ((permuted.map heading).nodup_iff.mpr distinct)
  rcases Language.mem_mul.mp inside with ⟨before, inBefore, _, inKeyword, rfl⟩
  rcases Language.mem_mul.mp inKeyword with ⟨_, rfl, _, inSpace, rfl⟩
  rcases Language.mem_mul.mp inSpace with ⟨apartName, isSpace, _, inName, rfl⟩
  rcases Language.mem_mul.mp inName with ⟨_, rfl, _, inBetween, rfl⟩
  rcases Language.mem_mul.mp inBetween with ⟨between, isGap, _, inBraces, rfl⟩
  rcases mem_mark_mul.mp inBraces with ⟨_, inBody, rfl⟩
  rcases Language.mem_mul.mp inBody with ⟨ahead, isGapAhead, _, inSections, rfl⟩
  rcases Language.mem_mul.mp inSections with ⟨written, areSections, _, inClosing, rfl⟩
  rcases mem_mark_mul.mp inClosing with ⟨behind, isGapBehind, rfl⟩
  have keywordLexed := opens _ (parted_of_ne_nil isSpace.2 isSpace.1
    (name.toList ++ (between ++ (['{'] ++ (ahead ++ (written ++ (['}'] ++ behind)))))))
  have here := faces.skipBreaks inBefore (keywordLexed.avoids solid)
  rcases here.token keywordLexed with ⟨token, others, shown, found, -, -⟩
  rcases here.readOpening opens solid isSpace isName isGap with
    ⟨span, opened, readKeyword, facing⟩
  rcases exists_readSections fills order apart (fun given _ => vacant span given) isGapAhead
    areSections facing with ⟨brace, next, readAll, ended⟩
  refine ⟨?_, span, opened, brace, next, readKeyword, ?_, ended.skipBreaks_kind isGapBehind⟩
  · rw [Cursor.kind, shown]
    exact found
  · rw [readAll, foldl_fill_perm fills permuted apart]

theorem parse_of_readItem {α : Type} [NumberText α] [Neg α] {source : String} {item : Item α}
    {cursor next : Cursor} (all : cursor = ⟨0, tokenize source⟩)
    (solid : cursor.skipBreaks.kind ≠ .endOfFile)
    (read : plain (readItem cursor.skipBreaks) = .ok (item, next))
    (ended : next.skipBreaks.kind = .endOfFile) : parse source = .ok ⟨[item]⟩ := by
  rw [parse, Program.ofTokens, ← all, readItems_eq, if_neg solid, read]
  change (readItems next >>= fun others => Except.ok (item :: others)).map Program.mk = _
  rw [readItems_eq, if_pos ended]
  rfl

end Language
end Optimum
