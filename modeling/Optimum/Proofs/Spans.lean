import Mathlib.Data.List.Pairwise
import Optimum.Editor
import Optimum.Proofs.Language.Outlines
import Optimum.Proofs.Language.Scanning

namespace Optimum

open Optimum.Language

/-!
# Ranges that an editor is given

Every range that the reader of a text hands on lies in the text and ends
between characters.  In a program the ranges of the models are apart and in
order; each begins with the keyword of the model and ends with its brace.  The
statements of a linear model lie in its range, apart from each other, and the
variables in the ranges of their statements, from left to right.
-/

namespace Language

/-! ## Keywords and braces -/

theorem eq_keyword_of_nameKind {name : List Char} {kind : ModelKind}
    (same : nameKind name = kind.tokenKind) : name = kind.keyword.toList := by
  revert same
  unfold nameKind
  split_ifs <;> cases kind <;> intro same <;> first | assumption | cases same

theorem munch_keyword {alphabet : Alphabet} {c : Char} {rest : List Char} {kind : ModelKind}
    (same : (munch alphabet c rest).1 = kind.tokenKind) :
    c :: rest.take (munch alphabet c rest).2 = kind.keyword.toList := by
  revert same
  unfold munch
  split <;> (try split_ifs) <;> intro same <;> first
    | exact eq_keyword_of_nameKind same
    | (cases kind <;> cases same)

theorem munch_rightBrace {alphabet : Alphabet} {c : Char} {rest : List Char}
    (same : (munch alphabet c rest).1 = .rightBrace) :
    c :: rest.take (munch alphabet c rest).2 = ['}'] := by
  revert same
  unfold munch
  split <;> (try split_ifs) <;> intro same <;> first
    | rfl
    | exact absurd same (nameKind_ne _ (by decide))
    | cases same

variable {source : String} {token : Token}

/-- The token that opens a model of a kind is its keyword. -/
theorem text_eq_keyword (member : token ∈ tokenize source) {kind : ModelKind}
    (same : token.kind = kind.tokenKind) : token.text.toList = kind.keyword.toList := by
  have ordinary : token.kind ≠ .endOfFile := by
    rw [same]
    cases kind <;> decide
  rcases munched_of_mem member ordinary with ⟨-, c, rest, -, -, found, text⟩
  rw [text, munch_keyword (found.symm.trans same)]

theorem text_eq_brace (member : token ∈ tokenize source) (same : token.kind = .rightBrace) :
    token.text.toList = ['}'] := by
  rcases munched_of_mem member (by simp [same]) with ⟨-, c, rest, -, -, found, text⟩
  rw [text, munch_rightBrace (found.symm.trans same)]

/-! ## Ranges in their places -/

variable {α : Type}

/-- A statement has a range in that of its model, and each of its variables one
in that of the statement, where its name stands. -/
structure Statement.Placed (source : String) (outer : Span) (statement : Statement α) : Prop where
  usable : statement.span.UsableIn source
  inside : statement.span.Inside outer
  occurrences : ∀ occurrence ∈ statement.occurrences, occurrence.2.UsableIn source ∧
    occurrence.2.Inside statement.span ∧ occurrence.2.slice source = occurrence.1
  ordered : statement.occurrences.Pairwise fun earlier later => earlier.2.Before later.2

structure LinearModel.Placed (source : String) (model : LinearModel α) : Prop where
  objective : ∀ objective ∈ model.objective,
    (Statement.objective objective).Placed source model.span
  constraints : ∀ declaration ∈ model.constraints,
    (Statement.declaration declaration).Placed source model.span
  ordered : model.constraints.Pairwise fun earlier later => earlier.span.Before later.span
  apart : ∀ objective ∈ model.objective, ∀ declaration ∈ model.constraints,
    objective.span.Apart declaration.span

structure Item.Placed (source : String) (item : Item α) : Prop where
  usable : item.span.UsableIn source
  keyword : ∃ rest, item.span.slice source = item.kind.keyword ++ rest
  brace : ∃ rest, item.span.slice source = rest ++ "\x7d"
  statements : ∀ model, item = .lp model → model.Placed source

structure Program.Placed (source : String) (program : Program α) : Prop where
  items : ∀ item ∈ program.items, item.Placed source
  ordered : program.items.Pairwise fun earlier later => earlier.span.Before later.span

/-! ## From tokens to ranges -/

theorem spelled_tokenize (source : String) : Spelled 0 source.toList (tokenize source) :=
  spelled_tokenizeWith .unicode source

theorem usableIn_of_mem (member : token ∈ tokenize source) : token.span.UsableIn source := by
  have lossless := (spelled_tokenize source).lossless
  exact ⟨(lossless.within token member).1, (lossless.within token member).2,
    (lossless.boundaries token member).1, (lossless.boundaries token member).2⟩

theorem Statement.WrittenBy.placed {own outer : List Token} {statement : Statement α}
    (written : statement.WrittenBy own) (within : own <:+: outer)
    (inText : outer <:+: tokenize source) :
    statement.Placed source (spanOf outer) := by
  have lossless := (spelled_tokenize source).lossless
  have orderlyOuter : Orderly outer := lossless.orderly.sublist inText.sublist
  have orderly : Orderly own := orderlyOuter.sublist within.sublist
  rcases written.occurrences_eq with ⟨named, kept, shown⟩
  have inside : ∀ token ∈ named, token ∈ own ∧ token ∈ tokenize source := fun token member =>
    ⟨kept.subset member, inText.subset (within.subset (kept.subset member))⟩
  rcases (spelled_tokenize source).cuts_spanOf (within.trans inText) written.nonempty with
    ⟨piece, cuts, -⟩
  constructor
  · rw [written.span_eq]
    exact cuts.usableIn
  · rw [written.span_eq]
    exact orderlyOuter.inside within.subset written.nonempty
  · rw [shown, written.span_eq]
    refine List.forall_mem_map.mpr fun token member => ?_
    have single : spanOf [token] = token.span := rfl
    have inText := (inside token member).2
    refine ⟨usableIn_of_mem inText, ?_, lossless.slices token inText⟩
    rw [Token.occurrence, ← single]
    exact orderly.inside (List.cons_subset.mpr ⟨(inside token member).1, List.nil_subset own⟩)
      (List.cons_ne_nil _ _)
  · rw [shown, List.pairwise_map]
    exact (orderly.sublist kept).ordered

theorem LinearModel.placed_of_statements {own : List Token} {model : LinearModel α}
    {statements : List (Statement α)} (laidOut : LaidOut Statement.WrittenBy own statements)
    (inText : own <:+: tokenize source) (span : model.span = spanOf own)
    (objective_eq : model.objective.toList = statements.filterMap Statement.objective?)
    (constraints_eq : model.constraints = statements.filterMap Statement.declaration?) :
    model.Placed source := by
  have orderly : Orderly own :=
    (spelled_tokenize source).lossless.orderly.sublist inText.sublist
  have ordered := laidOut.pairwise_before orderly
    fun _ _ (written : Statement.WrittenBy _ _) => ⟨written.nonempty, written.span_eq⟩
  have placed : ∀ statement ∈ statements, statement.Placed source model.span := by
    intro statement member
    rcases laidOut.exists_infix statement member with ⟨tokens, within, written⟩
    rw [span]
    exact written.placed within inText
  have fromObjective : ∀ objective ∈ model.objective,
      Statement.objective objective ∈ statements := by
    intro objective present
    have listed := Option.mem_toList.mpr present
    rw [objective_eq] at listed
    rcases List.mem_filterMap.mp listed with ⟨statement, member, same⟩
    cases statement <;> cases same
    exact member
  have fromConstraint : ∀ declaration ∈ model.constraints,
      Statement.declaration declaration ∈ statements := by
    intro declaration present
    rw [constraints_eq] at present
    rcases List.mem_filterMap.mp present with ⟨statement, member, same⟩
    cases statement <;> cases same
    exact member
  refine ⟨fun objective present => placed _ (fromObjective objective present),
    fun declaration present => placed _ (fromConstraint declaration present), ?_, ?_⟩
  · rw [constraints_eq, List.pairwise_filterMap]
    refine ordered.imp fun {earlier later} before first isFirst second isSecond => ?_
    cases earlier <;> cases isFirst
    cases later <;> cases isSecond
    exact before
  · intro objective present declaration declared
    have symmetric : Std.Symm fun first second : Statement α => first.span.Apart second.span :=
      ⟨fun _ _ => Or.symm⟩
    have apart : statements.Pairwise fun first second => first.span.Apart second.span :=
      ordered.imp Or.inl
    exact apart.forall (fromObjective objective present) (fromConstraint declaration declared) nofun

theorem Item.WrittenBy.span_eq {own : List Token} {item : Item α} (written : item.WrittenBy own) :
    item.span = spanOf own := by
  rcases written.enclosed with ⟨keyword, body, brace, rfl, -, -, span⟩
  rw [span, spanOf, endAfter_append]
  rfl

theorem Item.WrittenBy.nonempty {own : List Token} {item : Item α}
    (written : item.WrittenBy own) : own ≠ [] := by
  rcases written.enclosed with ⟨keyword, body, brace, rfl, -⟩
  exact List.cons_ne_nil _ _

theorem Item.WrittenBy.placed {own : List Token} {item : Item α} (written : item.WrittenBy own)
    (inText : own <:+: tokenize source) : item.Placed source := by
  rcases (spelled_tokenize source).cuts_spanOf inText written.nonempty with
    ⟨piece, cuts, begins, ends⟩
  rcases written.enclosed with ⟨keyword, body, brace, rfl, opens, closes, -⟩
  have opening := text_eq_keyword (inText.subset List.mem_cons_self) opens
  have closing := text_eq_brace (inText.subset (by simp)) closes
  refine ⟨written.span_eq ▸ cuts.usableIn, ?_, ?_, fun model same => ?_⟩
  · rw [List.head_cons, opening] at begins
    rcases begins with ⟨rest, rfl⟩
    refine ⟨String.ofList rest, ?_⟩
    rw [written.span_eq, cuts.slice_eq, String.ofList_append, String.ofList_toList]
  · have last : (keyword :: (body ++ [brace])).getLast written.nonempty = brace := by simp
    rw [last, closing] at ends
    rcases ends with ⟨rest, rfl⟩
    refine ⟨String.ofList rest, ?_⟩
    rw [written.span_eq, cuts.slice_eq, String.ofList_append]
  · rcases written.statements model same with ⟨statements, laidOut, objective_eq, constraints_eq⟩
    refine LinearModel.placed_of_statements laidOut inText ?_ objective_eq constraints_eq
    rw [← written.span_eq, same]
    rfl

variable [NumberText α] [Neg α]

theorem placed_of_parse {program : Program α} (read : parse source = .ok program) :
    program.Placed source := by
  rcases Checks.map_eq_ok_iff.mp read with ⟨items, readAll, rfl⟩
  have laidOut : LaidOut Item.WrittenBy (tokenize source) items :=
    laidOut_of_readItems ⟨0, tokenize source⟩ items readAll
  refine ⟨fun item member => ?_, laidOut.pairwise_before (spelled_tokenize source).lossless.orderly
    fun _ _ written => ⟨written.nonempty, written.span_eq⟩⟩
  rcases laidOut.exists_infix item member with ⟨own, inText, written⟩
  exact written.placed inText

theorem usableIn_of_parse_error {fault : ParseError}
    (failed : (parse source : Except ParseError (Program α)) = .error fault) :
    ∀ span ∈ fault.span?, span.UsableIn source := by
  intro span located
  cases faultAt_of_ofTokens failed with
  | unexpectedEnd => cases located
  | unexpectedToken member | invalidNumber member | duplicateSection member
  | unknownSection member =>
      cases located
      exact usableIn_of_mem member
  | duplicateObjective inText nonempty =>
      cases located
      rcases (spelled_tokenize source).cuts_spanOf inText nonempty with ⟨piece, cuts, -⟩
      exact cuts.usableIn

end Language

/-! ## All ranges -/

namespace Editor

variable {α : Type} [Scalar α] [NumberText α]

theorem exists_item_of_mem_itemDiagnostics {seen : List String} {items : List (Item α)}
    {diagnostic : Diagnostic} (member : diagnostic ∈ itemDiagnostics seen items) :
    ∃ item ∈ items, diagnostic.span = item.span := by
  induction items generalizing seen with
  | nil => cases member
  | cons item others inductionHypothesis =>
      rcases List.mem_append.mp member with own | later
      · refine ⟨item, List.mem_cons_self, ?_⟩
        rw [Option.mem_toList, itemDiagnostic?] at own
        split at own
        · cases own
          rfl
        · split at own
          · cases own
          · cases own
            rfl
      · rcases inductionHypothesis later with ⟨other, listed, same⟩
        exact ⟨other, List.mem_cons_of_mem _ listed, same⟩

theorem usableIn_of_mem_diagnostics {source : String} {diagnostic : Diagnostic}
    (member : diagnostic ∈ diagnostics α source) : diagnostic.span.UsableIn source := by
  unfold diagnostics at member
  split at member
  · next fault failed =>
      rcases List.mem_singleton.mp member with rfl
      cases located : fault.span? with
      | none => exact Span.usableIn_whole source
      | some span => exact usableIn_of_parse_error failed span located
  · next program read =>
      rcases exists_item_of_mem_itemDiagnostics member with ⟨item, listed, same⟩
      rw [same]
      exact ((placed_of_parse read).items item listed).usable

/-- Every range that a text leads to is usable in it, and a program has its
ranges in their places.  This holds of what the reader hands on when it fails as
well, and of the diagnostics that are made from either. -/
theorem ranges_usable (source : String) :
    (∀ program : Program α, parse source = .ok program → program.Placed source) ∧
    (∀ fault, (parse source : Except ParseError (Program α)) = .error fault →
      ∀ span ∈ fault.span?, span.UsableIn source) ∧
    ∀ diagnostic ∈ diagnostics α source, diagnostic.span.UsableIn source :=
  ⟨fun _ => placed_of_parse, fun _ => usableIn_of_parse_error,
    fun _ => usableIn_of_mem_diagnostics⟩

/-- A model with two statements, and one without any.  The comment has a letter
of two bytes, so that offsets and positions differ. -/
def twoModels : String :=
  "lp a { max 2x + y /* é */; c: x ≤ 4 }\nlp b { }"

/-- A sum without its second term. -/
def unfinished : String :=
  "lp a { max x + ) }"

theorem ranges_usable_twoModels :
    (∃ program : Program Float, parse twoModels = .ok program ∧
      program.items.map Item.span = [⟨0, 40⟩, ⟨41, 49⟩] ∧ program.Placed twoModels) ∧
    (∃ fault, (parse unfinished : Except ParseError (Program Float)) = .error fault ∧
      fault.span? = some ⟨15, 16⟩ ∧ (⟨15, 16⟩ : Span).UsableIn unfinished) ∧
    ∃ diagnostic ∈ diagnostics Float twoModels,
      diagnostic.span = ⟨41, 49⟩ ∧ diagnostic.span.UsableIn twoModels := by
  have read : (parse twoModels : Except ParseError (Program Float)).map
      (fun program => program.items.map Item.span) = .ok [⟨0, 40⟩, ⟨41, 49⟩] := by decide +kernel
  have failed : (match (parse unfinished : Except ParseError (Program Float)) with
      | .ok _ => none
      | .error fault => fault.span?) = some ⟨15, 16⟩ := by decide +kernel
  have noted : (diagnostics Float twoModels).map Diagnostic.span = [⟨41, 49⟩] := by decide +kernel
  refine ⟨?_, ?_, ?_⟩
  · rcases Checks.map_eq_ok_iff.mp read with ⟨program, parsed, spans⟩
    exact ⟨program, parsed, spans, (ranges_usable twoModels).1 program parsed⟩
  · cases parsed : (parse unfinished : Except ParseError (Program Float)) with
    | ok program =>
        rw [parsed] at failed
        cases failed
    | error fault =>
        rw [parsed] at failed
        have usable := (ranges_usable (α := Float) unfinished).2.1 fault parsed
        exact ⟨fault, rfl, failed, usable _ failed⟩
  · have member : (⟨41, 49⟩ : Span) ∈ (diagnostics Float twoModels).map Diagnostic.span := by
      rw [noted]
      exact List.mem_cons_self
    rcases List.mem_map.mp member with ⟨diagnostic, listed, same⟩
    exact ⟨diagnostic, listed, same, (ranges_usable twoModels).2.2 diagnostic listed⟩

end Editor
end Optimum
