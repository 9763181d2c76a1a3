import Optimum.Proofs.Language.Scanning
import Optimum.Proofs.Language.Written

namespace Optimum
namespace Language

open Checks

/-!
# Line ends and semicolons inside statements

A statement goes on behind an operator that awaits its right operand, behind an
opening parenthesis and before a closing one.  Every line end and every
semicolon in the span of a statement stands at such a place
(`continues_of_parse`); at any other place it is outside of all statements.

Semicolons are no exception: one that stands where a statement goes on is passed
over like a line end and ends nothing.  Only where no semicolon of the text
stands so do all of them end statements.

Comments are left out of the tokens on either side of a place, so what stands
behind another token may have comments before it.
-/

/-! ## Where a statement goes on -/

/-- The tokens that complete an operand. -/
def completesOperand : TokenKind → Bool
  | .number => true
  | .identifier => true
  | .rightParen => true
  | _ => false

/-- The last of some tokens completes an operand.  A sign behind it then has two
operands. -/
inductive EndsOperand : List Token → Prop
  | last {token : Token} (completes : completesOperand token.kind = true) : EndsOperand [token]
  | cons {token : Token} {tokens : List Token} (ends : EndsOperand tokens) :
      EndsOperand (token :: tokens)

/-- An operator with two operands: the mark of a product, or a sign behind an
operand.  Behind anything else a sign belongs to the operand that it opens, and
no break may stand between them. -/
inductive Joins : List Token → Token → Prop
  | mark {before : List Token} {token : Token} {operator : Operator}
      (marked : productOperator? token.kind = some operator) : Joins before token
  | sign {before : List Token} {token : Token} {operator : Operator} (ends : EndsOperand before)
      (signed : sumOperator? token.kind = some operator) : Joins before token

/-- A statement goes on between tokens that stand before a place and after it.
Some kinds of tokens are passed over on the way to what makes it go on. -/
inductive Continues (passed : Token → Prop) : List Token → List Token → Prop
  | operator {front gap after : List Token} {token : Token} (joins : Joins front token)
      (apart : ∀ token ∈ gap, passed token) : Continues passed (front ++ token :: gap) after
  | opening {front gap after : List Token} {token : Token} (leftParen : token.kind = .leftParen)
      (apart : ∀ token ∈ gap, passed token) : Continues passed (front ++ token :: gap) after
  | closing {before gap back : List Token} {token : Token}
      (apart : ∀ token ∈ gap, passed token) (rightParen : token.kind = .rightParen) :
      Continues passed before (gap ++ token :: back)

theorem EndsOperand.prepend (front : List Token) {tokens : List Token}
    (ends : EndsOperand tokens) : EndsOperand (front ++ tokens) := by
  induction front with
  | nil => exact ends
  | cons token rest inductionHypothesis => exact .cons inductionHypothesis

theorem Joins.prepend (front : List Token) {before : List Token} {token : Token}
    (joins : Joins before token) : Joins (front ++ before) token := by
  cases joins with
  | mark marked => exact .mark marked
  | sign ends signed => exact .sign (ends.prepend front) signed

theorem Joins.not_break {before : List Token} {token : Token} (joins : Joins before token) :
    ¬ IsBreak token := by
  rintro (kind | kind) <;> cases joins with
  | mark marked => rw [kind] at marked; cases marked
  | sign _ signed => rw [kind] at signed; cases signed

theorem Continues.widen {passed : Token → Prop} {before after : List Token}
    (continues : Continues passed before after) (front back : List Token) :
    Continues passed (front ++ before) (after ++ back) := by
  cases continues with
  | operator joins apart =>
      rw [← List.append_assoc]
      exact .operator (joins.prepend front) apart
  | opening leftParen apart =>
      rw [← List.append_assoc]
      exact .opening leftParen apart
  | closing apart rightParen =>
      rw [List.append_assoc, List.cons_append]
      exact .closing apart rightParen

/-! ## Breaks of a derivation -/

/-- Each line end and semicolon of some tokens stands where a statement goes
on, if other tokens stand before and after them. -/
def BreaksContinue (front tokens back : List Token) : Prop :=
  ∀ before token after, tokens = before ++ token :: after → IsBreak token →
    Continues IsBreak (front ++ before) (after ++ back)

namespace BreaksContinue

variable {front tokens others back : List Token}

theorem anywhere (continues : BreaksContinue [] tokens []) : BreaksContinue front tokens back := by
  intro before token after spelled isBreak
  have alone := continues before token after spelled isBreak
  rw [List.nil_append, List.append_nil] at alone
  exact alone.widen front back

theorem append (first : BreaksContinue front tokens (others ++ back))
    (second : BreaksContinue (front ++ tokens) others back) :
    BreaksContinue front (tokens ++ others) back := by
  intro before token after spelled isBreak
  rcases List.append_eq_append_iff.mp spelled with ⟨later, rfl, rest⟩ | ⟨later, rest, same⟩
  · rw [← List.append_assoc]
    exact second later token after rest isBreak
  · rcases later with _ | ⟨next, later⟩
    · rw [List.append_nil] at rest
      subst rest
      have continues := second [] token after same.symm isBreak
      rwa [List.append_nil] at continues
    · rw [List.cons_append] at same
      obtain ⟨rfl, rfl⟩ := List.cons.inj same
      rw [List.append_assoc]
      exact first before token later rest isBreak

theorem of_none (ordinary : ∀ token ∈ tokens, ¬ IsBreak token) :
    BreaksContinue front tokens back := by
  rintro before token after rfl isBreak
  exact absurd isBreak (ordinary token (by simp))

theorem cons {token : Token} (ordinary : ¬ IsBreak token)
    (rest : BreaksContinue (front ++ [token]) tokens back) :
    BreaksContinue front (token :: tokens) back :=
  append (of_none (List.forall_mem_singleton.mpr ordinary)) rest

/-- Only breaks stand behind an operator or an opening parenthesis. -/
theorem behind {token : Token} {breaks : List Token} (apart : ∀ token ∈ breaks, IsBreak token)
    (goesOn : ∀ gap after, (∀ token ∈ gap, IsBreak token) →
      Continues IsBreak (front ++ token :: gap) after) :
    BreaksContinue (front ++ [token]) breaks back := by
  rintro before other after rfl -
  have gap := goesOn before (after ++ back) fun token member =>
    apart token (List.mem_append_left _ member)
  rwa [← List.append_cons]

theorem operator {mark : Token} {breaks : List Token} (joins : Joins tokens mark)
    (first : BreaksContinue [] tokens []) (apart : ∀ token ∈ breaks, IsBreak token)
    (last : BreaksContinue [] others []) :
    BreaksContinue [] (tokens ++ mark :: (breaks ++ others)) [] :=
  append first.anywhere (cons joins.not_break
    (append (behind apart fun _ _ only => .operator joins only) last.anywhere))

/-- A pair of parentheses with breaks on the inner sides. -/
theorem parenthesized {opening closing : Token} {breaks later : List Token}
    (leftParen : opening.kind = .leftParen) (apart : ∀ token ∈ breaks, IsBreak token)
    (inner : BreaksContinue [] tokens []) (apartAfter : ∀ token ∈ later, IsBreak token)
    (rightParen : closing.kind = .rightParen) :
    BreaksContinue [] (opening :: (breaks ++ (tokens ++ (later ++ [closing])))) [] := by
  have opens : ¬ IsBreak opening := by simp [IsBreak, leftParen]
  have closes : ¬ IsBreak closing := by simp [IsBreak, rightParen]
  have before : BreaksContinue ([] ++ [opening] ++ breaks ++ tokens) later ([closing] ++ []) := by
    rintro gap token rest rfl -
    exact .closing (fun token member => apartAfter token (by simp [member])) rightParen
  exact cons opens (append (behind apart fun _ _ only => .opening leftParen only)
    (append inner.anywhere (append before (of_none (List.forall_mem_singleton.mpr closes)))))

end BreaksContinue

variable {α : Type} [NumberText α]

/-- Tokens whose breaks stand where they go on and that end with an operand.
The end is part of the invariant, since it decides how a sign behind it is
read. -/
structure GoesOn (tokens : List Token) : Prop where
  breaks : BreaksContinue [] tokens []
  ends : EndsOperand tokens

theorem GoesOn.one {token : Token} (completes : completesOperand token.kind = true) :
    GoesOn [token] where
  breaks := by
    refine .of_none (List.forall_mem_singleton.mpr ?_)
    rintro (kind | kind) <;> rw [kind] at completes <;> cases completes
  ends := .last completes

theorem goesOn_of_isSum {tokens : List Token} {tree : Expression α}
    (derived : IsSum tokens tree) : GoesOn tokens := by
  refine @derivation_induction α _ (fun tokens _ => GoesOn tokens) (fun tokens _ => GoesOn tokens)
    (fun tokens _ => GoesOn tokens) (fun tokens _ => GoesOn tokens) ?onlyProduct ?term ?onlyUnary
    ?factor ?juxtaposed ?negated ?signed ?onlyPrimary ?number ?name ?parenthesized _ _ derived
  case onlyProduct => exact fun _ goesOn => goesOn
  case term =>
    intro tokens breaks others sign left operator right signed _ before apart _ last
    exact ⟨.operator (.sign before.ends signed) before.breaks apart last.breaks,
      (last.ends.prepend (sign :: breaks)).prepend tokens⟩
  case onlyUnary => exact fun _ goesOn => goesOn
  case factor =>
    intro tokens breaks others mark left operator right marked _ before apart _ last
    exact ⟨.operator (.mark marked) before.breaks apart last.breaks,
      (last.ends.prepend (mark :: breaks)).prepend tokens⟩
  case juxtaposed =>
    intro tokens others left right _ before _ last
    exact ⟨.append before.breaks.anywhere last.breaks.anywhere, last.ends.prepend tokens⟩
  case negated =>
    intro sign tokens tree minus _ inner
    exact ⟨.cons (by simp [IsBreak, minus]) inner.breaks.anywhere, .cons inner.ends⟩
  case signed =>
    intro sign tokens tree plus _ inner
    exact ⟨.cons (by simp [IsBreak, plus]) inner.breaks.anywhere, .cons inner.ends⟩
  case onlyPrimary => exact fun _ goesOn => goesOn
  case number => exact fun literal _ => .one (by rw [literal]; rfl)
  case name => exact fun named => .one (by rw [named]; rfl)
  case parenthesized =>
    intro opening closing breaks tokens others tree leftParen apart _ inner apartAfter rightParen
    have last : EndsOperand [closing] := .last (by rw [rightParen]; rfl)
    exact ⟨.parenthesized leftParen apart inner.breaks apartAfter rightParen,
      ((last.prepend others).prepend tokens).prepend (opening :: breaks)⟩

theorem breaksContinue_of_isObjective {tokens : List Token} {objective : Objective α}
    (derived : IsObjective tokens objective) : BreaksContinue [] tokens [] := by
  cases derived with
  | intro opens body =>
      refine .cons ?_ (goesOn_of_isSum body).breaks.anywhere
      rintro (kind | kind) <;> rw [kind] at opens <;> cases opens

theorem breaksContinue_of_isDeclaration {tokens : List Token} {declaration : Declaration α}
    (derived : IsDeclaration tokens declaration) : BreaksContinue [] tokens [] := by
  cases derived with
  | @intro label left right mark _ labelled before compares after =>
      have labels : ∀ token ∈ label, ¬ IsBreak token := by
        generalize declaration.label = name at labelled
        cases labelled with
        | absent => exact nofun
        | given named mark => simp [IsBreak, named, mark]
      have relates : ¬ IsBreak mark := by
        rintro (kind | kind) <;> rw [kind] at compares <;> cases compares
      exact .append (.of_none labels) (.append (goesOn_of_isSum before).breaks.anywhere
        (.cons relates (goesOn_of_isSum after).breaks.anywhere))

/-! ## Breaks in a span -/

section Parts

variable {β : Type} {own before after : List β} {value : β}

theorem split_behind {ahead : List β} (absent : value ∉ ahead)
    (written : ahead ++ own = before ++ value :: after) :
    ∃ earlier, before = ahead ++ earlier ∧ own = earlier ++ value :: after := by
  induction ahead generalizing before with
  | nil => exact ⟨before, rfl, written⟩
  | cons first ahead inductionHypothesis =>
      rcases before with _ | ⟨_, before⟩
      · obtain ⟨rfl, -⟩ := List.cons.inj written
        exact absurd List.mem_cons_self absent
      · obtain ⟨rfl, rest⟩ := List.cons.inj written
        rcases inductionHypothesis (fun member => absent (List.mem_cons_of_mem _ member)) rest with
            ⟨earlier, rfl, inside⟩
        exact ⟨earlier, rfl, inside⟩

theorem split_before {behind : List β} (absent : value ∉ behind)
    (written : own ++ behind = before ++ value :: after) :
    ∃ later, own = before ++ value :: later ∧ after = later ++ behind := by
  induction own generalizing before with
  | nil =>
      rw [List.nil_append] at written
      exact absurd (written ▸ List.mem_append_right _ List.mem_cons_self) absent
  | cons first own inductionHypothesis =>
      rcases before with _ | ⟨_, before⟩
      · obtain ⟨rfl, rfl⟩ := List.cons.inj written
        exact ⟨own, rfl, rfl⟩
      · obtain ⟨rfl, rest⟩ := List.cons.inj written
        rcases inductionHypothesis rest with ⟨later, rfl, rfl⟩
        exact ⟨later, rfl, rfl⟩

end Parts

theorem stop_spanOf_concat (front : List Token) (last : Token) :
    (spanOf (front ++ [last])).stop = last.span.stop := by
  rcases front with _ | ⟨first, front⟩
  · rfl
  · exact endAfter_append first.span.stop front [last]

/-- A token of a text that lies in the span of some tokens is one of them.
Spans are told apart by offsets, and tokens come in their order. -/
theorem among_of_within {ahead own behind before after : List Token} {token : Token}
    (ordered : (ahead ++ (own ++ behind)).Pairwise fun earlier later =>
      earlier.span.stop ≤ later.span.start)
    (written : ahead ++ (own ++ behind) = before ++ token :: after)
    (nonempty : own ≠ []) (solid : token.span.start < token.span.stop)
    (begins : (spanOf own).start ≤ token.span.start) (ends : token.span.stop ≤ (spanOf own).stop) :
    ∃ earlier later, own = earlier ++ token :: later ∧ before = ahead ++ earlier ∧
      after = later ++ behind := by
  -- Nothing ahead ends behind the start of the span, and nothing behind begins before its end.
  rcases List.pairwise_append.mp ordered with ⟨-, inner, fromAhead⟩
  rcases List.pairwise_append.mp inner with ⟨-, -, toBehind⟩
  have notAhead : token ∉ ahead := by
    intro member
    rcases List.exists_cons_of_ne_nil nonempty with ⟨first, rest, rfl⟩
    have apart : token.span.stop ≤ first.span.start := fromAhead token member first (by simp)
    have start : (spanOf (first :: rest)).start = first.span.start := rfl
    omega
  have notBehind : token ∉ behind := by
    intro member
    rcases List.eq_nil_or_concat' own with rfl | ⟨front, last, rfl⟩
    · exact nonempty rfl
    · have apart : last.span.stop ≤ token.span.start := toBehind last (by simp) token member
      rw [stop_spanOf_concat] at ends
      omega
  rcases split_behind notAhead written with ⟨earlier, rfl, inside⟩
  rcases split_before notBehind inside with ⟨later, rfl, rfl⟩
  exact ⟨earlier, later, rfl, rfl, rfl⟩

theorem Lossless.solid {source : String} {tokens : List Token} (lossless : Lossless source tokens)
    {token : Token} (member : token ∈ tokens) (ordinary : token.kind ≠ .endOfFile) :
    token.span.start < token.span.stop := by
  rcases lossless.closed with ⟨proper, rfl, own⟩
  rcases List.mem_append.mp member with inside | last
  · exact (own token inside).2.2
  · rcases List.mem_singleton.mp last with rfl
    exact absurd rfl ordinary

/-- A break in the span of what tokens of a text write stands where that goes
on.  The form of the tokens says so of the breaks among them. -/
theorem WrittenIn.continues {β : Type} {form : List Token → β → Prop} {source : String}
    {value : β} {span : Span} {before after : List Token} {token : Token}
    (statement : WrittenIn form (tokenize source) value span)
    (nonempty : ∀ {own}, form own value → own ≠ [])
    (breaks : ∀ {own}, form own value → BreaksContinue [] own [])
    (written : tokenize source = before ++ token :: after) (isBreak : IsBreak token)
    (begins : span.start ≤ token.span.start) (ends : token.span.stop ≤ span.stop) :
    Continues IsBreak (withoutComments before) (withoutComments after) := by
  rcases statement with ⟨own, ⟨ahead, behind, whole⟩, derived, rfl⟩
  have lossless : Lossless source (tokenize source) :=
    (spelled_tokenizeWith .unicode source).lossless
  have member : token ∈ tokenize source := by simp [written]
  have ordinary : token.kind ≠ .endOfFile ∧ token.kind ≠ .comment := by
    rcases isBreak with kind | kind <;> simp [kind]
  rw [List.append_assoc] at whole
  rcases among_of_within (whole ▸ lossless.ordered) (whole.trans written)
      (fun empty => nonempty derived (congrArg withoutComments empty))
      (lossless.solid member ordinary.1) begins ends with ⟨earlier, later, rfl, rfl, rfl⟩
  have alone := breaks derived (withoutComments earlier) token (withoutComments later)
    (by rw [withoutComments_append, withoutComments_cons ordinary.2]) isBreak
  rw [List.nil_append, List.append_nil] at alone
  rw [withoutComments_append, withoutComments_append]
  exact alone.widen _ _

/-- The spans of the objective and the constraints of a linear model. -/
def Item.statementSpans : Item α → List Span
  | .lp model =>
    (model.objective.map Objective.span).toList ++ model.constraints.map Declaration.span
  | _ => []

/-- The spans of all objectives and constraints. -/
def Program.statementSpans (program : Program α) : List Span :=
  program.items.flatMap Item.statementSpans

/-- A line end or semicolon in the span of a statement stands where the
statement goes on. -/
theorem continues_of_parse [Neg α] {source : String} {program : Program α}
    (read : parse source = .ok program) {span : Span} (statement : span ∈ program.statementSpans)
    {before after : List Token} {token : Token}
    (written : tokenize source = before ++ token :: after) (isBreak : IsBreak token)
    (begins : span.start ≤ token.span.start) (ends : token.span.stop ≤ span.stop) :
    Continues IsBreak (withoutComments before) (withoutComments after) := by
  rcases List.mem_flatMap.mp statement with ⟨item, member, inside⟩
  have derived := written_of_parse read item member
  cases item with
  | lp model =>
      simp only [Item.statementSpans, List.mem_append, Option.mem_toList, Option.map_eq_some_iff,
        List.mem_map] at inside
      rcases inside with ⟨objective, given, rfl⟩ | ⟨declaration, given, rfl⟩
      · exact (LinearModel.WrittenIn.objective derived objective given).continues
          IsObjective.ne_nil breaksContinue_of_isObjective written isBreak begins ends
      · exact (LinearModel.WrittenIn.constraints derived declaration given).continues
          IsDeclaration.ne_nil breaksContinue_of_isDeclaration written isBreak begins ends
  | assignment model => cases inside
  | transport model => cases inside

/-! ## Semicolons -/

/-- No semicolon of a text stands where a statement goes on.  Such a text has no
semicolon but at the ends of its statements. -/
def SemicolonsEnd (source : String) : Prop :=
  ∀ before token after, tokenize source = before ++ token :: after → token.kind = .semicolon →
    ¬ Continues IsBreak (withoutComments before) (withoutComments after)

theorem exists_of_withoutComments {tokens front back : List Token} {token : Token}
    (spelled : withoutComments tokens = front ++ token :: back) :
    ∃ earlier later, tokens = earlier ++ token :: later ∧ withoutComments earlier = front ∧
      withoutComments later = back := by
  rcases List.filter_eq_append_iff.mp spelled with ⟨earlier, rest, rfl, first, second⟩
  rcases List.filter_eq_cons_iff.mp second with ⟨comments, later, rfl, passed, -, behind⟩
  refine ⟨earlier ++ comments, later, by rw [List.append_assoc], ?_, behind⟩
  have none : withoutComments comments = [] := List.filter_eq_nil_iff.mpr passed
  rw [withoutComments_append, none, List.append_nil]
  exact first

namespace SemicolonsEnd

variable {source : String} {before after front gap back : List Token}

/-- Only line ends stand behind what makes a statement go on. -/
theorem newlines_behind (semicolonsEnd : SemicolonsEnd source)
    (written : tokenize source = before ++ after) (spelled : withoutComments before = front ++ gap)
    (apart : ∀ token ∈ gap, IsBreak token)
    (goesOn : ∀ less rest, (∀ token ∈ less, IsBreak token) → Continues IsBreak (front ++ less) rest) :
    ∀ token ∈ gap, token.kind = .newline := by
  intro token member
  refine (apart token member).resolve_right fun semicolon => ?_
  -- A semicolon in the gap would itself stand where the statement goes on.
  rcases List.append_of_mem member with ⟨less, others, rfl⟩
  rw [← List.append_assoc] at spelled
  rcases exists_of_withoutComments spelled with ⟨earlier, later, rfl, shown, -⟩
  rw [List.append_assoc] at written
  refine semicolonsEnd earlier token (later ++ after) written semicolon ?_
  rw [shown]
  exact goesOn less _ fun other inside => apart other (List.mem_append_left _ inside)

/-- Only line ends stand before what makes a statement go on. -/
theorem newlines_before (semicolonsEnd : SemicolonsEnd source)
    (written : tokenize source = before ++ after) (spelled : withoutComments after = gap ++ back)
    (apart : ∀ token ∈ gap, IsBreak token)
    (goesOn : ∀ less rest, (∀ token ∈ less, IsBreak token) → Continues IsBreak rest (less ++ back)) :
    ∀ token ∈ gap, token.kind = .newline := by
  intro token member
  refine (apart token member).resolve_right fun semicolon => ?_
  rcases List.append_of_mem member with ⟨others, less, rfl⟩
  rw [List.append_assoc, List.cons_append] at spelled
  rcases exists_of_withoutComments spelled with ⟨earlier, later, rfl, -, shown⟩
  rw [← List.append_assoc] at written
  refine semicolonsEnd (before ++ earlier) token later written semicolon ?_
  rw [shown]
  exact goesOn less _ fun other inside =>
    apart other (List.mem_append_right _ (List.mem_cons_of_mem _ inside))

/-- If all semicolons end statements, statements go on over line ends only.
Each break before or behind the place would otherwise be such a semicolon. -/
theorem over_newlines (semicolonsEnd : SemicolonsEnd source) {token : Token}
    (written : tokenize source = before ++ token :: after)
    (continues : Continues IsBreak (withoutComments before) (withoutComments after)) :
    Continues (fun other => other.kind = .newline) (withoutComments before)
      (withoutComments after) := by
  generalize shown : withoutComments before = bare at continues ⊢
  generalize shownAfter : withoutComments after = bareAfter at continues ⊢
  cases continues with
  | operator joins apart =>
      rw [List.append_cons] at shown
      refine .operator joins (semicolonsEnd.newlines_behind written shown apart ?_)
      intro less rest only
      rw [← List.append_cons]
      exact .operator joins only
  | opening leftParen apart =>
      rw [List.append_cons] at shown
      refine .opening leftParen (semicolonsEnd.newlines_behind written shown apart ?_)
      intro less rest only
      rw [← List.append_cons]
      exact .opening leftParen only
  | closing apart rightParen =>
      rw [List.append_cons] at written
      refine .closing (semicolonsEnd.newlines_before written shownAfter apart ?_) rightParen
      exact fun less rest only => .closing only rightParen

end SemicolonsEnd

/-- Whatever line end or semicolon lies in the span of a statement stands where
the statement goes on: behind an operator with two operands or an opening
parenthesis, or before a closing one.  If no semicolon of the text stands at
such a place, then no span of a statement holds one, and the line ends in such
a span follow or precede what makes the statement go on with nothing but line
ends and comments between them. -/
theorem breaks_within_statements [Neg α] {source : String} {program : Program α}
    (read : parse source = .ok program) {span : Span} (statement : span ∈ program.statementSpans)
    {before after : List Token} {token : Token}
    (written : tokenize source = before ++ token :: after)
    (begins : span.start ≤ token.span.start) (ends : token.span.stop ≤ span.stop) :
    (IsBreak token →
      Continues IsBreak (withoutComments before) (withoutComments after)) ∧
    (SemicolonsEnd source → token.kind ≠ .semicolon ∧
      (token.kind = .newline → Continues (fun other => other.kind = .newline)
        (withoutComments before) (withoutComments after))) := by
  have continues : IsBreak token →
      Continues IsBreak (withoutComments before) (withoutComments after) :=
    fun isBreak => continues_of_parse read statement written isBreak begins ends
  refine ⟨continues, fun semicolonsEnd => ⟨?_, ?_⟩⟩
  · intro semicolon
    exact semicolonsEnd before token after written semicolon (continues (.inr semicolon))
  · intro newline
    exact semicolonsEnd.over_newlines written (continues (.inl newline))

/-- An objective whose sum goes on behind a comment and a line end. -/
def wrappedSum : String :=
  "lp m \x7b max x1 + // rest\n x2\n\x7d"

theorem breaks_within_statements_wrappedSum :
    ∃ program : Program Float, parse wrappedSum = .ok program ∧
      ⟨7, 27⟩ ∈ program.statementSpans ∧
      ∃ before after, tokenize wrappedSum = before ++ ⟨.newline, ⟨23, 24⟩, "\n"⟩ :: after ∧
        SemicolonsEnd wrappedSum ∧
        Continues (fun other => other.kind = .newline) (withoutComments before)
          (withoutComments after) := by
  have spans : (parse (α := Float) wrappedSum).map Program.statementSpans = .ok [⟨7, 27⟩] := by
    decide +kernel
  rcases map_eq_ok_iff.mp spans with ⟨program, read, same⟩
  have statement : (⟨7, 27⟩ : Span) ∈ program.statementSpans := by simp [same]
  have written : tokenize wrappedSum = (tokenize wrappedSum).take 7 ++
      ⟨.newline, ⟨23, 24⟩, "\n"⟩ :: (tokenize wrappedSum).drop 8 := by
    decide +kernel
  have semicolonsEnd : SemicolonsEnd wrappedSum := by
    have none : ∀ token ∈ tokenize wrappedSum, token.kind ≠ .semicolon := by decide +kernel
    intro before token after spelled semicolon
    exact absurd semicolon (none token (by simp [spelled]))
  exact ⟨program, read, statement, _, _, written, semicolonsEnd,
    ((breaks_within_statements read statement written (by decide) (by decide)).2
      semicolonsEnd).2 rfl⟩

/-- A semicolon behind an operator is passed over and lies in the span of the
objective that goes on behind it. -/
theorem semicolon_within_objective :
    ∃ program : Program Float, parse "lp m { max x1 + ; x2 }" = .ok program ∧
      ∃ span ∈ program.statementSpans, ∃ token ∈ tokenize "lp m { max x1 + ; x2 }",
        token.kind = .semicolon ∧ span.start < token.span.start ∧ token.span.stop < span.stop := by
  have spans : (parse (α := Float) "lp m { max x1 + ; x2 }").map Program.statementSpans =
      .ok [⟨7, 20⟩] := by
    decide +kernel
  rcases map_eq_ok_iff.mp spans with ⟨program, read, same⟩
  refine ⟨program, read, ⟨7, 20⟩, by simp [same], ⟨.semicolon, ⟨16, 17⟩, ";"⟩, ?_⟩
  decide +kernel

end Language
end Optimum
