import Optimum.Proofs.Language.Faults
import Optimum.Proofs.Language.Places

namespace Optimum
namespace Language

open Checks

/-!
# Outlines of programs

The models of a program are written one after another in its tokens, and the
statements of a linear model one after another between its braces.  The
variables of a statement are identifiers among its tokens, in their order.
-/

variable {α : Type}

/-! ## Variables -/

/-- The variables of an expression with their ranges, from left to right. -/
def Expression.occurrences : Expression α → List (String × Span)
  | .number _ => []
  | .variable name span => [(name, span)]
  | .negate inner => inner.occurrences
  | .binary left _ right => left.occurrences ++ right.occurrences
  | .parenthesized inner => inner.occurrences

/-- The identifiers among some tokens. -/
def identifiers (tokens : List Token) : List Token :=
  tokens.filter fun token => token.kind = .identifier

/-- The name and the range that a token gives a variable. -/
def Token.occurrence (token : Token) : String × Span :=
  (token.text, token.span)

theorem identifiers_append (first second : List Token) :
    identifiers (first ++ second) = identifiers first ++ identifiers second :=
  List.filter_append first second

theorem identifiers_cons {token : Token} {tokens : List Token} (other : token.kind ≠ .identifier) :
    identifiers (token :: tokens) = identifiers tokens :=
  List.filter_cons_of_neg (by simp [other])

theorem identifiers_breaks {breaks : List Token} (apart : ∀ token ∈ breaks, IsBreak token) :
    identifiers breaks = [] := by
  refine List.filter_eq_nil_iff.mpr fun token member named => ?_
  rcases apart token member with newline | semicolon
  · simp [newline] at named
  · simp [semicolon] at named

/-- The variables of a tree are the identifiers among some tokens. -/
def Lists (tokens : List Token) (tree : Expression α) : Prop :=
  tree.occurrences = (identifiers tokens).map Token.occurrence

namespace Lists

variable {tokens others : List Token} {left right tree : Expression α}

theorem append (first : Lists tokens left) (second : Lists others right) (operator : Operator) :
    Lists (tokens ++ others) (.binary left operator right) := by
  rw [Lists, Expression.occurrences, first, second, identifiers_append, List.map_append]

theorem cons (lists : Lists tokens tree) {token : Token} (other : token.kind ≠ .identifier) :
    Lists (token :: tokens) tree := by
  rwa [Lists, identifiers_cons other]

theorem behind (lists : Lists tokens tree) (absent : identifiers others = []) :
    Lists (others ++ tokens) tree := by
  rwa [Lists, identifiers_append, absent]

theorem before (lists : Lists tokens tree) (absent : identifiers others = []) :
    Lists (tokens ++ others) tree := by
  rwa [Lists, identifiers_append, absent, List.append_nil]

end Lists

theorem ne_identifier_of_sumOperator? {token : Token} {operator : Operator}
    (signed : sumOperator? token.kind = some operator) : token.kind ≠ .identifier := by
  intro named
  rw [named] at signed
  cases signed

theorem ne_identifier_of_productOperator? {token : Token} {operator : Operator}
    (marked : productOperator? token.kind = some operator) : token.kind ≠ .identifier := by
  intro named
  rw [named] at marked
  cases marked

/-- The variables of an expression are the identifiers that it is written with.
No other token gives a tree a name. -/
theorem lists_of_isSum [NumberText α] {tokens : List Token} {tree : Expression α}
    (derived : IsSum tokens tree) : Lists tokens tree := by
  refine @derivation_induction α _ Lists Lists Lists Lists ?_ ?_ ?_ ?_ ?_ ?_ ?_ ?_ ?_ ?_ ?_ _ _
    derived
  · exact fun _ lists => lists
  · intro tokens breaks others sign left operator right signed _ before apart _ after
    have other := ne_identifier_of_sumOperator? signed
    exact before.append ((after.behind (identifiers_breaks apart)).cons other) operator
  · exact fun _ lists => lists
  · intro tokens breaks others mark left operator right marked _ before apart _ after
    have other := ne_identifier_of_productOperator? marked
    exact before.append ((after.behind (identifiers_breaks apart)).cons other) operator
  · exact fun _ before _ after => before.append after .multiply
  · exact fun minus _ (inner : Lists _ _) => inner.cons (by simp [minus])
  · exact fun plus _ inner => inner.cons (by simp [plus])
  · exact fun _ lists => lists
  · intro token value literal _
    exact (List.map_eq_nil_iff.mpr (identifiers_cons (by simp [literal]))).symm
  · intro token named
    rw [Lists, Expression.occurrences, identifiers, List.filter_cons_of_pos (by simp [named])]
    rfl
  · intro opening closing breaks tokens others tree leftParen apart _ inner apartAfter rightParen
    have closed : identifiers (others ++ [closing]) = [] := by
      rw [identifiers_append, identifiers_breaks apartAfter,
        identifiers_cons (by simp [rightParen])]
      rfl
    exact ((inner.before closed).behind (identifiers_breaks apart)).cons (by simp [leftParen])

/-! ## Statements -/

/-- A statement of a linear model.  The objective may stand anywhere among the
constraints, so both are read by one loop. -/
inductive Statement (α : Type)
  | objective (objective : Objective α)
  | declaration (declaration : Declaration α)

namespace Statement

def span : Statement α → Span
  | .objective statement => statement.span
  | .declaration statement => statement.span

/-- The variables of a statement, both sides of a constraint one after the
other. -/
def occurrences : Statement α → List (String × Span)
  | .objective statement => statement.expression.occurrences
  | .declaration statement => statement.left.occurrences ++ statement.right.occurrences

def objective? : Statement α → Option (Objective α)
  | .objective statement => some statement
  | .declaration _ => none

def declaration? : Statement α → Option (Declaration α)
  | .objective _ => none
  | .declaration statement => some statement

/-- A statement has the range of its tokens, and its variables are some of
them. -/
structure WrittenBy (own : List Token) (statement : Statement α) : Prop where
  nonempty : own ≠ []
  span_eq : statement.span = spanOf own
  occurrences_eq : ∃ named : List Token, named.Sublist own ∧
    statement.occurrences = named.map Token.occurrence

end Statement

variable [NumberText α]

theorem sublist_withoutComments (tokens : List Token) :
    (withoutComments tokens).Sublist tokens :=
  List.filter_sublist

theorem IsObjective.writtenBy {own : List Token} {objective : Objective α}
    (derived : IsObjective (withoutComments own) objective) (span : objective.span = spanOf own) :
    (Statement.objective objective).WrittenBy own := by
  generalize bare : withoutComments own = tokens at derived
  refine ⟨?_, span, ?_⟩
  · rintro rfl
    exact derived.ne_nil bare.symm
  · cases derived with
    | @intro keyword tokens _ opens body =>
        refine ⟨identifiers tokens, ?_, lists_of_isSum body⟩
        refine (List.filter_sublist.trans (List.sublist_cons_self keyword tokens)).trans ?_
        exact bare ▸ sublist_withoutComments own

theorem IsDeclaration.writtenBy {own : List Token} {declaration : Declaration α}
    (derived : IsDeclaration (withoutComments own) declaration)
    (span : declaration.span = spanOf own) :
    (Statement.declaration declaration).WrittenBy own := by
  generalize bare : withoutComments own = tokens at derived
  refine ⟨?_, span, ?_⟩
  · rintro rfl
    exact derived.ne_nil bare.symm
  · cases derived with
    | @intro label left right mark _ labelled before compares after =>
        refine ⟨identifiers left ++ identifiers right, ?_, ?_⟩
        · have kept : (identifiers left ++ identifiers right).Sublist
              (label ++ (left ++ mark :: right)) :=
            (List.filter_sublist.append (List.filter_sublist.cons mark)).trans
              (List.sublist_append_right _ _)
          exact kept.trans (bare ▸ sublist_withoutComments own)
        · rw [Statement.occurrences, lists_of_isSum before, lists_of_isSum after,
            List.map_append]

/-- The statements of a linear model one after another, up to the brace that
closes it.  They complete what was read before. -/
structure LinearModel.Completes (model all : LinearModel α) (used : List Token) (brace : Token)
    (statements : List (Statement α)) : Prop where
  brace_kind : brace.kind = .rightBrace
  span_eq : all.span = ⟨model.span.start, brace.span.stop⟩
  laidOut : LaidOut Statement.WrittenBy used statements
  objective_eq : all.objective.toList =
    model.objective.toList ++ statements.filterMap Statement.objective?
  constraints_eq : all.constraints =
    model.constraints ++ statements.filterMap Statement.declaration?

theorem Passes.skipBreaks (cursor : Cursor) : ∃ breaks, Passes cursor breaks cursor.skipBreaks :=
  ⟨_, .skipFrom _ cursor.stop cursor.rest⟩

theorem completes_of_readStatements (cursor : Cursor) :
    ∀ (model all : LinearModel α) (next : Cursor),
      plain (readStatements model cursor) = .ok (all, next) →
      ∃ used brace statements, Passes cursor (used ++ [brace]) next ∧
        model.Completes all used brace statements := by
  induction cursor using Cursor.size_induction with
  | step cursor inductionHypothesis =>
      intro model all next read
      have skipped := cursor.size_skipBreaks_le
      rcases Passes.skipBreaks cursor with ⟨breaks, apart⟩
      rw [plain_readStatements] at read
      split at read
      · cases read
      · next token rest shown =>
          rw [Cursor.size_of_rest shown, List.length_cons] at skipped
          split at read
          · next closing =>
              cases read
              exact ⟨breaks, token, [], apart.trans (.token shown), closing, rfl, .nil _,
                (List.append_nil _).symm, (List.append_nil _).symm⟩
          · split at read
            · next sense opens =>
                rcases bind_eq_ok_iff.mp read with ⟨⟨tree, middle⟩, readTree, onward⟩
                rcases passes_of_objective shown opens readTree with ⟨own, passes, derived, span⟩
                dsimp only at onward
                split at onward
                · cases onward
                · next vacant =>
                    rcases bind_eq_ok_iff.mp onward with ⟨⟨⟨⟩, last⟩, readEnd, others⟩
                    have ended := traced_readStatementEnd (α := α) middle
                    rw [readEnd] at ended
                    rcases ended.passes with ⟨comments, ending⟩
                    have shorter : last.size < cursor.size :=
                      Nat.lt_of_le_of_lt (Nat.le_of_lt_succ (size_lt_of_plain readEnd))
                        (Nat.lt_trans (size_lt_of_plain readTree) skipped)
                    rcases inductionHypothesis last shorter _ all next others with
                      ⟨used, brace, statements, reached, completes⟩
                    refine ⟨breaks ++ (own ++ (comments ++ used)), brace,
                      .objective _ :: statements, ?_, completes.brace_kind, completes.span_eq,
                      .cons (derived.writtenBy span) (completes.laidOut.behind comments), ?_,
                      completes.constraints_eq⟩
                    · have passed := apart.trans (passes.trans (ending.trans reached))
                      simpa only [List.append_assoc] using passed
                    · rw [Option.not_isSome_iff_eq_none.mp vacant]
                      exact completes.objective_eq
            · rcases bind_eq_ok_iff.mp read with ⟨⟨declaration, middle⟩, readDeclared, onward⟩
              rcases bind_eq_ok_iff.mp onward with ⟨⟨⟨⟩, last⟩, readEnd, others⟩
              rcases passes_of_readDeclaration readDeclared with ⟨own, passes, derived, span⟩
              have ended := traced_readStatementEnd (α := α) middle
              rw [readEnd] at ended
              rcases ended.passes with ⟨comments, ending⟩
              have shorter : last.size < cursor.size :=
                Nat.lt_of_le_of_lt (Nat.le_of_lt_succ (size_lt_of_plain readEnd))
                  (Nat.lt_of_lt_of_le (size_lt_of_plain readDeclared) cursor.size_skipBreaks_le)
              rcases inductionHypothesis last shorter _ all next others with
                ⟨used, brace, statements, reached, completes⟩
              refine ⟨breaks ++ (own ++ (comments ++ used)), brace, .declaration _ :: statements,
                ?_, completes.brace_kind, completes.span_eq,
                .cons (derived.writtenBy span) (completes.laidOut.behind comments),
                completes.objective_eq, ?_⟩
              · have passed := apart.trans (passes.trans (ending.trans reached))
                simpa only [List.append_assoc] using passed
              · rw [completes.constraints_eq, List.append_assoc]
                rfl

/-! ## Models -/

/-- The class of the token that opens a model of the kind. -/
def ModelKind.tokenKind : ModelKind → TokenKind
  | .lp => .lp
  | .assignment => .assignment
  | .transport => .transport

/-- A model has the range of its tokens.  The first of them is its keyword, the
last one its closing brace, and between them stand the statements. -/
structure Item.WrittenBy (own : List Token) (item : Item α) : Prop where
  enclosed : ∃ keyword body brace, own = keyword :: (body ++ [brace]) ∧
    keyword.kind = item.kind.tokenKind ∧ brace.kind = .rightBrace ∧
    item.span = ⟨keyword.span.start, brace.span.stop⟩
  statements : ∀ model, item = .lp model → ∃ statements,
    LaidOut Statement.WrittenBy own statements ∧
    model.objective.toList = statements.filterMap Statement.objective? ∧
    model.constraints = statements.filterMap Statement.declaration?

theorem passes_of_expect {cursor next : Cursor} {kind : TokenKind} {token : Token}
    (read : plain (cursor.expect kind) = .ok (token, next)) :
    ∃ breaks, Passes cursor (breaks ++ [token]) next ∧ token.kind = kind := by
  rcases Passes.skipBreaks cursor with ⟨breaks, apart⟩
  rw [plain_expect] at read
  split at read
  · cases read
  · next first rest shown =>
      split at read
      · next same =>
          cases read
          exact ⟨breaks, apart.trans (.token shown), same⟩
      · cases read

theorem passes_of_readOpening {keyword : TokenKind} {cursor next : Cursor} {opening : Span × String}
    (read : plain (readOpening keyword cursor) = .ok (opening, next)) :
    ∃ breaks opened others, Passes cursor (breaks ++ opened :: others) next ∧
      opened.kind = keyword ∧ opening.1 = opened.span := by
  rw [plain_readOpening] at read
  rcases bind_eq_ok_iff.mp read with ⟨⟨opened, behind⟩, readOpened, named⟩
  rcases bind_eq_ok_iff.mp named with ⟨⟨name, last⟩, readName, braced⟩
  rcases bind_eq_ok_iff.mp braced with ⟨⟨brace, inner⟩, readBrace, answered⟩
  cases answered
  rcases passes_of_expect readOpened with ⟨breaks, passes, kind⟩
  rcases passes_of_expect readName with ⟨beforeName, passesName, -⟩
  rcases passes_of_expect readBrace with ⟨beforeBrace, passesBrace, -⟩
  have passed := passes.trans (passesName.trans passesBrace)
  rw [List.append_assoc, List.singleton_append] at passed
  exact ⟨breaks, opened, _, passed, kind, rfl⟩

theorem writtenBy_of_readLinearModel {cursor next : Cursor} {model : LinearModel α}
    (read : plain (readLinearModel cursor) = .ok (model, next)) :
    ∃ breaks own, Passes cursor (breaks ++ own) next ∧ (Item.lp model).WrittenBy own := by
  rw [plain_readLinearModel] at read
  rcases bind_eq_ok_iff.mp read with ⟨⟨opening, middle⟩, readOpen, readAll⟩
  rcases passes_of_readOpening readOpen with ⟨breaks, opened, others, passes, kind, span⟩
  rcases completes_of_readStatements middle _ model next readAll with
    ⟨used, brace, statements, reached, completes⟩
  refine ⟨breaks, opened :: (others ++ used ++ [brace]), ?_,
    ⟨opened, others ++ used, brace, rfl, kind, completes.brace_kind, ?_⟩, ?_⟩
  · simpa only [List.append_assoc, List.cons_append] using passes.trans reached
  · rw [Item.span, completes.span_eq, span]
  · rintro _ ⟨⟩
    refine ⟨statements, ?_, completes.objective_eq, completes.constraints_eq⟩
    have laidOut := (completes.laidOut.behind (opened :: others)).widen [brace]
    simpa only [List.cons_append] using laidOut

/-! ### Models of data -/

/-- The brace that closes a model of data comes last.  What every section keeps
is kept. -/
theorem passes_of_readSections {β : Type} (Keeps : β → Prop)
    {readSection : β → Token → (body : Cursor) → Except ParseError (Parsed β body.size)}
    (bodies : ∀ model heading,
      BodyTraced α heading fun cursor => plain (readSection model heading cursor))
    (keeps : ∀ model heading (cursor : Cursor) filled next, Keeps model →
      plain (readSection model heading cursor) = .ok (filled, next) → Keeps filled)
    (cursor : Cursor) :
    ∀ (model : β) (all : β × Token) (next : Cursor), Keeps model →
      plain (readSections readSection model cursor) = .ok (all, next) →
      (∃ used, Passes cursor (used ++ [all.2]) next) ∧ all.2.kind = .rightBrace ∧ Keeps all.1 := by
  induction cursor using Cursor.size_induction with
  | step cursor inductionHypothesis =>
      intro model all next kept read
      have skipped := cursor.size_skipBreaks_le
      rcases Passes.skipBreaks cursor with ⟨breaks, apart⟩
      rw [plain_readSections, plain_expect] at read
      cases shown : cursor.skipBreaks.rest with
      | nil =>
          rw [shown] at read
          cases read
      | cons token rest =>
          rw [Cursor.size_of_rest shown, List.length_cons] at skipped
          rw [shown] at read
          dsimp only at read
          split at read
          · next closing =>
              cases read
              exact ⟨⟨breaks, apart.trans (.token shown)⟩, closing, kept⟩
          · split at read
            · rcases bind_eq_ok_iff.mp read with ⟨_, opened, headed⟩
              cases opened
              rcases bind_eq_ok_iff.mp headed with ⟨⟨filled, last⟩, readBody, onward⟩
              have body := bodies model token cursor.skipBreaks rest shown
              dsimp only at body readBody
              rw [readBody] at body
              rcases body.passes with ⟨used, passes⟩
              have shorter : last.size < cursor.size :=
                Nat.lt_trans (Nat.lt_of_lt_of_le (size_lt_of_plain readBody)
                  (Cursor.size_skipOne_le .colon (.behind token rest))) skipped
              rcases inductionHypothesis last shorter filled all next
                (keeps _ _ _ _ _ kept readBody) onward with ⟨⟨more, reached⟩, closed, keptLast⟩
              refine ⟨⟨breaks ++ (used ++ more), ?_⟩, closed, keptLast⟩
              simpa only [List.append_assoc] using apart.trans (passes.trans reached)
            · cases read

theorem fillWith_eq_ok {β γ : Type} {body : Except ParseError (β × Cursor)} {heading : Token}
    {slot : Option β} {update : Option β → γ} {filled : γ} {next : Cursor}
    (read : fillWith body heading slot update = .ok (filled, next)) :
    ∃ value, filled = update value := by
  rcases bind_eq_ok_iff.mp read with ⟨value, -, onward⟩
  rcases bind_eq_ok_iff.mp onward with ⟨slotted, -, answered⟩
  cases answered
  exact ⟨slotted, rfl⟩

variable [Neg α]

theorem span_of_readAssignmentSection {model filled : AssignmentModel α} {heading : Token}
    {cursor next : Cursor}
    (read : plain (readAssignmentSection model heading cursor) = .ok (filled, next)) :
    filled.span = model.span := by
  rw [plain_readAssignmentSection] at read
  split_ifs at read
  iterate 3
    · rcases fillWith_eq_ok read with ⟨value, rfl⟩
      rfl

theorem span_of_readTransportSection {model filled : TransportModel α} {heading : Token}
    {cursor next : Cursor}
    (read : plain (readTransportSection model heading cursor) = .ok (filled, next)) :
    filled.span = model.span := by
  rw [plain_readTransportSection] at read
  split_ifs at read
  iterate 5
    · rcases fillWith_eq_ok read with ⟨value, rfl⟩
      rfl

theorem writtenBy_of_readAssignmentModel {cursor next : Cursor} {model : AssignmentModel α}
    (read : plain (readAssignmentModel cursor) = .ok (model, next)) :
    ∃ breaks own, Passes cursor (breaks ++ own) next ∧ (Item.assignment model).WrittenBy own := by
  rw [plain_readAssignmentModel] at read
  rcases bind_eq_ok_iff.mp read with ⟨⟨opening, middle⟩, readOpen, sections⟩
  rcases bind_eq_ok_iff.mp sections with ⟨⟨⟨filled, brace⟩, last⟩, readAll, answered⟩
  rcases passes_of_readOpening readOpen with ⟨breaks, opened, others, passes, kind, span⟩
  rcases passes_of_readSections (fun model => model.span = opening.1)
    traced_readAssignmentSection
    (fun _ _ _ _ _ kept read => (span_of_readAssignmentSection read).trans kept)
    middle _ _ last rfl readAll with ⟨⟨used, reached⟩, closed, kept⟩
  cases answered
  refine ⟨breaks, opened :: (others ++ used ++ [brace]), ?_,
    ⟨opened, others ++ used, brace, rfl, kind, closed, ?_⟩, nofun⟩
  · simpa only [List.append_assoc, List.cons_append] using passes.trans reached
  · dsimp only [Item.span] at kept ⊢
    rw [kept, span]

theorem writtenBy_of_readTransportModel {cursor next : Cursor} {model : TransportModel α}
    (read : plain (readTransportModel cursor) = .ok (model, next)) :
    ∃ breaks own, Passes cursor (breaks ++ own) next ∧ (Item.transport model).WrittenBy own := by
  rw [plain_readTransportModel] at read
  rcases bind_eq_ok_iff.mp read with ⟨⟨opening, middle⟩, readOpen, sections⟩
  rcases bind_eq_ok_iff.mp sections with ⟨⟨⟨filled, brace⟩, last⟩, readAll, answered⟩
  rcases passes_of_readOpening readOpen with ⟨breaks, opened, others, passes, kind, span⟩
  rcases passes_of_readSections (fun model => model.span = opening.1)
    traced_readTransportSection
    (fun _ _ _ _ _ kept read => (span_of_readTransportSection read).trans kept)
    middle _ _ last rfl readAll with ⟨⟨used, reached⟩, closed, kept⟩
  cases answered
  refine ⟨breaks, opened :: (others ++ used ++ [brace]), ?_,
    ⟨opened, others ++ used, brace, rfl, kind, closed, ?_⟩, nofun⟩
  · simpa only [List.append_assoc, List.cons_append] using passes.trans reached
  · dsimp only [Item.span] at kept ⊢
    rw [kept, span]

/-! ## Programs -/

theorem writtenBy_of_readItem {cursor next : Cursor} {item : Item α}
    (read : plain (readItem cursor) = .ok (item, next)) :
    ∃ breaks own, Passes cursor (breaks ++ own) next ∧ item.WrittenBy own := by
  rw [plain_readItem] at read
  split at read
  · rcases map_eq_ok_iff.mp read with ⟨⟨model, last⟩, readModel, answered⟩
    cases answered
    exact writtenBy_of_readLinearModel readModel
  · rcases map_eq_ok_iff.mp read with ⟨⟨model, last⟩, readModel, answered⟩
    cases answered
    exact writtenBy_of_readAssignmentModel readModel
  · rcases map_eq_ok_iff.mp read with ⟨⟨model, last⟩, readModel, answered⟩
    cases answered
    exact writtenBy_of_readTransportModel readModel
  · cases read

/-- The models that are read from tokens are written one after another in
them. -/
theorem laidOut_of_readItems (cursor : Cursor) :
    ∀ items : List (Item α), readItems cursor = .ok items →
      LaidOut Item.WrittenBy cursor.rest items := by
  induction cursor using Cursor.size_induction with
  | step cursor inductionHypothesis =>
      intro items read
      rw [readItems_eq] at read
      split at read
      · cases read
        exact .nil _
      · rcases bind_eq_ok_iff.mp read with ⟨⟨item, next⟩, readFirst, onward⟩
        rcases bind_eq_ok_iff.mp onward with ⟨others, readOthers, answered⟩
        cases answered
        rcases Passes.skipBreaks cursor with ⟨breaks, apart⟩
        rcases writtenBy_of_readItem readFirst with ⟨more, own, passes, written⟩
        have shorter : next.size < cursor.size :=
          Nat.lt_of_lt_of_le (size_lt_of_plain readFirst) cursor.size_skipBreaks_le
        have laidOut : LaidOut Item.WrittenBy (more ++ (own ++ next.rest)) (item :: others) :=
          .cons written (inductionHypothesis next shorter others readOthers)
        rw [apart.shown, passes.shown, List.append_assoc]
        exact laidOut.behind breaks

end Language
end Optimum
