import Optimum.Language.Reading.Models
import Optimum.Proofs.Language.Answers

namespace Optimum
namespace Language

/-!
# The readers of models as plain functions

One equation between plain answers for each reader of lists, tables, models and
programs.
-/

/-- The place behind breaks and at most one comma. -/
def Cursor.skipDivider (cursor : Cursor) : Cursor :=
  cursor.skipBreaks.skipOne .comma

/-! ## Lists and tables -/

/-- The label that comes next. -/
def nextLabel (cursor : Cursor) : Except ParseError (String × Cursor) :=
  match cursor.skipBreaks.rest with
  | [] => .error .unexpectedEnd
  | token :: rest =>
    match token.label? with
    | some label => .ok (label, .behind token rest)
    | none => .error (cursor.skipBreaks.unexpected .label)

theorem plain_readLabels (cursor : Cursor) :
    plain (readLabels cursor) =
      match cursor.skipBreaks.rest with
      | [] => .error .unexpectedEnd
      | token :: rest =>
        if token.kind = .rightBracket then .ok ([], .behind token rest)
        else do
          let label ← nextLabel cursor
          let others ← plain (readLabels label.2.skipDivider)
          return (label.1 :: others.1, others.2) := by
  rw [readLabels]
  cases taken : cursor.takeAfterBreaks? with
  | none =>
      rw [Cursor.takeAfterBreaks?_eq_none taken]
      rfl
  | some token =>
      rcases Cursor.takeAfterBreaks?_eq_some taken with ⟨rest, shown, next⟩
      simp only [shown, nextLabel]
      split
      · exact congrArg (fun place => Except.ok ([], place)) next
      · cases token.value.label? with
        | none => rfl
        | some label =>
            dsimp only
            rw [← next]
            exact plain_bind fun others => rfl

theorem plain_readLabelList (cursor : Cursor) :
    plain (readLabelList cursor) =
      plain (cursor.expect .leftBracket) >>= fun opened => plain (readLabels opened.2) := by
  rw [readLabelList]
  exact plain_bind fun opened => plain_rewrap fun labels => ⟨rfl, rfl⟩

variable {α : Type} [NumberText α]

theorem plain_readSignedNumber [Neg α] (cursor : Cursor) :
    plain (readSignedNumber (α := α) cursor) =
      match (cursor.skipOne .minus).rest with
      | [] => .error .unexpectedEnd
      | token :: rest =>
        if token.kind = .number then do
          let value ← token.number?
          return (if cursor.kind = .minus then -value else value, .behind token rest)
        else .error ((cursor.skipOne .minus).unexpected .number) := by
  rw [readSignedNumber]
  dsimp only
  cases taken : (cursor.skipOne .minus).take? with
  | none =>
      rw [Cursor.take?_eq_none taken]
      rfl
  | some token =>
      rcases Cursor.take?_eq_some taken with ⟨rest, shown, next⟩
      simp only [shown]
      split
      · cases Token.number? (α := α) token.value with
        | error fault => rfl
        | ok value =>
            exact congrArg (fun place => Except.ok (if cursor.kind = .minus then -value else value,
              place)) next
      · rfl

theorem plain_readNumbers [Neg α] (cursor : Cursor) :
    plain (readNumbers (α := α) cursor) =
      match cursor.skipBreaks.rest with
      | [] => .error .unexpectedEnd
      | token :: rest =>
        if token.kind = .rightBracket then .ok ([], .behind token rest)
        else do
          let value ← plain (readSignedNumber cursor.skipBreaks)
          let others ← plain (readNumbers value.2.skipDivider)
          return (value.1 :: others.1, others.2) := by
  rw [readNumbers]
  cases taken : cursor.takeAfterBreaks? with
  | none =>
      rw [Cursor.takeAfterBreaks?_eq_none taken]
      rfl
  | some token =>
      rcases Cursor.takeAfterBreaks?_eq_some taken with ⟨rest, shown, next⟩
      simp only [shown]
      split
      · exact congrArg (fun place => Except.ok ([], place)) next
      · exact plain_bind fun value => plain_bind fun others => rfl

theorem plain_readNumberList [Neg α] (cursor : Cursor) :
    plain (readNumberList (α := α) cursor) =
      plain (cursor.expect .leftBracket) >>= fun opened => plain (readNumbers opened.2) := by
  rw [readNumberList]
  exact plain_bind fun opened => plain_rewrap fun numbers => ⟨rfl, rfl⟩

theorem plain_readRows [Neg α] (cursor : Cursor) :
    plain (readRows (α := α) cursor) =
      match cursor.skipBreaks.rest with
      | [] => .error .unexpectedEnd
      | token :: rest =>
        if token.kind = .rightBrace then .ok ([], .behind token rest)
        else do
          let row ← plain (readNumberList cursor)
          let others ← plain (readRows row.2.skipDivider)
          return (row.1 :: others.1, others.2) := by
  rw [readRows]
  cases taken : cursor.takeAfterBreaks? with
  | none =>
      rw [Cursor.takeAfterBreaks?_eq_none taken]
      rfl
  | some token =>
      rcases Cursor.takeAfterBreaks?_eq_some taken with ⟨rest, shown, next⟩
      simp only [shown]
      split
      · exact congrArg (fun place => Except.ok ([], place)) next
      · exact plain_bind fun row => plain_bind fun others => rfl

theorem plain_readTable [Neg α] (cursor : Cursor) :
    plain (readTable (α := α) cursor) =
      plain (cursor.expect .leftBrace) >>= fun opened => plain (readRows opened.2) := by
  rw [readTable]
  exact plain_bind fun opened => plain_rewrap fun rows => ⟨rfl, rfl⟩

/-! ## Linear models -/

/-- Whether a statement may end before a token. -/
def endsStatement (kind : TokenKind) : Prop :=
  kind = .newline ∨ kind = .semicolon ∨ kind = .rightBrace

instance (kind : TokenKind) : Decidable (endsStatement kind) :=
  inferInstanceAs (Decidable (_ ∨ _ ∨ _))

theorem plain_readStatementEnd (cursor : Cursor) :
    plain (readStatementEnd cursor) =
      if endsStatement cursor.skipComments.kind then .ok ((), cursor.skipComments)
      else .error (cursor.skipComments.unexpected .endOfLine) := by
  rw [readStatementEnd]
  cases cursor.skipComments.kind <;> rfl

/-- The label of a constraint, and the place of its left side. -/
def labelAt (cursor : Cursor) : Option String × Cursor :=
  match cursor.rest with
  | name :: colon :: rest =>
    if name.kind = .identifier ∧ colon.kind = .colon then (some name.text, .behind colon rest)
    else (none, cursor)
  | _ => (none, cursor)

theorem readLabel_eq (cursor : Cursor) :
    ((readLabel cursor).value, (readLabel cursor).next) = labelAt cursor := by
  rcases cursor with ⟨stop, _ | ⟨name, _ | ⟨colon, rest⟩⟩⟩
  · rfl
  · rfl
  · simp only [readLabel, labelAt, Cursor.take?]
    split <;> rfl

/-- The relation and the right side of a constraint whose label and left side
were read. -/
def readRight (start : Nat) (label : Option String) (left : Expression α × Cursor) :
    Except ParseError (Declaration α × Cursor) :=
  match left.2.skipComments.rest with
  | [] => .error .unexpectedEnd
  | token :: rest =>
    match relationOf? token.kind with
    | none => .error (left.2.skipComments.unexpected .relation)
    | some relation => do
      let right ← plain (readSum (.behind token rest))
      return (⟨⟨start, right.2.stop⟩, label, left.1, relation, right.1⟩, right.2)

theorem plain_readDeclaration (cursor : Cursor) :
    plain (readDeclaration (α := α) cursor) =
      plain (readSum (labelAt cursor).2) >>= readRight cursor.start (labelAt cursor).1 := by
  rw [readDeclaration, ← readLabel_eq]
  refine plain_bind fun left => ?_
  rw [readRight]
  cases taken : left.next.takeAfterComments? with
  | none =>
      rw [Cursor.takeAfterComments?_eq_none taken]
      rfl
  | some token =>
      rcases Cursor.takeAfterComments?_eq_some taken with ⟨rest, shown, next⟩
      simp only [shown]
      cases relationOf? token.value.kind with
      | none => rfl
      | some relation =>
          dsimp only
          rw [← next]
          exact plain_bind fun right => rfl

theorem plain_readStatements (model : LinearModel α) (cursor : Cursor) :
    plain (readStatements model cursor) =
      match cursor.skipBreaks.rest with
      | [] => .error .unexpectedEnd
      | token :: rest =>
        if token.kind = .rightBrace then
          .ok ({ model with span := ⟨model.span.start, token.span.stop⟩ }, .behind token rest)
        else match senseOf? token.kind with
        | some sense => do
          let expression ← plain (readSum (.behind token rest))
          let objective := ⟨⟨token.span.start, expression.2.stop⟩, sense, expression.1⟩
          if model.objective.isSome then .error (.duplicateObjective model.name objective.span)
          else do
            let ended ← plain (readStatementEnd expression.2)
            plain (readStatements { model with objective := some objective } ended.2)
        | none =>
          plain (readDeclaration cursor.skipBreaks) >>= fun declaration =>
            plain (readStatementEnd declaration.2) >>= fun ended =>
              plain (readStatements
                { model with constraints := model.constraints ++ [declaration.1] } ended.2) := by
  rw [readStatements]
  cases taken : cursor.takeAfterBreaks? with
  | none =>
      rw [Cursor.takeAfterBreaks?_eq_none taken]
      rfl
  | some token =>
      rcases Cursor.takeAfterBreaks?_eq_some taken with ⟨rest, shown, next⟩
      simp only [shown]
      split
      · exact congrArg (fun place => Except.ok (_, place)) next
      · cases senseOf? token.value.kind with
        | some sense =>
            dsimp only [readObjective]
            rw [← next, bind_assoc]
            refine plain_bind fun expression => ?_
            rw [pure_bind]
            split
            · rfl
            · exact plain_bind fun ended => plain_rewrap fun all => ⟨rfl, rfl⟩
        | none =>
            exact plain_bind fun declaration => plain_bind fun ended =>
              plain_rewrap fun all => ⟨rfl, rfl⟩

theorem plain_readOpening (keyword : TokenKind) (cursor : Cursor) :
    plain (readOpening keyword cursor) = do
      let opened ← plain (cursor.expect keyword)
      let name ← plain (opened.2.expect .identifier)
      let brace ← plain (name.2.expect .leftBrace)
      return ((opened.1.span, name.1.text), brace.2) := by
  rw [readOpening]
  exact plain_bind fun opened => plain_bind fun name => plain_bind fun brace => rfl

theorem plain_readLinearModel (cursor : Cursor) :
    plain (readLinearModel (α := α) cursor) =
      plain (readOpening .lp cursor) >>= fun opening =>
        plain (readStatements ⟨opening.1.1, opening.1.2, none, []⟩ opening.2) := by
  rw [readLinearModel]
  exact plain_bind fun opening => plain_rewrap fun model => ⟨rfl, rfl⟩

/-! ## Models of data -/

/-- Fill a slot of a model with what was read for it.  All sections of both
kinds of models are filled so. -/
def fillWith {β γ : Type} (body : Except ParseError (β × Cursor)) (heading : Token)
    (slot : Option β) (update : Option β → γ) : Except ParseError (γ × Cursor) := do
  let read ← body
  let filled ← fillOnce heading slot read.1
  return (update filled, read.2)

theorem plain_fillWith {β γ : Type} {limit : Nat} {body : Except ParseError (Parsed β limit)}
    {heading : Token} {slot : Option β} {update : Option β → γ} :
    plain (body >>= fun read => fillOnce heading slot read.value >>= fun filled =>
      pure (read.map fun _ => update filled)) = fillWith (plain body) heading slot update := by
  refine plain_bind fun read => ?_
  cases fillOnce heading slot read.value <;> rfl

theorem plain_readAssignmentSection [Neg α] (model : AssignmentModel α) (heading : Token)
    (cursor : Cursor) :
    plain (readAssignmentSection model heading cursor) =
      if heading.text = "rows" then
        fillWith (plain (readLabelList cursor)) heading model.rows fun rows => { model with rows }
      else if heading.text = "cols" ∨ heading.text = "columns" then
        fillWith (plain (readLabelList cursor)) heading model.columns
          fun columns => { model with columns }
      else if heading.text = "costs" then
        fillWith (plain (readTable cursor)) heading model.costs fun costs => { model with costs }
      else .error (.unknownSection heading.text ["rows", "cols", "costs"] heading.span) := by
  rw [readAssignmentSection]
  split
  · exact plain_fillWith
  · split
    · exact plain_fillWith
    · split
      · exact plain_fillWith
      · rfl

theorem plain_readTransportSection [Neg α] (model : TransportModel α) (heading : Token)
    (cursor : Cursor) :
    plain (readTransportSection model heading cursor) =
      if heading.text = "sources" then
        fillWith (plain (readLabelList cursor)) heading model.sources
          fun sources => { model with sources }
      else if heading.text = "destinations" then
        fillWith (plain (readLabelList cursor)) heading model.destinations
          fun destinations => { model with destinations }
      else if heading.text = "supply" then
        fillWith (plain (readNumberList cursor)) heading model.supply
          fun supply => { model with supply }
      else if heading.text = "demand" then
        fillWith (plain (readNumberList cursor)) heading model.demand
          fun demand => { model with demand }
      else if heading.text = "costs" then
        fillWith (plain (readTable cursor)) heading model.costs fun costs => { model with costs }
      else .error (.unknownSection heading.text
        ["sources", "destinations", "supply", "demand", "costs"] heading.span) := by
  rw [readTransportSection]
  repeat' split
  all_goals first | exact plain_fillWith | rfl

theorem plain_readSections {β : Type}
    (readSection : β → Token → (body : Cursor) → Except ParseError (Parsed β body.size))
    (model : β) (cursor : Cursor) :
    plain (readSections readSection model cursor) =
      match cursor.skipBreaks.rest with
      | [] => .error .unexpectedEnd
      | token :: rest =>
        if token.kind = .rightBrace then .ok ((model, token), .behind token rest)
        else
          plain (cursor.expect .identifier) >>= fun heading =>
            plain (readSection model heading.1 (heading.2.skipOne .colon)) >>= fun filled =>
              plain (readSections readSection filled.1 filled.2) := by
  rw [readSections]
  cases taken : cursor.takeAfterBreaks? with
  | none =>
      rw [Cursor.takeAfterBreaks?_eq_none taken]
      rfl
  | some token =>
      rcases Cursor.takeAfterBreaks?_eq_some taken with ⟨rest, shown, next⟩
      simp only [shown]
      split
      · exact congrArg (fun place => Except.ok ((model, token.value), place)) next
      · exact plain_bind fun heading => plain_bind fun filled =>
          plain_rewrap fun all => ⟨rfl, rfl⟩

theorem plain_readAssignmentModel [Neg α] (cursor : Cursor) :
    plain (readAssignmentModel (α := α) cursor) = do
      let opening ← plain (readOpening .assignment cursor)
      let filled ← plain (readSections readAssignmentSection
        ⟨opening.1.1, opening.1.2, none, none, none⟩ opening.2)
      return ({ filled.1.1 with span := ⟨filled.1.1.span.start, filled.1.2.span.stop⟩ },
        filled.2) := by
  rw [readAssignmentModel]
  exact plain_bind fun opening => plain_bind fun filled => rfl

theorem plain_readTransportModel [Neg α] (cursor : Cursor) :
    plain (readTransportModel (α := α) cursor) = do
      let opening ← plain (readOpening .transport cursor)
      let filled ← plain (readSections readTransportSection
        ⟨opening.1.1, opening.1.2, none, none, none, none, none⟩ opening.2)
      return ({ filled.1.1 with span := ⟨filled.1.1.span.start, filled.1.2.span.stop⟩ },
        filled.2) := by
  rw [readTransportModel]
  exact plain_bind fun opening => plain_bind fun filled => rfl

/-! ## Programs -/

theorem plain_map {β γ : Type} {limit : Nat} (convert : β → γ)
    (answer : Except ParseError (Parsed β limit)) :
    plain (answer.map fun parsed => parsed.map convert) =
      (plain answer).map fun read => (convert read.1, read.2) := by
  cases answer <;> rfl

theorem plain_readItem [Neg α] (cursor : Cursor) :
    plain (readItem (α := α) cursor) =
      match cursor.kind with
      | .lp => (plain (readLinearModel cursor)).map fun read => (.lp read.1, read.2)
      | .assignment =>
        (plain (readAssignmentModel cursor)).map fun read => (.assignment read.1, read.2)
      | .transport =>
        (plain (readTransportModel cursor)).map fun read => (.transport read.1, read.2)
      | _ => .error (cursor.unexpected .model) := by
  rw [readItem]
  cases cursor.kind <;> first | exact plain_map _ _ | rfl

theorem readItems_eq [Neg α] (cursor : Cursor) :
    readItems (α := α) cursor =
      if cursor.skipBreaks.kind = .endOfFile then .ok []
      else do
        let item ← plain (readItem cursor.skipBreaks)
        let others ← readItems item.2
        return item.1 :: others := by
  rw [readItems]
  split
  · rfl
  · cases readItem (α := α) cursor.skipBreaks <;> rfl

end Language
end Optimum
