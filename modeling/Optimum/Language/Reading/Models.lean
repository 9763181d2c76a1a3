import Optimum.Language.Lexer
import Optimum.Language.Reading.Lists

namespace Optimum
namespace Language

/-!
# Reading models and programs

Statements of a linear model end with their line, at a semicolon or before the
closing brace.  Sections of a model of data carry their own brackets, so they
need no end; each may be given once.
-/

variable {α : Type} [NumberText α]

/-! ## Linear models -/

/-- Check that a statement ends here, and pass the comments before its end. -/
def readStatementEnd (cursor : Cursor) : Except ParseError (Parsed Unit (cursor.size + 1)) :=
  match cursor.skipComments.kind with
  | .newline => return (cursor.yield ()).skipComments
  | .semicolon => return (cursor.yield ()).skipComments
  | .rightBrace => return (cursor.yield ()).skipComments
  | _ => .error (cursor.skipComments.unexpected .endOfLine)

/-- The sense that a keyword opens an objective with. -/
def senseOf? : TokenKind → Option Linear.Sense
  | .maximize => some .max
  | .minimize => some .min
  | _ => none

/-- The relation that a token stands for. -/
def relationOf? : TokenKind → Option Linear.Relation
  | .le => some .le
  | .ge => some .ge
  | .eq => some .eq
  | _ => none

/-- The expression of an objective whose keyword was read. -/
def readObjective {limit : Nat} (sense : Linear.Sense) (keyword : Parsed Token limit) :
    Except ParseError (Parsed (Objective α) limit) := do
  let expression ← readSum keyword.next
  let span := ⟨keyword.value.span.start, expression.next.stop⟩
  return keyword.followedBy (expression.map (Objective.mk span sense))

/-- The label of a constraint: a name that a colon follows.  Without the colon
the name is part of the left side, so nothing is read. -/
def readLabel (cursor : Cursor) : Parsed (Option String) (cursor.size + 1) :=
  match cursor.take? with
  | none => cursor.yield none
  | some name =>
    match name.next.take? with
    | none => cursor.yield none
    | some colon =>
      if name.value.kind = .identifier ∧ colon.value.kind = .colon then
        (name.followedBy (colon.map fun _ => some name.value.text)).relax
      else cursor.yield none

/-- Where the next token begins. -/
def Cursor.start (cursor : Cursor) : Nat :=
  match cursor.rest with
  | token :: _ => token.span.start
  | [] => 0

/-- A constraint: an optional label and two expressions with a relation
between them. -/
def readDeclaration (cursor : Cursor) :
    Except ParseError (Parsed (Declaration α) cursor.size) := do
  let label := readLabel cursor
  let left ← readSum label.next
  match left.next.takeAfterComments? with
  | none => .error .unexpectedEnd
  | some token =>
    match relationOf? token.value.kind with
    | none => .error (left.next.skipComments.unexpected .relation)
    | some relation => do
      let right ← readSum token.next
      let span := ⟨cursor.start, right.next.stop⟩
      return label.leadingTo (left.followedBy (token.followedBy (right.map fun expression =>
        ⟨span, label.value, left.value, relation, expression⟩)))

/-- The statements of a linear model, up to its closing brace. -/
def readStatements (model : LinearModel α) (cursor : Cursor) :
    Except ParseError (Parsed (LinearModel α) cursor.size) :=
  match cursor.takeAfterBreaks? with
  | none => .error .unexpectedEnd
  | some token =>
    if token.value.kind = .rightBrace then
      return token.map fun brace =>
        { model with span := ⟨model.span.start, brace.span.stop⟩ }
    else match senseOf? token.value.kind with
    | some sense => do
      let objective ← readObjective sense token
      if model.objective.isSome then
        .error (.duplicateObjective model.name objective.value.span)
      else
        let ended ← readStatementEnd objective.next
        let all ← readStatements { model with objective := some objective.value } ended.next
        return objective.followedBy (ended.leadingTo all)
    | none => do
      let declaration ← readDeclaration cursor.skipBreaks
      let ended ← readStatementEnd declaration.next
      let all ← readStatements
        { model with constraints := model.constraints ++ [declaration.value] } ended.next
      return (declaration.followedBy (ended.leadingTo all)).widen cursor.size_skipBreaks_le
termination_by cursor.size
decreasing_by
  · exact Nat.lt_of_le_of_lt (Nat.le_of_lt_succ ended.within) objective.within
  · exact Nat.lt_of_le_of_lt (Nat.le_of_lt_succ ended.within)
      (Nat.lt_of_lt_of_le declaration.within cursor.size_skipBreaks_le)

/-- The opening of a model: its keyword, its name and a brace.  The answer
holds the place of the keyword and the name. -/
def readOpening (keyword : TokenKind) (cursor : Cursor) :
    Except ParseError (Parsed (Span × String) cursor.size) := do
  let opened ← cursor.expect keyword
  let name ← opened.next.expect .identifier
  let brace ← name.next.expect .leftBrace
  return opened.followedBy
    (name.followedBy (brace.map fun _ => (opened.value.span, name.value.text)))

def readLinearModel (cursor : Cursor) :
    Except ParseError (Parsed (LinearModel α) cursor.size) := do
  let opening ← readOpening .lp cursor
  let model ← readStatements ⟨opening.value.1, opening.value.2, none, []⟩ opening.next
  return opening.followedBy model

/-! ## Models of data -/

/-- Fill a section that may be given once.  The first of two is kept and the
second one is the fault. -/
def fillOnce {β : Type} (heading : Token) (slot : Option β) (value : β) :
    Except ParseError (Option β) :=
  if slot.isSome then .error (.duplicateSection heading.text heading.span) else .ok (some value)

/-- The section of an assignment model whose heading was read. -/
def readAssignmentSection [Neg α] (model : AssignmentModel α) (heading : Token)
    (cursor : Cursor) : Except ParseError (Parsed (AssignmentModel α) cursor.size) :=
  if heading.text = "rows" then do
    let labels ← readLabelList cursor
    let rows ← fillOnce heading model.rows labels.value
    return labels.map fun _ => { model with rows }
  else if heading.text = "cols" ∨ heading.text = "columns" then do
    let labels ← readLabelList cursor
    let columns ← fillOnce heading model.columns labels.value
    return labels.map fun _ => { model with columns }
  else if heading.text = "costs" then do
    let table ← readTable cursor
    let costs ← fillOnce heading model.costs table.value
    return table.map fun _ => { model with costs }
  else .error (.unknownSection heading.text ["rows", "cols", "costs"] heading.span)

/-- The section of a transport model whose heading was read. -/
def readTransportSection [Neg α] (model : TransportModel α) (heading : Token)
    (cursor : Cursor) : Except ParseError (Parsed (TransportModel α) cursor.size) :=
  if heading.text = "sources" then do
    let labels ← readLabelList cursor
    let sources ← fillOnce heading model.sources labels.value
    return labels.map fun _ => { model with sources }
  else if heading.text = "destinations" then do
    let labels ← readLabelList cursor
    let destinations ← fillOnce heading model.destinations labels.value
    return labels.map fun _ => { model with destinations }
  else if heading.text = "supply" then do
    let amounts ← readNumberList cursor
    let supply ← fillOnce heading model.supply amounts.value
    return amounts.map fun _ => { model with supply }
  else if heading.text = "demand" then do
    let amounts ← readNumberList cursor
    let demand ← fillOnce heading model.demand amounts.value
    return amounts.map fun _ => { model with demand }
  else if heading.text = "costs" then do
    let table ← readTable cursor
    let costs ← fillOnce heading model.costs table.value
    return table.map fun _ => { model with costs }
  else
    .error (.unknownSection heading.text
      ["sources", "destinations", "supply", "demand", "costs"] heading.span)

/-- Read sections up to the closing brace, which is part of the answer.  Each
one has a heading, perhaps a colon, and a body that `readSection` reads. -/
def readSections {β : Type}
    (readSection : β → Token → (body : Cursor) → Except ParseError (Parsed β body.size))
    (model : β) (cursor : Cursor) : Except ParseError (Parsed (β × Token) cursor.size) :=
  match cursor.takeAfterBreaks? with
  | none => .error .unexpectedEnd
  | some token =>
    if token.value.kind = .rightBrace then return token.map fun brace => (model, brace)
    else do
      let heading ← cursor.expect .identifier
      let filled ← readSection model heading.value (heading.skipOne .colon).next
      let all ← readSections readSection filled.value filled.next
      return (heading.skipOne .colon).followedBy (filled.followedBy all)
termination_by cursor.size
decreasing_by exact Nat.lt_trans filled.within (heading.skipOne .colon).within

def readAssignmentModel [Neg α] (cursor : Cursor) :
    Except ParseError (Parsed (AssignmentModel α) cursor.size) := do
  let opening ← readOpening .assignment cursor
  let empty : AssignmentModel α := ⟨opening.value.1, opening.value.2, none, none, none⟩
  let filled ← readSections readAssignmentSection empty opening.next
  return opening.followedBy (filled.map fun (model, brace) =>
    { model with span := ⟨model.span.start, brace.span.stop⟩ })

def readTransportModel [Neg α] (cursor : Cursor) :
    Except ParseError (Parsed (TransportModel α) cursor.size) := do
  let opening ← readOpening .transport cursor
  let empty : TransportModel α :=
    ⟨opening.value.1, opening.value.2, none, none, none, none, none⟩
  let filled ← readSections readTransportSection empty opening.next
  return opening.followedBy (filled.map fun (model, brace) =>
    { model with span := ⟨model.span.start, brace.span.stop⟩ })

/-! ## Programs -/

/-- One model, told by its keyword.  Each kind of model has a reader of its own
for what stands between the braces. -/
def readItem [Neg α] (cursor : Cursor) : Except ParseError (Parsed (Item α) cursor.size) :=
  match cursor.kind with
  | .lp => (readLinearModel cursor).map fun model => model.map .lp
  | .assignment => (readAssignmentModel cursor).map fun model => model.map .assignment
  | .transport => (readTransportModel cursor).map fun model => model.map .transport
  | _ => .error (cursor.unexpected .model)

/-- The models up to the end of the text. -/
def readItems [Neg α] (cursor : Cursor) : Except ParseError (List (Item α)) :=
  if cursor.skipBreaks.kind = .endOfFile then return []
  else do
    let item ← readItem cursor.skipBreaks
    let others ← readItems item.next
    return item.value :: others
termination_by cursor.size
decreasing_by exact Nat.lt_of_lt_of_le item.within cursor.size_skipBreaks_le

/-- The program that tokens write.  It is read to the end: a fault behind the
last model is a fault of the program. -/
def Program.ofTokens [Neg α] (tokens : List Token) : Except ParseError (Program α) :=
  (readItems ⟨0, tokens⟩).map Program.mk

/-- The program that a text writes.  The reader sees a text only as its tokens,
comments among them, so that a fault is a place among tokens too. -/
def parse [Neg α] (source : String) : Except ParseError (Program α) :=
  Program.ofTokens (tokenize source)

end Language
end Optimum
