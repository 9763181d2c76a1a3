import Optimum.Language.Reading.Expression

namespace Optimum
namespace Language

/-!
# Reading lists and tables

Lists stand in brackets and tables in braces.  Entries may be divided by line
ends, comments and at most one comma.
-/

/-- Pass what divides two entries: breaks and at most one comma. -/
def Parsed.skipDivider {β : Type} {limit : Nat} (parsed : Parsed β limit) : Parsed β limit :=
  parsed.skipBreaks.skipOne .comma

/-- Text without the quotes at its ends. -/
def unquoted (text : String) : String :=
  let opened := text.toList.dropWhile (· = '"')
  String.ofList (opened.reverse.dropWhile (· = '"')).reverse

/-- The label that a token stands for: a name, a number as it is written, or a
string without its quotes. -/
def Token.label? (token : Token) : Option String :=
  match token.kind with
  | .identifier => some token.text
  | .number => some token.text
  | .string => some (unquoted token.text)
  | _ => none

/-- Labels up to the closing bracket. -/
def readLabels (cursor : Cursor) : Except ParseError (Parsed (List String) cursor.size) :=
  match cursor.takeAfterBreaks? with
  | none => .error .unexpectedEnd
  | some token =>
    if token.value.kind = .rightBracket then return token.map fun _ => []
    else match token.value.label? with
    | some label => do
      let others ← readLabels token.skipDivider.next
      return token.skipDivider.followedBy (others.map (label :: ·))
    | none => .error (cursor.skipBreaks.unexpected .label)
termination_by cursor.size
decreasing_by exact token.skipDivider.within

/-- A bracketed list of labels. -/
def readLabelList (cursor : Cursor) :
    Except ParseError (Parsed (List String) cursor.size) := do
  let opened ← cursor.expect .leftBracket
  let labels ← readLabels opened.next
  return opened.followedBy labels

variable {α : Type} [NumberText α]

/-- A number with an optional minus sign. -/
def readSignedNumber [Neg α] (cursor : Cursor) : Except ParseError (Parsed α cursor.size) := do
  let unsigned := cursor.skipOne .minus
  match unsigned.take? with
  | none => .error .unexpectedEnd
  | some token =>
    if token.value.kind = .number then do
      let value ← token.value.number?
      let negative := cursor.kind = .minus
      return (token.map fun _ => if negative then -value else value).widen
        (cursor.size_skipOne_le .minus)
    else .error (unsigned.unexpected .number)

/-- Numbers up to the closing bracket. -/
def readNumbers [Neg α] (cursor : Cursor) :
    Except ParseError (Parsed (List α) cursor.size) :=
  match cursor.takeAfterBreaks? with
  | none => .error .unexpectedEnd
  | some token =>
    if token.value.kind = .rightBracket then return token.map fun _ => []
    else do
      let value ← readSignedNumber cursor.skipBreaks
      let others ← readNumbers value.skipDivider.next
      return (value.skipDivider.followedBy (others.map (value.value :: ·))).widen
        cursor.size_skipBreaks_le
termination_by cursor.size
decreasing_by exact Nat.lt_of_lt_of_le value.skipDivider.within cursor.size_skipBreaks_le

/-- A bracketed list of numbers. -/
def readNumberList [Neg α] (cursor : Cursor) :
    Except ParseError (Parsed (List α) cursor.size) := do
  let opened ← cursor.expect .leftBracket
  let numbers ← readNumbers opened.next
  return opened.followedBy numbers

/-- Rows of a table up to the closing brace. -/
def readRows [Neg α] (cursor : Cursor) :
    Except ParseError (Parsed (List (List α)) cursor.size) :=
  match cursor.takeAfterBreaks? with
  | none => .error .unexpectedEnd
  | some token =>
    if token.value.kind = .rightBrace then return token.map fun _ => []
    else do
      let row ← readNumberList cursor
      let others ← readRows row.skipDivider.next
      return row.skipDivider.followedBy (others.map (row.value :: ·))
termination_by cursor.size
decreasing_by exact row.skipDivider.within

/-- A braced table, one bracketed list per row. -/
def readTable [Neg α] (cursor : Cursor) :
    Except ParseError (Parsed (List (List α)) cursor.size) := do
  let opened ← cursor.expect .leftBrace
  let rows ← readRows opened.next
  return opened.followedBy rows

end Language
end Optimum
