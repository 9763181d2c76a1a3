import Optimum.Decimal.Style
import Optimum.Text.Quoted

namespace Optimum

/-!
# Documents

The structured form in which answers leave the library: records with their
fields in order, lists, and plain values.  A number in a document is either a
count, which is whole, or a double.

`Document.json` writes a document as indented JSON.  There a double always
shows a fraction or an exponent, so it can be told from a count, and one that
is not finite becomes `null`.
-/

inductive Document
  | null
  | boolean (value : Bool)
  | count (value : Nat)
  | number (value : Float)
  | text (value : String)
  | list (items : List Document)
  | record (fields : List (String × Document))
  deriving Inhabited

namespace Document

def variant (name : String) (contents : Document) : Document :=
  .record [(name, contents)]

def optional {β : Type} (document : β → Document) : Option β → Document
  | some value => document value
  | none => .null

def listOf {β : Type} (document : β → Document) (values : List β) : Document :=
  .list (values.map document)

def numbers (values : List Float) : Document :=
  listOf .number values

def texts (values : List String) : Document :=
  listOf .text values

def counts (values : List Nat) : Document :=
  listOf .count values

def table (rows : List (List Float)) : Document :=
  listOf numbers rows

/-- How JSON shows a double: without an exponent from a hundred-thousandth up
to ten quadrillions, a half digit going to the even neighbour. -/
def jsonNumber : Decimal.Style where
  tie := .even
  positional := fun leading => -5 ≤ leading ∧ leading < 16
  pointed := true
  positiveExponent := "+"

def indent (depth : Nat) : String :=
  Decimal.repeated ' ' (2 * depth)

/-- Pieces on lines of their own between two brackets. -/
def bracketed (opening closing : String) (depth : Nat) (pieces : List String) : String :=
  if pieces.isEmpty then opening ++ closing
  else
    let line := "\n" ++ indent (depth + 1)
    opening ++ line ++ ("," ++ line).intercalate pieces ++ "\n" ++ indent depth ++ closing

mutual

/-- The JSON text of a document at a depth of indentation.  A value that is not
finite has no JSON text and becomes null. -/
def jsonAt (depth : Nat) : Document → String
  | .null => "null"
  | .boolean value => if value then "true" else "false"
  | .count value => toString value
  | .number value => if value.isFinite then jsonNumber.write value else "null"
  | .text value => Text.quoteJson value
  | .list items => bracketed "[" "]" depth (jsonItems (depth + 1) items)
  | .record fields => bracketed "\x7b" "\x7d" depth (jsonFields (depth + 1) fields)

def jsonItems (depth : Nat) : List Document → List String
  | [] => []
  | item :: items => jsonAt depth item :: jsonItems depth items

def jsonFields (depth : Nat) : List (String × Document) → List String
  | [] => []
  | (name, value) :: fields =>
    (Text.quoteJson name ++ ": " ++ jsonAt depth value) :: jsonFields depth fields

end

/-- The indented JSON text of a document. -/
def json (document : Document) : String :=
  document.jsonAt 0

end Document

end Optimum
