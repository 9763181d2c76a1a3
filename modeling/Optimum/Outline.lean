import Optimum.Answer.Program

namespace Optimum

/-!
# Outlines

A second way to show a program, for reading rather than for other programs:
every part on a line of its own, under its name, with four spaces for each
level and a comma after each part.
-/

inductive Outline
  | atom (text : String)
  | named (name : String) (fields : List (String × Outline))
  | wrapped (name : String) (contents : Outline)
  | list (items : List Outline)
  deriving Inhabited

namespace Outline

/-- How an outline shows a double: with a fraction, and without an exponent
from a ten-thousandth up to ten quadrillions. -/
def numberStyle : Decimal.Style where
  tie := .up
  positional := fun leading => -4 ≤ leading ∧ leading < 16
  pointed := true
  positiveExponent := ""

/-- Lines between two brackets, or the brackets alone if there are none. -/
def bracketed (opening closing : String) (depth : Nat) (lines : List String) : String :=
  if lines.isEmpty then opening ++ closing
  else
    let start := "\n" ++ Decimal.repeated ' ' (4 * (depth + 1))
    opening ++ String.join (lines.map fun line => start ++ line ++ ",") ++ "\n" ++
      Decimal.repeated ' ' (4 * depth) ++ closing

mutual

/-- The text of an outline at a depth of indentation. -/
def textAt (depth : Nat) : Outline → String
  | .atom text => text
  | .named name fields => bracketed (name ++ " \x7b") "\x7d" depth (fieldTexts (depth + 1) fields)
  | .wrapped name contents => bracketed (name ++ "(") ")" depth [textAt (depth + 1) contents]
  | .list items => bracketed "[" "]" depth (itemTexts (depth + 1) items)

def fieldTexts (depth : Nat) : List (String × Outline) → List String
  | [] => []
  | (name, contents) :: fields =>
    (name ++ ": " ++ textAt depth contents) :: fieldTexts depth fields

def itemTexts (depth : Nat) : List Outline → List String
  | [] => []
  | item :: items => textAt depth item :: itemTexts depth items

end

def text (outline : Outline) : String :=
  outline.textAt 0

def quoted (value : String) : Outline :=
  .atom (Text.quote value)

def number (value : Float) : Outline :=
  .atom (numberStyle.write value)

def count (value : Nat) : Outline :=
  .atom (toString value)

def listOf {β : Type} (outline : β → Outline) (values : List β) : Outline :=
  .list (values.map outline)

def optional {β : Type} (outline : β → Outline) : Option β → Outline
  | some value => .wrapped "Some" (outline value)
  | none => .atom "None"

def table (rows : List (List Float)) : Outline :=
  listOf (listOf number) rows

end Outline

namespace Language

open Outline

def Span.outline (span : Span) : Outline :=
  .named "Span" [("start", count span.start), ("end", count span.stop)]

def Expression.outline : Expression Float → Outline
  | .number value => .wrapped "Number" (.number value)
  | .variable name span =>
    .named "Variable" [("name", quoted name), ("span", span.outline)]
  | .negate inner => .wrapped "Neg" inner.outline
  | .binary left operator right =>
    .named "BinaryOp" [("left", left.outline), ("op", .atom operator.variantName),
      ("right", right.outline)]
  | .parenthesized inner => .wrapped "Paren" inner.outline

def Objective.outline (objective : Objective Float) : Outline :=
  .named "Objective" [("span", objective.span.outline),
    ("sense", .atom (senseVariantName objective.sense)),
    ("expr", objective.expression.outline)]

def Declaration.outline (declaration : Declaration Float) : Outline :=
  .named "ConstraintDecl" [("span", declaration.span.outline),
    ("label", optional quoted declaration.label),
    ("lhs", declaration.left.outline),
    ("relation", .atom declaration.relation.variantName),
    ("rhs", declaration.right.outline)]

def Item.outline : Item Float → Outline
  | .lp model => .wrapped "Lp" (.named "LpModel" [("span", model.span.outline),
      ("name", quoted model.name),
      ("objective", optional Objective.outline model.objective),
      ("constraints", listOf Declaration.outline model.constraints)])
  | .assignment model =>
    .wrapped "Assignment" (.named "AssignmentModel" [("span", model.span.outline),
      ("name", quoted model.name),
      ("rows", optional (listOf quoted) model.rows),
      ("cols", optional (listOf quoted) model.columns),
      ("costs", optional Outline.table model.costs)])
  | .transport model =>
    .wrapped "Transport" (.named "TransportModel" [("span", model.span.outline),
      ("name", quoted model.name),
      ("sources", optional (listOf quoted) model.sources),
      ("destinations", optional (listOf quoted) model.destinations),
      ("supply", optional (listOf number) model.supply),
      ("demand", optional (listOf number) model.demand),
      ("costs", optional Outline.table model.costs)])

def Program.outline (program : Program Float) : Outline :=
  .named "Program" [("items", listOf Item.outline program.items)]

end Language

end Optimum
