import Optimum.Language.Program

namespace Optimum
namespace Language

/-!
# Why a text is not a program

The causes, with the place where each was noticed.  A text that ends too early
has no place to point at.
-/

/-- What could have stood where something else was found.  Messages show it in
words, so one case may stand for several classes. -/
inductive Expectation
  | token (kind : TokenKind)
  | model
  | endOfLine
  | relation
  | label
  | number
  | operand
  deriving DecidableEq, Repr

def Expectation.text : Expectation → String
  | .token kind => kind.name
  | .model => "lp, assignment, or transport"
  | .endOfLine => "end of line"
  | .relation => "<=, >=, or ="
  | .label => "label"
  | .number => "number"
  | .operand => "number, variable, or ("

/-- Alternatives in a sentence, the last one after "or". -/
def alternatives : List String → String
  | [] => ""
  | [last] => "or " ++ last
  | first :: others => first ++ ", " ++ alternatives others

inductive ParseError
  | unexpectedToken (expected : Expectation) (found : TokenKind) (span : Span)
  | unexpectedEnd
  | invalidNumber (text : String) (span : Span)
  | duplicateObjective (model : String) (span : Span)
  | duplicateSection (name : String) (span : Span)
  | unknownSection (name : String) (known : List String) (span : Span)
  deriving DecidableEq, Repr

namespace ParseError

/-- The place of the fault, if it has one.  A text that ends too early has
none. -/
def span? : ParseError → Option Span
  | .unexpectedToken _ _ span => some span
  | .unexpectedEnd => none
  | .invalidNumber _ span => some span
  | .duplicateObjective _ span => some span
  | .duplicateSection _ span => some span
  | .unknownSection _ _ span => some span

def message : ParseError → String
  | .unexpectedToken expected found span =>
    "Unexpected token: expected " ++ expected.text ++ ", found " ++ found.name ++
      " at position Span \x7b start: " ++ toString span.start ++ ", end: " ++
      toString span.stop ++ " \x7d"
  | .unexpectedEnd => "Unexpected end of file"
  | .invalidNumber text _ => "Invalid number: " ++ text
  | .duplicateObjective model _ => "Model " ++ model ++ " has more than one objective"
  | .duplicateSection name _ => "Section " ++ name ++ " appears twice"
  | .unknownSection name known _ =>
    "Unknown section " ++ name ++ "; expected " ++ alternatives known

end ParseError

end Language
end Optimum
