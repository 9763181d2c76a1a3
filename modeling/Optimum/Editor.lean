import Optimum.Answer.Outcome

namespace Optimum
namespace Editor

open Optimum.Language

/-!
# What an editor asks

Diagnostics for a text, the classes of its tokens for display, and the answer
to one of its models.  Diagnostics look at each model by itself, so that one
fault does not hide another.
-/

/-- A fault with the place to mark and the way to mark it.  The message is the
one that the fault has everywhere else. -/
structure Diagnostic where
  span : Span
  severity : String
  message : String
  deriving DecidableEq, Repr

/-- The diagnostic of a fault.  There are no milder ones: what an editor notes
keeps a text from being read or a model from being solved. -/
def Diagnostic.error (span : Span) (message : String) : Diagnostic :=
  ⟨span, "error", message⟩

/-- The class in which a token is displayed, if it is displayed in one.
Brackets and separators are not. -/
def tokenClass? : TokenKind → Option String
  | .lp | .assignment | .transport | .maximize | .minimize => some "keyword"
  | .identifier => some "variable"
  | .number => some "number"
  | .string => some "string"
  | .comment => some "comment"
  | .plus | .minus | .star | .slash | .le | .ge | .eq => some "operator"
  | _ => none

/-- The places of the displayed tokens with their classes. -/
def highlights (source : String) : List (Span × String) :=
  (tokenize source).filterMap fun token =>
    (tokenClass? token.kind).map fun tokenClass => (token.span, tokenClass)

variable {α : Type} [Scalar α] [NumberText α]

/-- The diagnostic of a model, where `seen` are the names of the models before
it.  A model whose name is taken is not compiled: it could not be asked for. -/
def itemDiagnostic? (seen : List String) (item : Item α) : Option Diagnostic :=
  if seen.contains item.name then
    some (.error item.span ("Duplicate model definition: '" ++ item.name ++ "'"))
  else match Model.compileAlone item with
  | .ok _ => none
  | .error cause => some (.error item.span cause.message)

/-- The diagnostics of models after those with the names seen. -/
def itemDiagnostics (seen : List String) : List (Item α) → List Diagnostic
  | [] => []
  | item :: others =>
    (itemDiagnostic? seen item).toList ++ itemDiagnostics (item.name :: seen) others

/-- The diagnostics of a text.  A text that is no program has one, at the place
of the fault or on all of the text. -/
def diagnostics (α : Type) [Scalar α] [NumberText α] (source : String) : List Diagnostic :=
  match (parse source : Except ParseError (Program α)) with
  | .error cause => [.error (cause.span?.getD ⟨0, source.utf8ByteSize⟩) cause.message]
  | .ok program => itemDiagnostics [] program.items

/-- The method that an editor asks for.  An empty name asks for none, as a form
without a choice sends it. -/
def chosenMethod (name : Option String) : Except String (Option Model.Method) :=
  match name with
  | none => .ok none
  | some name =>
    if name.isEmpty then .ok none
    else match Model.Method.ofName? name with
    | some method => .ok (some method)
    | none => .error (Model.Method.unknownNameMessage name)

/-- The answer to a model of a text, or the sentence that says why there is
none. -/
def solve {α : Type} [PlaneScalar α] [NumberText α] (source model : String)
    (method : Option String) (balance : Bool) : Except String (Model.Outcome α) := do
  let method ← chosenMethod method
  (Model.solveSource source model method balance).mapError Model.CompileError.message

end Editor
end Optimum
