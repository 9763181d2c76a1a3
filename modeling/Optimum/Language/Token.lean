namespace Optimum
namespace Language

/-!
# Tokens

A token is a piece of the source text with its class and its place.  Places
are counted in bytes of the text's UTF-8 form.
-/

/-- A range of byte offsets, `stop` excluded.  The lexer only makes ranges that
end between characters, so they can be cut out of their text. -/
structure Span where
  start : Nat
  stop : Nat
  deriving DecidableEq, Repr, Inhabited

/-- The smallest range that holds both, in whichever order they come. -/
def Span.merge (first second : Span) : Span :=
  ⟨min first.start second.start, max first.stop second.stop⟩

/-- The classes of tokens.  Comments and line ends are tokens too, so that
nothing but blanks is lost between them. -/
inductive TokenKind
  | lp
  | assignment
  | transport
  | maximize
  | minimize
  | identifier
  | number
  | string
  | plus
  | minus
  | star
  | slash
  | le
  | ge
  | eq
  | colon
  | semicolon
  | comma
  | leftBrace
  | rightBrace
  | leftBracket
  | rightBracket
  | leftParen
  | rightParen
  | newline
  | comment
  | endOfFile
  | error
  deriving DecidableEq, Repr, Inhabited

def TokenKind.name : TokenKind → String
  | .lp => "Lp"
  | .assignment => "Assignment"
  | .transport => "Transport"
  | .maximize => "Maximize"
  | .minimize => "Minimize"
  | .identifier => "Ident"
  | .number => "Number"
  | .string => "String"
  | .plus => "Plus"
  | .minus => "Minus"
  | .star => "Star"
  | .slash => "Slash"
  | .le => "Le"
  | .ge => "Ge"
  | .eq => "Eq"
  | .colon => "Colon"
  | .semicolon => "Semicolon"
  | .comma => "Comma"
  | .leftBrace => "LBrace"
  | .rightBrace => "RBrace"
  | .leftBracket => "LBracket"
  | .rightBracket => "RBracket"
  | .leftParen => "LParen"
  | .rightParen => "RParen"
  | .newline => "Newline"
  | .comment => "Comment"
  | .endOfFile => "Eof"
  | .error => "Error"

structure Token where
  kind : TokenKind
  span : Span
  text : String
  deriving DecidableEq, Repr, Inhabited

end Language
end Optimum
