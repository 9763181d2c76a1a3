import Optimum.Language.Token
import Optimum.Text.Classes

namespace Optimum
namespace Language

/-!
# From text to tokens

A token is recognised by its first character, and what follows tells only how
many more characters belong to it.  `munch` answers with the class and that
count, so a token is never empty and its text is a piece of the source by
construction.  Between tokens only blanks are skipped; newlines and comments
are tokens of their own.

Nothing is rejected here: a character that begins no token becomes a token of
the class `error`, and a string or a comment that is not closed ends with its
line or with the text.
-/

/-- The characters that separate tokens without being one.  A line end is not
among them, because it may end a statement. -/
def isBlank (c : Char) : Bool :=
  c = ' ' || c = '\t' || c = '\r'

/-- The characters that names are made of, besides the underscore.  What may
begin a name may also continue it. -/
structure Alphabet where
  isLetter : Char → Bool
  isAlphanumeric : Char → Bool
  isAlphanumeric_of_isLetter : ∀ c, isLetter c = true → isAlphanumeric c = true

namespace Alphabet

/-- Whether a character may begin a name. -/
def startsName (alphabet : Alphabet) (c : Char) : Bool :=
  alphabet.isLetter c || c = '_'

/-- Whether a character may continue a name. -/
def continuesName (alphabet : Alphabet) (c : Char) : Bool :=
  alphabet.isAlphanumeric c || c = '_'

/-- The letters and the numerals of all scripts. -/
def unicode : Alphabet where
  isLetter := Text.isLetter
  isAlphanumeric c := Text.isLetter c || Text.isNumeral c
  isAlphanumeric_of_isLetter _ letter := Bool.or_eq_true_iff.mpr (.inl letter)

end Alphabet

/-- The class of a name: a keyword or an identifier.  Some keywords have a short
and a long form, and all are in small letters. -/
def nameKind (name : List Char) : TokenKind :=
  if name = ['l', 'p'] then .lp
  else if name = "assignment".toList then .assignment
  else if name = "transport".toList then .transport
  else if name = "maximize".toList ∨ name = "max".toList then .maximize
  else if name = "minimize".toList ∨ name = "min".toList then .minimize
  else .identifier

/-! ## How far a token reaches -/

/-- How many characters satisfy the test before one does not.  All reaches count
characters; offsets in bytes are only formed for whole tokens. -/
def reach (test : Char → Bool) (chars : List Char) : Nat :=
  (chars.takeWhile test).length

/-- What a block comment holds after its opening, with the closing mark.
Without one it holds the rest of the text. -/
def blockReach : List Char → Nat
  | '*' :: '/' :: _ => 2
  | _ :: rest => blockReach rest + 1
  | [] => 0

/-- What a string holds after its opening quote, with the closing one.  It ends
with its line at the latest, and the line end stays outside. -/
def stringReach : List Char → Nat
  | '"' :: _ => 1
  | '\n' :: _ => 0
  | _ :: rest => stringReach rest + 1
  | [] => 0

/-- A fraction: a point with at least one digit.  A point alone is no part of a
number. -/
def fractionReach : List Char → Nat
  | '.' :: c :: rest => if c.isDigit then 2 + reach Char.isDigit rest else 0
  | _ => 0

/-- The digits of an exponent with their sign, if there is a digit. -/
def exponentDigits : List Char → Nat
  | c :: rest =>
    if c.isDigit then 1 + reach Char.isDigit rest
    else if c = '+' ∨ c = '-' then
      match reach Char.isDigit rest with
      | 0 => 0
      | count + 1 => count + 2
    else 0
  | [] => 0

/-- An exponent: a mark, an optional sign and at least one digit.  A mark
without digits begins a name of its own. -/
def exponentReach : List Char → Nat
  | c :: rest =>
    if c = 'e' ∨ c = 'E' then
      match exponentDigits rest with
      | 0 => 0
      | count + 1 => count + 2
    else 0
  | [] => 0

/-- A number that begins with a digit, without that digit. -/
def numberReach (chars : List Char) : Nat :=
  let whole := reach Char.isDigit chars
  let fraction := fractionReach (chars.drop whole)
  whole + fraction + exponentReach (chars.drop (whole + fraction))

/-- A number that begins with its point, without the point. -/
def pointedReach (chars : List Char) : Nat :=
  let digits := reach Char.isDigit chars
  digits + exponentReach (chars.drop digits)

/-- Whether the text goes on with a character. -/
def followedBy (test : Char → Bool) : List Char → Bool
  | c :: _ => test c
  | [] => false

/-- The class of the token that begins with `c`, and how many characters of
`rest` belong to it. -/
def munch (alphabet : Alphabet) (c : Char) (rest : List Char) : TokenKind × Nat :=
  match c with
  | '\n' => (.newline, 0)
  | '/' =>
    if followedBy (· = '/') rest then (.comment, reach (· ≠ '\n') rest)
    else if followedBy (· = '*') rest then (.comment, 1 + blockReach (rest.drop 1))
    else (.slash, 0)
  | '"' => (.string, stringReach rest)
  | '+' => (.plus, 0)
  | '-' => (.minus, 0)
  | '*' => (.star, 0)
  | '≤' => (.le, 0)
  | '≥' => (.ge, 0)
  | '<' => if followedBy (· = '=') rest then (.le, 1) else (.error, 0)
  | '>' => if followedBy (· = '=') rest then (.ge, 1) else (.error, 0)
  | '=' => (.eq, if followedBy (· = '=') rest then 1 else 0)
  | ':' => (.colon, 0)
  | ';' => (.semicolon, 0)
  | ',' => (.comma, 0)
  | '{' => (.leftBrace, 0)
  | '}' => (.rightBrace, 0)
  | '[' => (.leftBracket, 0)
  | ']' => (.rightBracket, 0)
  | '(' => (.leftParen, 0)
  | ')' => (.rightParen, 0)
  | _ =>
    if c.isDigit then (.number, numberReach rest)
    else if c = '.' ∧ followedBy Char.isDigit rest then (.number, pointedReach rest)
    else if alphabet.startsName c then
      let more := reach alphabet.continuesName rest
      (nameKind (c :: rest.take more), more)
    else (.error, 0)

/-! ## The tokens of a text -/

/-- The bytes of characters in UTF-8, which all ranges are counted in. -/
def byteCount : List Char → Nat
  | [] => 0
  | c :: rest => c.utf8Size + byteCount rest

/-- The tokens of characters that begin at a byte offset, closed by the token
that marks the end.  A blank is passed alone, and a token with as many
characters as are counted for it, so the recursion is on the characters that are
left. -/
def tokensFrom (alphabet : Alphabet) (position : Nat) : List Char → List Token
  | [] => [⟨.endOfFile, ⟨position, position⟩, ""⟩]
  | c :: rest =>
    if isBlank c then tokensFrom alphabet (position + c.utf8Size) rest
    else
      let found := munch alphabet c rest
      let text := c :: rest.take found.2
      let stop := position + byteCount text
      ⟨found.1, ⟨position, stop⟩, String.ofList text⟩ ::
        tokensFrom alphabet stop (rest.drop found.2)
termination_by chars => chars.length
decreasing_by
  · simp
  · simp only [List.length_cons, List.length_drop]
    omega

/-- The tokens of a text whose names are made of the given characters.  Every
text has tokens: a character that begins none is one by itself. -/
def tokenizeWith (alphabet : Alphabet) (source : String) : List Token :=
  tokensFrom alphabet 0 source.toList

/-- The tokens of a text. -/
def tokenize (source : String) : List Token :=
  tokenizeWith .unicode source

end Language
end Optimum
