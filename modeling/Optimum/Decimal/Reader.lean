import Optimum.Decimal.Binary

namespace Optimum
namespace Decimal

/-!
# Reading decimal literals

A literal is digits with an optional fraction and an optional exponent, or a
fraction alone.  It denotes an exact decimal, and `read?` gives the double
closest to that decimal.
-/

/-- The number written by a list of digits. -/
def digitsValue (digits : List Char) : Nat :=
  digits.foldl (fun value c => 10 * value + (c.toNat - '0'.toNat)) 0

/-- The double closest to `digits * 10 ^ exponent`.  Far outside the range of
doubles the answer is known from the exponent of the first digit, and no
large power is formed. -/
def nearestDecimal (digits : Nat) (exponent : Int) : Float :=
  let leading := exponent + (Nat.toDigits 10 digits).length - 1
  if digits = 0 ∨ leading < -330 then nearest 0 1
  else if 310 < leading then nearest (Nat.pow 2 1024) 1
  else
    let value := scaled digits 10 exponent
    nearest value.1 value.2

/-- An optional exponent that ends a literal: nothing, or a mark, an optional
sign and at least one digit. -/
def readExponent? : List Char → Option Int
  | [] => some 0
  | mark :: rest =>
    if mark = 'e' ∨ mark = 'E' then
      let (negative, digits) := match rest with
        | '-' :: digits => (true, digits)
        | '+' :: digits => (false, digits)
        | digits => (false, digits)
      if digits ≠ [] ∧ digits.all Char.isDigit then
        some (if negative then -(digitsValue digits : Int) else digitsValue digits)
      else none
    else none

/-- The double closest to the decimal that a literal writes.  A text of another
form has no value; the lexer hands on no such text. -/
def read? (text : String) : Option Float :=
  let whole := text.toList.takeWhile Char.isDigit
  let rest := text.toList.dropWhile Char.isDigit
  let (fraction, rest) := match rest with
    | '.' :: rest => (rest.takeWhile Char.isDigit, rest.dropWhile Char.isDigit)
    | rest => ([], rest)
  if whole = [] ∧ fraction = [] then none
  else (readExponent? rest).map fun exponent =>
    nearestDecimal (digitsValue (whole ++ fraction)) (exponent - fraction.length)

end Decimal
end Optimum
