import Optimum.Decimal.Shortest

namespace Optimum
namespace Decimal

/-!
# Written forms of a double

`Style` records the decisions of a written form, and `Style.write` applies
them to the shortest digits.  `toPlaces` writes a fixed number of decimal
places of the exact value instead.
-/

/-- The decisions of a written form.  The digits are the same in all forms; only
the point, the exponent and the exceptional values differ. -/
structure Style where
  /-- Where the digits go when two shortest decimals are equally close. -/
  tie : Tie
  /-- Which exponents of the first digit are written without an exponent. -/
  positional : Int → Bool
  /-- Whether a whole number is followed by a point and a zero. -/
  pointed : Bool
  /-- What stands before a positive exponent. -/
  positiveExponent : String

/-- A character written `count` times. -/
def repeated (c : Char) (count : Nat) : String :=
  String.ofList (List.replicate count c)

def sign (negative : Bool) : String :=
  if negative then "-" else ""

/-- Digits without an exponent.  Zeros fill the places between the digits and
the point on either side. -/
def positionalText (pointed : Bool) (decimal : Digits) : String :=
  let digits := Nat.toDigits 10 decimal.digits
  if 0 ≤ decimal.exponent then
    String.ofList digits ++ repeated '0' decimal.exponent.toNat ++ (if pointed then ".0" else "")
  else
    let places := decimal.exponent.natAbs
    if digits.length ≤ places then "0." ++ repeated '0' (places - digits.length) ++ String.ofList digits
    else
      let whole := digits.length - places
      String.ofList (digits.take whole) ++ "." ++ String.ofList (digits.drop whole)

/-- Digits with a point after the first and an exponent. -/
def exponentText (positiveExponent : String) (decimal : Digits) : String :=
  let digits := Nat.toDigits 10 decimal.digits
  let first := String.ofList (digits.take 1)
  let others := String.ofList (digits.drop 1)
  let exponent := decimal.leading
  first ++ (if others.isEmpty then "" else "." ++ others) ++ "e" ++
    (if exponent < 0 then "-" else positiveExponent) ++ toString exponent.natAbs

/-- The written form of a double.  It reads back as the same double, because the
digits are the shortest that do. -/
def Style.write (style : Style) (x : Float) : String :=
  match Parts.of x with
  | .notANumber => "NaN"
  | .infinite negative => sign negative ++ "inf"
  | .finite negative significand exponent =>
    let decimal := shortest style.tie significand exponent
    sign negative ++
      (if style.positional decimal.leading then positionalText style.pointed decimal
      else exponentText style.positiveExponent decimal)

/-- Every digit in its place, however large or small the number.  This is the
form for texts that are read again. -/
def plain : Style where
  tie := .up
  positional := fun _ => true
  pointed := false
  positiveExponent := ""

/-- The exact value rounded to a number of decimal places, an exact half going
to the even neighbour. -/
def toPlaces (places : Nat) (x : Float) : String :=
  match Parts.of x with
  | .notANumber => "NaN"
  | .infinite negative => sign negative ++ "inf"
  | .finite negative significand exponent =>
    let value := scaled significand 2 exponent
    let digits := roundDiv .even (value.1 * Nat.pow 10 places) value.2
    let padded := Nat.toDigits 10 digits
    let padded := List.replicate (places + 1 - padded.length) '0' ++ padded
    let whole := padded.length - places
    sign negative ++ String.ofList (padded.take whole) ++ "." ++ String.ofList (padded.drop whole)

/-- Drop a character wherever it ends a list. -/
def dropTrailing (c : Char) (text : List Char) : List Char :=
  (text.reverse.dropWhile (· = c)).reverse

/-- At most four decimal places, without the zeros and the point that would
end the text, and without a sign on zero. -/
def brief (x : Float) : String :=
  let text := dropTrailing '.' (dropTrailing '0' (toPlaces 4 x).toList)
  if text = ['-', '0'] then "0" else String.ofList text

end Decimal
end Optimum
