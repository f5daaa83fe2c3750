import CheckedScript.Decimal.Shortest

/-!
# Texts of numbers

A layout says how the digits of a decimal are set: which magnitudes are written
positionally, how an exponent looks and how a whole number ends.  Numbers are
shown in two ways: the plain text of a whole number has all its digits and
nothing else, while the exact text always shows that a number is not an integer
constant by a point or an exponent.
-/

namespace CheckedScript

namespace Decimal

/-- How the digits of a decimal are set. -/
structure Layout where
  /-- The least exponent of the leading digit that is written positionally. -/
  leastPositional : Int
  /-- The greatest exponent of the leading digit that is written positionally. -/
  greatestPositional : Int
  /-- The least number of digits of an exponent. -/
  exponentWidth : Nat
  /-- What follows a whole number. -/
  wholeEnding : String

/-- Positional from four places after the point to sixteen before it; exponents
have a sign and at least two digits; a whole number ends in a zero after the
point. -/
def exactLayout : Layout where
  leastPositional := -4
  greatestPositional := 15
  exponentWidth := 2
  wholeEnding := ".0"

/-- Decimal digits of a natural number. -/
def digitsOf (number : Nat) : List Char :=
  Nat.toDigits 10 number

/-- Digits padded with zeros on the left. -/
def padded (width number : Nat) : List Char :=
  let digits := digitsOf number
  List.replicate (width - digits.length) '0' ++ digits

namespace Layout

/-- An exponent with its sign. -/
def exponentText (layout : Layout) (exponent : Int) : List Char :=
  'e' :: (if exponent < 0 then '-' else '+') :: padded layout.exponentWidth exponent.natAbs

/-- Set a decimal. -/
def set (layout : Layout) (scaled : Scaled) : String :=
  let digits := digitsOf scaled.digits
  let point := (digits.length : Int) + scaled.exponent
  let leading := point - 1
  if layout.leastPositional ≤ leading && leading ≤ layout.greatestPositional then
    if point ≤ 0 then
      "0." ++ String.ofList (List.replicate (-point).toNat '0' ++ digits)
    else if 0 ≤ scaled.exponent then
      String.ofList (digits ++ List.replicate scaled.exponent.toNat '0') ++ layout.wholeEnding
    else
      String.ofList (digits.take point.toNat) ++ "." ++
        String.ofList (digits.drop point.toNat)
  else
    let fraction := digits.drop 1
    let mantissa := if fraction.isEmpty then digits else digits.take 1 ++ '.' :: fraction
    String.ofList (mantissa ++ layout.exponentText leading)

end Layout

/-- A text with a minus sign before it, if negative. -/
def signed (negative : Bool) (text : String) : String :=
  if negative then "-" ++ text else text

/-- The exact text of a number: the shortest decimal that reads back. -/
def exactText (number : Float) : String :=
  match Unpacked.ofFloat number with
  | .notANumber => "nan"
  | .infinite negative => signed negative "inf"
  | .finite negative magnitude => signed negative (exactLayout.set (shortest magnitude))

/-- The plain text of a number: all digits of a whole number, without a sign on
zero, and the exact text of any other. -/
def plainText (number : Float) : String :=
  match Unpacked.ofFloat number with
  | .finite negative magnitude =>
      match magnitude.whole? with
      | some whole =>
          signed (negative && whole ≠ 0) (String.ofList (digitsOf whole))
      | none => exactText number
  | _ => exactText number

end Decimal

end CheckedScript
