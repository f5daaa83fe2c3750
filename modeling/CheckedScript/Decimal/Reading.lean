/-!
# Decimal literals

The number that a run of decimal digits denotes, with an optional fraction
after a point: the floating-point number nearest to the exact decimal value.
-/

namespace CheckedScript

namespace Decimal

/-- The natural number written by a run of decimal digits. -/
def ofDigits (digits : List Char) : Nat :=
  digits.foldl (fun number digit => 10 * number + (digit.toNat - '0'.toNat)) 0

/-- The number nearest to a decimal literal. -/
def read (literal : List Char) : Float :=
  let whole := literal.takeWhile (· ≠ '.')
  let fraction := (literal.dropWhile (· ≠ '.')).drop 1
  Float.ofScientific (ofDigits (whole ++ fraction)) true fraction.length

end Decimal

end CheckedScript
