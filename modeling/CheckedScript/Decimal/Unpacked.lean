/-!
# Floating-point numbers as exact values

A finite floating-point number is a sign, a significand and a power of two.
All exact questions about a number are asked of this form.
-/

namespace CheckedScript

namespace Decimal

/-- The value `significand · 2 ^ exponent`.  When `lowerGapIsHalf` holds, the
next smaller number is only half as far away as the next larger one. -/
structure Binary where
  significand : Nat
  exponent : Int
  lowerGapIsHalf : Bool
  deriving DecidableEq, Repr

/-- A floating-point number taken apart. -/
inductive Unpacked where
  | notANumber
  | infinite (negative : Bool)
  | finite (negative : Bool) (magnitude : Binary)
  deriving DecidableEq, Repr

namespace Unpacked

/-- Take apart the 64 bits of a number: a sign, eleven bits of exponent and
fifty-two bits of fraction. -/
def ofBits (bits : Nat) : Unpacked :=
  let negative := bits / Nat.pow 2 63 % 2 = 1
  let scale : Nat := bits / Nat.pow 2 52 % Nat.pow 2 11
  let fraction : Nat := bits % Nat.pow 2 52
  if scale = Nat.pow 2 11 - 1 then
    if fraction = 0 then .infinite negative else .notANumber
  else if scale = 0 then
    .finite negative
      { significand := fraction, exponent := -1074, lowerGapIsHalf := false }
  else
    .finite negative
      { significand := Nat.pow 2 52 + fraction
        exponent := (scale : Int) - 1075
        lowerGapIsHalf := fraction = 0 && scale > 1 }

/-- Take apart a number. -/
def ofFloat (number : Float) : Unpacked :=
  ofBits number.toBits.toNat

end Unpacked

namespace Binary

/-- The magnitude as a whole number, if it is one. -/
def whole? (magnitude : Binary) : Option Nat :=
  if 0 ≤ magnitude.exponent then
    some (magnitude.significand * Nat.pow 2 magnitude.exponent.toNat)
  else
    let divisor := Nat.pow 2 (-magnitude.exponent).toNat
    if magnitude.significand % divisor = 0 then
      some (magnitude.significand / divisor)
    else
      none

end Binary

end Decimal

end CheckedScript
