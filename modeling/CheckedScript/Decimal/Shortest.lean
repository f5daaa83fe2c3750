import CheckedScript.Decimal.Unpacked

/-!
# Shortest decimals

The shortest decimal of a binary number has the fewest digits among those that
are nearer to it than to any other binary number, and is the nearest of them.
Decimals with one digit, two digits and so on form grids around the number; on
each grid only the two neighbours of the number have to be tried.  All
comparisons are made between natural numbers over one denominator.
-/

namespace CheckedScript

namespace Decimal

/-- The decimal `digits · 10 ^ exponent`. -/
structure Scaled where
  digits : Nat
  exponent : Int
  deriving DecidableEq, Repr

/-- A value and the ends of the interval of reals that round to it, over one
denominator. -/
structure Interval where
  lower : Nat
  value : Nat
  upper : Nat
  denominator : Nat
  /-- Whether the ends belong to the interval. -/
  closed : Bool
  deriving DecidableEq, Repr

namespace Interval

/-- The reals that round to a binary number.  Halfway points go to the number
with the even significand. -/
def ofBinary (magnitude : Binary) : Interval :=
  let unit := Nat.pow 2 magnitude.exponent.toNat
  let value := 4 * magnitude.significand * unit
  { lower := value - (if magnitude.lowerGapIsHalf then unit else 2 * unit)
    value := value
    upper := value + 2 * unit
    denominator := 4 * Nat.pow 2 (-magnitude.exponent).toNat
    closed := magnitude.significand % 2 = 0 }

/-- The interval divided by a power of ten. -/
def scale (interval : Interval) (exponent : Int) : Interval :=
  let factor := Nat.pow 10 (-exponent).toNat
  { lower := interval.lower * factor
    value := interval.value * factor
    upper := interval.upper * factor
    denominator := interval.denominator * Nat.pow 10 exponent.toNat
    closed := interval.closed }

/-- Whether a natural number lies in the interval. -/
def holds (interval : Interval) (number : Nat) : Bool :=
  let point := number * interval.denominator
  if interval.closed then
    interval.lower ≤ point && point ≤ interval.upper
  else
    interval.lower < point && point < interval.upper

/-- Of the two natural numbers around the value, the nearest that lies in the
interval; of two equally near ones, the even one. -/
def neighbour? (interval : Interval) : Option Nat :=
  let below := interval.value / interval.denominator
  let above := below + 1
  let belowGap := interval.value - below * interval.denominator
  let aboveGap := above * interval.denominator - interval.value
  match interval.holds below && below ≠ 0, interval.holds above with
  | false, false => none
  | true, false => some below
  | false, true => some above
  | true, true =>
      if belowGap < aboveGap then some below
      else if aboveGap < belowGap then some above
      else if below % 2 = 0 then some below
      else some above

/-- The exponent of the leading decimal digit of the value.  No positive value
is below `10 ^ -350`. -/
def leadingExponent (interval : Interval) : Int :=
  let shifted := interval.value * Nat.pow 10 350 / interval.denominator
  ((Nat.toDigits 10 shifted).length : Int) - 351

end Interval

/-- Remove zeros at the end of the digits. -/
def Scaled.trim : Nat → Scaled → Scaled
  | 0, scaled => scaled
  | fuel + 1, scaled =>
      if scaled.digits % 10 = 0 && scaled.digits ≠ 0 then
        trim fuel { digits := scaled.digits / 10, exponent := scaled.exponent + 1 }
      else
        scaled

/-- Try the grids whose finest digit has the given exponents, in order. -/
def firstOnGrids (interval : Interval) : List Int → Option Scaled
  | [] => none
  | exponent :: exponents =>
      match (interval.scale exponent).neighbour? with
      | some digits => some { digits := digits, exponent := exponent }
      | none => firstOnGrids interval exponents

/-- The shortest decimal of a binary number.  Seventeen digits always suffice;
zero is written with one digit. -/
def shortest (magnitude : Binary) : Scaled :=
  if magnitude.significand = 0 then
    { digits := 0, exponent := 0 }
  else
    let interval := Interval.ofBinary magnitude
    let leading := interval.leadingExponent
    let exponents := (List.range 17).map fun (position : Nat) => leading - (position : Int)
    match firstOnGrids interval exponents with
    | some scaled => Scaled.trim 20 scaled
    | none => { digits := 0, exponent := 0 }

end Decimal

end CheckedScript
