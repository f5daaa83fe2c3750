/-!
# Ranges of numbers

A range runs from a start in equal steps and ends before it reaches its stop.
The `k`-th item is computed from the start, so errors of rounding do not add up.
Ranges are defined over any kind of number with the few operations of `Scalar`;
programs use floating-point numbers.
-/

namespace CheckedScript

/-- The operations on numbers that ranges need. -/
class Scalar (ν : Type) where
  zero : ν
  one : ν
  negativeOne : ν
  ofCount : Nat → ν
  add : ν → ν → ν
  multiply : ν → ν → ν
  less : ν → ν → Bool
  lessEqual : ν → ν → Bool
  isZero : ν → Bool

instance : Scalar Float where
  zero := 0
  one := 1
  negativeOne := -1
  ofCount := Float.ofNat
  add := (· + ·)
  multiply := (· * ·)
  less left right := left < right
  lessEqual left right := left ≤ right
  isZero number := number == 0

instance : Scalar Int where
  zero := 0
  one := 1
  negativeOne := -1
  ofCount := Int.ofNat
  add := (· + ·)
  multiply := (· * ·)
  less left right := left < right
  lessEqual left right := left ≤ right
  isZero number := number = 0

/-- Numbers from a start, in equal steps, up to and without a stop. -/
structure NumberRange (ν : Type) where
  start : ν
  stop : ν
  step : ν

namespace NumberRange

variable {ν : Type} [Scalar ν]

/-- The range whose step is one, towards the stop. -/
def between (start stop : ν) : NumberRange ν where
  start := start
  stop := stop
  step := if Scalar.lessEqual start stop then Scalar.one else Scalar.negativeOne

/-- A range is valid if its step is not zero and leads towards the stop. -/
def isValid (range : NumberRange ν) : Bool :=
  if Scalar.isZero range.step then false
  else if Scalar.less range.start range.stop then Scalar.less Scalar.zero range.step
  else if Scalar.less range.stop range.start then Scalar.less range.step Scalar.zero
  else true

/-- Whether a number comes before the stop, in the direction of the step. -/
def precedesStop (range : NumberRange ν) (number : ν) : Bool :=
  (Scalar.less Scalar.zero range.step && Scalar.less number range.stop) ||
    (Scalar.less range.step Scalar.zero && Scalar.less range.stop number)

/-- The number after a count of steps. -/
def point (range : NumberRange ν) : Nat → ν
  | 0 => range.start
  | count + 1 =>
      Scalar.add range.start (Scalar.multiply (Scalar.ofCount (count + 1)) range.step)

/-- The item with a given index, if the range reaches that far once all earlier
items are there. -/
def item? (range : NumberRange ν) (index : Nat) : Option ν :=
  let number := range.point index
  if range.precedesStop number then some number else none

/-- At most `limit` items, from the one with a given index on. -/
def itemsFrom (range : NumberRange ν) : Nat → Nat → List ν
  | 0, _ => []
  | limit + 1, index =>
      match range.item? index with
      | none => []
      | some number => number :: range.itemsFrom limit (index + 1)

/-- At most `limit` items. -/
def items (range : NumberRange ν) (limit : Nat) : List ν :=
  range.itemsFrom limit 0

end NumberRange

end CheckedScript
