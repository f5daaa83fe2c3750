import Mathlib
import CheckedScript.Evaluation.Evaluate
import CheckedScript.Proofs.Numbers.WholeNumbers

/-!
# Ranges of whole numbers

A range of whole numbers starts at its first bound, goes on in steps of one size and ends before
the second bound: it has as many items as the distance holds steps, a step that does not fit in
counted as one.  This is arithmetic of whole numbers.  Programs count in floating point, where
the same operations are exact as long as the numbers are short, so that a range between bounds
of moderate size has the same items there.
-/

namespace CheckedScript

namespace NumberRange

open WholeNumber

section Items

variable {ν : Type} [Scalar ν]

/-- A range whose items are known up to the index at which it ends. -/
theorem itemsFrom_eq {range : NumberRange ν} {count : Nat} {numbers : Nat → ν}
    (reached : ∀ index < count, range.item? index = some (numbers index))
    (ends : range.item? count = none) (limit : Nat) {index : Nat} (within : index ≤ count) :
    range.itemsFrom limit index =
      (List.range' index (min limit (count - index))).map numbers := by
  induction limit generalizing index with
  | zero => simp [itemsFrom]
  | succ limit inductionHypothesis =>
      rcases Nat.lt_or_eq_of_le within with before | rfl
      · have rest : min (limit + 1) (count - index) = min limit (count - (index + 1)) + 1 := by
          omega
        rw [itemsFrom, reached index before, rest, List.range'_succ, List.map_cons,
          ← inductionHypothesis before]
      · simp [itemsFrom, ends]

theorem items_eq {range : NumberRange ν} {count : Nat} {numbers : Nat → ν}
    (reached : ∀ index < count, range.item? index = some (numbers index))
    (ends : range.item? count = none) (limit : Nat) :
    range.items limit = (List.range (min limit count)).map numbers := by
  rw [items, itemsFrom_eq reached ends limit (Nat.zero_le count), List.range_eq_range',
    Nat.sub_zero]

end Items

section WholeNumbers

variable {range : NumberRange Int}

/-- How many steps the distance between the bounds of a range holds, where a step that does not
fit in counts as well. -/
def count (range : NumberRange Int) : Nat :=
  ⌈((range.stop - range.start : Int) : ℚ) / range.step⌉₊

theorem isValid_iff :
    range.isValid = true ↔
      range.step ≠ 0 ∧
        (range.start = range.stop ∨ range.step.sign = (range.stop - range.start).sign) := by
  have leads : range.isValid =
      if range.step = 0 then false
      else if range.start < range.stop then decide (0 < range.step)
      else if range.stop < range.start then decide (range.step < 0)
      else true := by
    simp [isValid, Scalar.isZero, Scalar.less, Scalar.zero]
  rw [leads]
  by_cases still : range.step = 0
  · simp [still]
  rcases Int.lt_trichotomy range.start range.stop with up | level | down
  · have ahead : (range.stop - range.start).sign = 1 := Int.sign_eq_one_of_pos (by omega)
    simp [still, up, up.ne, ahead, Int.sign_eq_one_iff_pos]
  · simp [still, level]
  · have behind : (range.stop - range.start).sign = -1 := Int.sign_eq_neg_one_of_neg (by omega)
    simp [still, down, down.ne', Int.not_lt.2 down.le, behind, Int.sign_eq_neg_one_iff_neg]

theorem point_eq (range : NumberRange Int) (index : Nat) :
    range.point index = range.start + index * range.step := by
  cases index with
  | zero => simp [point]
  | succ index => rfl

theorem precedesStop_iff {number : Int} :
    range.precedesStop number = true ↔
      (0 < range.step ∧ number < range.stop) ∨ (range.step < 0 ∧ range.stop < number) := by
  simp [precedesStop, Scalar.less, Scalar.zero]

/-- The condition of the loop and the number of steps agree. -/
theorem precedesStop_point_iff (range : NumberRange Int) (index : Nat) :
    range.precedesStop (range.point index) = true ↔ index < range.count := by
  rw [precedesStop_iff, point_eq, count, Nat.lt_ceil]
  rcases Int.lt_trichotomy range.step 0 with down | still | up
  · have downward : (range.step : ℚ) < 0 := by exact_mod_cast down
    rw [lt_div_iff_of_neg downward]
    norm_cast
    omega
  · simp [still]
  · have upward : (0 : ℚ) < range.step := by exact_mod_cast up
    rw [lt_div_iff₀ upward]
    norm_cast
    omega

/-- The items of a range are the points before the number of steps. -/
theorem item?_eq (range : NumberRange Int) (index : Nat) :
    range.item? index =
      if index < range.count then some (range.start + index * range.step) else none := by
  rw [item?, point_eq]
  refine if_congr ?_ rfl rfl
  rw [← point_eq, precedesStop_point_iff]

end WholeNumbers

section FloatingPoint

variable {range : NumberRange Int}

/-- A range of whole numbers in floating point. -/
def float (range : NumberRange Int) : NumberRange Float where
  start := Float.ofInt range.start
  stop := Float.ofInt range.stop
  step := Float.ofInt range.step

/-- A range whose bounds and step leave room for the points in between. -/
structure IsModerate (range : NumberRange Int) : Prop where
  start : |range.start| ≤ 2 ^ 51
  stop : |range.stop| ≤ 2 ^ 51
  step : |range.step| ≤ 2 ^ 51

theorem isShort_of_abs_le {number : Int} (bounded : |number| ≤ 2 ^ 51) : IsShort number := by
  rw [abs_le] at bounded
  unfold IsShort
  omega

namespace IsModerate

variable (moderate : range.IsModerate)
include moderate

theorem precedesStop_float {number : Int} (short : IsShort number) :
    range.float.precedesStop (Float.ofInt number) = range.precedesStop number := by
  have zero : IsShort 0 := by decide
  have step := isShort_of_abs_le moderate.step
  have stop := isShort_of_abs_le moderate.stop
  have up := ofInt_lt zero step
  have down := ofInt_lt step zero
  rw [ofInt_zero] at up down
  simp only [precedesStop, float, Scalar.less, Scalar.zero, up, down, ofInt_lt short stop,
    ofInt_lt stop short]

theorem isValid_float : range.float.isValid = range.isValid := by
  have zero : IsShort 0 := by decide
  have start := isShort_of_abs_le moderate.start
  have step := isShort_of_abs_le moderate.step
  have stop := isShort_of_abs_le moderate.stop
  have up := ofInt_lt zero step
  have down := ofInt_lt step zero
  rw [ofInt_zero] at up down
  have still : (Float.ofInt range.step == (0 : Float)) = decide (range.step = 0) := by
    rw [Bool.eq_iff_iff, decide_eq_true_iff, ← ofInt_zero, ofInt_beq step zero]
  simp only [isValid, float, Scalar.less, Scalar.zero, Scalar.isZero, up, down, still,
    ofInt_lt start stop, ofInt_lt stop start]

/-- No point up to the one that ends the range is too long. -/
theorem short_of_lt_count {index : Nat} (before : index < range.count) :
    range.step ≠ 0 ∧ IsShort (index + 1 : Nat) ∧ IsShort ((index + 1 : Nat) * range.step) ∧
      IsShort (range.start + (index + 1 : Nat) * range.step) := by
  have ahead := (precedesStop_point_iff range index).2 before
  obtain ⟨start, stop, step⟩ := moderate
  rw [abs_le] at start stop step
  have next : ((index + 1 : Nat) : Int) * range.step = index * range.step + range.step := by
    push_cast
    ring
  rw [point_eq, precedesStop_iff] at ahead
  unfold IsShort
  rw [next]
  rcases ahead with ⟨up, lower⟩ | ⟨down, higher⟩
  · have far : (index : Int) ≤ index * range.step :=
      le_mul_of_one_le_right (Int.natCast_nonneg index) up
    refine ⟨up.ne', ?_, ?_, ?_⟩ <;> omega
  · have far : (index : Int) * range.step ≤ -index := by
      have : (index : Int) ≤ index * -range.step :=
        le_mul_of_one_le_right (Int.natCast_nonneg index) (by omega)
      linarith
    refine ⟨down.ne, ?_, ?_, ?_⟩ <;> omega

theorem point_float {index : Nat} (within : index ≤ range.count) :
    range.float.point index = Float.ofInt (range.point index) := by
  cases index with
  | zero => rfl
  | succ index =>
      obtain ⟨moves, shortIndex, shortDistance, shortPoint⟩ := moderate.short_of_lt_count within
      have step := isShort_of_abs_le moderate.step
      have distance : Float.ofNat (index + 1) * Float.ofInt range.step =
          Float.ofInt ((index + 1 : Nat) * range.step) := by
        rw [← ofInt_natCast, ofInt_mul (by omega) moves shortIndex step shortDistance]
      change Float.ofInt range.start + Float.ofNat (index + 1) * Float.ofInt range.step = _
      rw [distance, ofInt_add (isShort_of_abs_le moderate.start) shortDistance shortPoint]
      rfl

theorem isShort_point {index : Nat} (within : index ≤ range.count) :
    IsShort (range.point index) := by
  cases index with
  | zero => exact isShort_of_abs_le moderate.start
  | succ index =>
      rw [point_eq]
      exact (moderate.short_of_lt_count within).2.2.2

/-- Up to the end of the range, floating point computes the items of whole numbers. -/
theorem item?_float {index : Nat} (within : index ≤ range.count) :
    range.float.item? index = (range.item? index).map Float.ofInt := by
  rw [item?, item?, moderate.point_float within,
    moderate.precedesStop_float (moderate.isShort_point within)]
  split <;> rfl

theorem items_float (limit : Nat) :
    range.float.items limit =
      (List.range (min limit range.count)).map fun index : Nat =>
        Float.ofInt (range.start + index * range.step) := by
  have reached : ∀ index < range.count,
      range.float.item? index = some (Float.ofInt (range.start + index * range.step)) := by
    intro index before
    rw [moderate.item?_float before.le, item?_eq, if_pos before, Option.map_some]
  have ends : range.float.item? range.count = none := by
    rw [moderate.item?_float (Nat.le_refl _), item?_eq, if_neg (Nat.lt_irrefl _),
      Option.map_none]
  exact items_eq reached ends limit

end IsModerate

/-- In a valid range the steps lead along the distance, so that none is counted backwards. -/
theorem natCast_count (valid : range.isValid = true) :
    (range.count : Int) = ⌈((range.stop - range.start : Int) : ℚ) / range.step⌉ := by
  refine Int.natCast_ceil_eq_ceil ?_
  obtain ⟨moves, level | along⟩ := isValid_iff.1 valid
  · simp [level]
  · rcases Int.lt_or_gt_of_ne moves with down | up
    · rw [Int.sign_eq_neg_one_of_neg down] at along
      have behind := Int.sign_eq_neg_one_iff_neg.1 along.symm
      exact div_nonneg_of_nonpos (by exact_mod_cast behind.le) (by exact_mod_cast down.le)
    · rw [Int.sign_eq_one_of_pos up] at along
      have ahead := Int.sign_eq_one_iff_pos.1 along.symm
      exact div_nonneg (by exact_mod_cast ahead.le) (by exact_mod_cast up.le)

section Between

variable {start stop : Int}

theorem between_eq (start stop : Int) :
    between start stop =
      { start := start, stop := stop, step := if start ≤ stop then 1 else -1 } := by
  simp [between, Scalar.lessEqual, Scalar.one, Scalar.negativeOne]

theorem float_between (short : IsShort start) (shortToo : IsShort stop) :
    between (Float.ofInt start) (Float.ofInt stop) = (between start stop).float := by
  rw [between_eq]
  simp only [between, float, Scalar.lessEqual, Scalar.one, Scalar.negativeOne,
    ofInt_le short shortToo, decide_eq_true_iff]
  split <;> simp

theorem moderate_between (boundedStart : |start| ≤ 2 ^ 51) (boundedStop : |stop| ≤ 2 ^ 51) :
    (between start stop).IsModerate := by
  rw [between_eq]
  refine ⟨boundedStart, boundedStop, ?_⟩
  dsimp only
  split <;> decide

/-- The step of a range between two bounds leads from the one to the other. -/
theorem step_between (apart : start ≠ stop) :
    (between start stop).step = (stop - start).sign := by
  rw [between_eq]
  rcases Int.lt_or_gt_of_ne apart with up | down
  · rw [Int.sign_eq_one_of_pos (by omega)]
    exact if_pos up.le
  · rw [Int.sign_eq_neg_one_of_neg (by omega)]
    exact if_neg (Int.not_le.2 down)

theorem isValid_between (start stop : Int) : (between start stop).isValid = true := by
  rw [isValid_iff]
  by_cases level : start = stop
  · subst level
    simp [between_eq]
  · have moves : (stop - start).sign ≠ 0 := by
      rw [Ne, Int.sign_eq_zero_iff_zero]
      omega
    rw [step_between level]
    exact ⟨moves, .inr Int.sign_sign⟩

theorem count_between (start stop : Int) : (between start stop).count = (stop - start).natAbs := by
  rw [between_eq, count]
  by_cases up : start ≤ stop
  · have distance : ((stop - start : Int) : ℚ) = ((stop - start).natAbs : ℚ) := by
      rw [← Int.cast_natCast]
      congr 1
      omega
    simp only [up, ↓reduceIte, Int.cast_one, div_one, distance, Nat.ceil_natCast]
  · have distance : ((stop - start : Int) : ℚ) = -((stop - start).natAbs : ℚ) := by
      rw [← Int.cast_natCast, ← Int.cast_neg]
      congr 1
      omega
    simp only [up, ↓reduceIte, Int.cast_neg, Int.cast_one, div_neg, div_one, distance, neg_neg,
      Nat.ceil_natCast]

end Between

end FloatingPoint

/-- Between short whole numbers a range is half-open, and no value is skipped or repeated. -/
theorem whole_ranges_are_half_open (start stop step : Int) (boundedStart : |start| ≤ 2 ^ 51)
    (boundedStop : |stop| ≤ 2 ^ 51) (boundedStep : |step| ≤ 2 ^ 51) :
    let range : NumberRange Float :=
      { start := Float.ofInt start, stop := Float.ofInt stop, step := Float.ofInt step }
    let straight := between (Float.ofInt start) (Float.ofInt stop)
    (range.isValid = true ↔ step ≠ 0 ∧ (start = stop ∨ step.sign = (stop - start).sign)) ∧
      (range.isValid = true → ∃ count : Nat,
        (count : Int) = ⌈((stop - start : Int) : ℚ) / step⌉ ∧
        (∀ limit, range.items limit =
          (List.range (min limit count)).map fun index : Nat =>
            Float.ofInt (start + index * step)) ∧
        ∀ index < count,
          (0 < step ∧ start + index * step < stop) ∨ (step < 0 ∧ stop < start + index * step)) ∧
      straight.isValid = true ∧
      ∀ limit, straight.items limit =
        (List.range (min limit (stop - start).natAbs)).map fun index : Nat =>
          Float.ofInt (start + index * (stop - start).sign) := by
  intro range straight
  let whole : NumberRange Int := { start := start, stop := stop, step := step }
  have moderate : whole.IsModerate := ⟨boundedStart, boundedStop, boundedStep⟩
  have checked : range.isValid = whole.isValid := moderate.isValid_float
  refine ⟨by rw [checked, isValid_iff], fun valid => ?_, ?_⟩
  · rw [checked] at valid
    refine ⟨whole.count, natCast_count valid, moderate.items_float, fun index before => ?_⟩
    have ahead := (precedesStop_point_iff whole index).2 before
    rwa [point_eq, precedesStop_iff] at ahead
  · have moderateBetween := moderate_between boundedStart boundedStop
    have same : straight = (between start stop).float :=
      float_between (isShort_of_abs_le boundedStart) (isShort_of_abs_le boundedStop)
    rw [same, moderateBetween.isValid_float]
    refine ⟨isValid_between start stop, fun limit => ?_⟩
    rw [moderateBetween.items_float, count_between]
    refine List.map_congr_left fun index before => ?_
    have apart : start ≠ stop := by
      have inside := List.mem_range.1 before
      omega
    rw [step_between apart, between_eq]

/-- From 7 down to -4 in steps of three there are four numbers. -/
theorem whole_ranges_are_half_open_down :
    let range : NumberRange Float :=
      { start := Float.ofInt 7, stop := Float.ofInt (-4), step := Float.ofInt (-3) }
    |(7 : Int)| ≤ 2 ^ 51 ∧ |(-4 : Int)| ≤ 2 ^ 51 ∧ |(-3 : Int)| ≤ 2 ^ 51 ∧
      range.isValid = true ∧
      range.items 10 = [Float.ofInt 7, Float.ofInt 4, Float.ofInt 1, Float.ofInt (-2)] := by
  intro range
  obtain ⟨valid, steps, -⟩ :=
    whole_ranges_are_half_open 7 (-4) (-3) (by decide) (by decide) (by decide)
  have isValid : range.isValid = true := valid.2 (by decide)
  obtain ⟨count, ceiling, items, -⟩ := steps isValid
  have four : count = 4 := by
    norm_num at ceiling
    exact_mod_cast ceiling
  refine ⟨by decide, by decide, by decide, isValid, ?_⟩
  rw [items, four]
  rfl

end NumberRange

namespace Eval

open Evaluation WholeNumber NumberRange

variable {natives : List Native} {fuel : Nat} {frame : FrameId} {name : String} {body : Block}

/-- A block executed for one item after the other, each bound in a frame of its own. -/
def turns (natives : List Native) : Nat → FrameId → String → Block → List Float → Eval Value
  | 0, _, _, _, _ => throw .exhausted
  | _ + 1, _, _, _, [] => return .unit
  | fuel + 1, frame, name, body, item :: items => do
      let inner ← nest frame
      define inner [(name, .number item)]
      let _ ← executeBlock natives fuel inner body
      turns natives fuel frame name body items

/-- A loop takes its turns for the items of the range. -/
theorem repeatFor_eq_turns (range : NumberRange Float) (index : Nat) :
    repeatFor natives fuel frame name range index body =
      turns natives fuel frame name body (range.itemsFrom fuel index) := by
  induction fuel generalizing index with
  | zero => rfl
  | succ fuel inductionHypothesis =>
      rw [repeatFor, itemsFrom]
      cases range.item? index with
      | none => rfl
      | some item => rw [turns, ← inductionHypothesis]

/-- A loop over whole numbers takes one turn for each of them. -/
theorem repeatFor_float {range : NumberRange Int} (moderate : range.IsModerate) :
    repeatFor natives fuel frame name range.float 0 body =
      turns natives fuel frame name body
        ((List.range (min fuel range.count)).map fun index : Nat =>
          Float.ofInt (range.start + index * range.step)) :=
  (repeatFor_eq_turns range.float 0).trans
    (congrArg (turns natives fuel frame name body) (moderate.items_float fuel))

/-- A loop between whole numbers is never refused if its step is left out. -/
theorem loopRange_between {start stop : Int} (boundedStart : |start| ≤ 2 ^ 51)
    (boundedStop : |stop| ≤ 2 ^ 51) (token : Token) :
    loopRange token (.number (Float.ofInt start)) (.number (Float.ofInt stop)) none =
      .ok (between start stop).float := by
  have valid : (between start stop).float.isValid = true := by
    rw [(moderate_between boundedStart boundedStop).isValid_float, isValid_between]
  have same : between (Float.ofInt start) (Float.ofInt stop) = (between start stop).float :=
    float_between (isShort_of_abs_le boundedStart) (isShort_of_abs_le boundedStop)
  change (if (between (Float.ofInt start) (Float.ofInt stop)).isValid then _ else _) = _
  rw [same]
  exact if_pos valid

end Eval

end CheckedScript
