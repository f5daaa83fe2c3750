import Mathlib

/-!
# Whole numbers in floating point

The significand of a floating-point number has 53 binary digits.  So a whole number of at most
53 digits is one of them, and sums, products and comparisons of such numbers are exact as long
as the results are as short.

Such a number has one normal form, unless it is zero: its digits are shifted until they fill
the significand, and the exponent takes the shift back.  Operations work on significands that
are shifted in some way or other and then round; rounding leads from any shift to the normal
form, since all digits that it drops are zeros.
-/

namespace CheckedScript

namespace WholeNumber

open Float.Model Float.Model.UnpackedFloat

/-- Whether a whole number has at most 53 binary digits. -/
def IsShort (number : Int) : Prop :=
  number.natAbs < 2 ^ 53

instance (number : Int) : Decidable (IsShort number) :=
  inferInstanceAs (Decidable (number.natAbs < 2 ^ 53))

/-- By how many places the digits of a number are shifted to fill the significand. -/
def room (magnitude : Nat) : Nat :=
  52 - magnitude.log2

/-- The digits of a number, shifted to fill the significand. -/
def significand (magnitude : Nat) : Nat :=
  magnitude * 2 ^ room magnitude

section Magnitudes

variable {magnitude : Nat}

theorem significand_pos (positive : 0 < magnitude) : 0 < significand magnitude :=
  Nat.mul_pos positive (Nat.two_pow_pos _)

theorem log2_le (short : magnitude < 2 ^ 53) : magnitude.log2 ≤ 52 := by
  rcases Nat.eq_zero_or_pos magnitude with rfl | positive
  · decide
  · exact Nat.le_of_lt_succ ((Nat.log2_lt positive.ne').2 short)

theorem log2_shifted (positive : 0 < magnitude) (shift : Nat) :
    (magnitude * 2 ^ shift).log2 = magnitude.log2 + shift := by
  rw [Nat.log2_eq_iff (Nat.mul_pos positive (Nat.two_pow_pos shift)).ne']
  constructor
  · rw [Nat.pow_add]
    exact Nat.mul_le_mul_right _ (Nat.log2_self_le positive.ne')
  · rw [Nat.add_right_comm, Nat.pow_add]
    exact Nat.mul_lt_mul_of_pos_right Nat.lt_log2_self (Nat.two_pow_pos shift)

theorem log2_significand (positive : 0 < magnitude) (short : magnitude < 2 ^ 53) :
    (significand magnitude).log2 = 52 := by
  have fits := log2_le short
  rw [significand, log2_shifted positive, room]
  omega

/-- Rounding aims at the exponent of the normal form, however the digits are shifted. -/
theorem targetExponent_shifted (positive : 0 < magnitude) (short : magnitude < 2 ^ 53)
    (shift : Nat) :
    Format.binary64.targetExponent (totalExponent (magnitude * 2 ^ shift) (-shift)) =
      -room magnitude := by
  have fits := log2_le short
  simp only [Format.targetExponent, totalExponent, log2_shifted positive, room,
    Format.mantissaBits, Format.minExponent]
  omega

end Magnitudes

section Rounding

variable {magnitude : Nat}

/-- Nothing is lost when zeros are shifted out. -/
theorem shiftRight_shifted (digits shift : Nat) :
    ExtendedMantissa.ofMantissaAndAccuracy (digits * 2 ^ shift) .exact >>> shift =
      ExtendedMantissa.ofMantissaAndAccuracy digits .exact := by
  induction shift generalizing digits with
  | zero => simp [ExtendedMantissa.ofMantissaAndAccuracy, HShiftRight.hShiftRight, Nat.repeat]
  | succ shift inductionHypothesis =>
      have step : digits * 2 ^ (shift + 1) = digits * 2 * 2 ^ shift := by
        rw [Nat.pow_succ]
        ac_rfl
      change ExtendedMantissa.shiftRightOne
        (ExtendedMantissa.ofMantissaAndAccuracy (digits * 2 ^ (shift + 1)) .exact >>> shift) = _
      rw [step, inductionHypothesis]
      simp [ExtendedMantissa.shiftRightOne, ExtendedMantissa.ofMantissaAndAccuracy]

theorem shiftToTargetExponent_shifted (positive : 0 < magnitude) (short : magnitude < 2 ^ 53)
    {shift : Nat} (enough : room magnitude ≤ shift) :
    shiftToTargetExponent Format.binary64 (magnitude * 2 ^ shift) (-shift) .exact =
      (ExtendedMantissa.ofMantissaAndAccuracy (significand magnitude) .exact,
        -(room magnitude : Int)) := by
  obtain ⟨further, rfl⟩ := Nat.exists_eq_add_of_le enough
  have split : magnitude * 2 ^ (room magnitude + further) =
      significand magnitude * 2 ^ further := by
    rw [significand, Nat.pow_add, Nat.mul_assoc]
  have distance : (-(room magnitude : Int) - -((room magnitude + further : Nat) : Int)).toNat =
      further := by
    omega
  rw [shiftToTargetExponent, targetExponent_shifted positive short]
  simp only [shiftToExponent, distance]
  rw [split, shiftRight_shifted]
  congr 1
  omega

/-- Rounding leads from digits that are shifted far enough to the normal form. -/
theorem roundWithAccuracy_shifted (sign : Sign) (positive : 0 < magnitude)
    (short : magnitude < 2 ^ 53) {shift : Nat} (enough : room magnitude ≤ shift) :
    roundWithAccuracy Format.binary64 sign (magnitude * 2 ^ shift) (-shift) .exact =
      .finite sign (significand magnitude) (-room magnitude) (significand_pos positive) := by
  have again := shiftToTargetExponent_shifted positive short (Nat.le_refl (room magnitude))
  rw [← significand] at again
  rw [roundWithAccuracy, shiftToTargetExponent_shifted positive short enough]
  simp only [ExtendedMantissa.ofMantissaAndAccuracy, ExtendedMantissa.roundedMantissa,
    ExtendedMantissa.accuracy, Accuracy.roundToNearestEven] at again ⊢
  simp only [again, (significand_pos positive).ne', ↓reduceDIte]

/-- Rounding that shifts the digits far enough by itself leads to the normal form. -/
theorem round_shifted (sign : Sign) (positive : 0 < magnitude) (short : magnitude < 2 ^ 53)
    (shift : Nat) :
    UnpackedFloat.round Format.binary64 sign (magnitude * 2 ^ shift) (-shift) =
      .finite sign (significand magnitude) (-room magnitude) (significand_pos positive) := by
  have distance : (-(shift : Int) - -(room magnitude : Int)).toNat = room magnitude - shift := by
    omega
  have digits : (magnitude * 2 ^ shift) <<< (room magnitude - shift) =
      magnitude * 2 ^ max (room magnitude) shift := by
    rw [Nat.shiftLeft_eq, Nat.mul_assoc, ← Nat.pow_add]
    congr 2
    omega
  have exponent : -(shift : Int) - ((room magnitude - shift : Nat) : Int) =
      -((max (room magnitude) shift : Nat) : Int) := by
    omega
  simp only [UnpackedFloat.round, targetExponent_shifted positive short, decreaseExponent,
    distance, digits, exponent]
  exact roundWithAccuracy_shifted sign positive short (Nat.le_max_left _ _)

end Rounding

/-- The normal form of a whole number. -/
def unpacked (number : Int) : UnpackedFloat :=
  if nonzero : 0 < number.natAbs then
    .finite (if number < 0 then .negative else .positive) (significand number.natAbs)
      (-room number.natAbs) (significand_pos nonzero)
  else
    .zero .positive

theorem unpacked_apply (sign : Sign) {magnitude : Nat} (positive : 0 < magnitude) :
    unpacked (sign.apply magnitude) =
      .finite sign (significand magnitude) (-room magnitude) (significand_pos positive) := by
  cases sign with
  | negative => simp [unpacked, Sign.apply, positive]
  | positive => simp [unpacked, Sign.apply, positive, Int.not_lt.2 (Int.natCast_nonneg magnitude)]

/-- A whole number other than zero has a sign and a magnitude. -/
theorem exists_apply {number : Int} (nonzero : number ≠ 0) :
    ∃ (sign : Sign) (magnitude : Nat), 0 < magnitude ∧ number = sign.apply magnitude := by
  rcases Int.lt_or_gt_of_ne nonzero with below | above
  · exact ⟨.negative, number.natAbs, by omega, by simp only [Sign.apply]; omega⟩
  · exact ⟨.positive, number.natAbs, by omega, by simp only [Sign.apply]; omega⟩

theorem natAbs_apply (sign : Sign) (magnitude : Nat) :
    (sign.apply magnitude).natAbs = magnitude := by
  cases sign <;> simp [Sign.apply]

theorem apply_mul (sign : Sign) (magnitude factor : Nat) :
    sign.apply (magnitude * factor : Nat) = sign.apply magnitude * factor := by
  cases sign <;> simp [Sign.apply]

theorem normalize_apply (sign : Sign) {magnitude : Nat} (positive : 0 < magnitude)
    (exponent : Int) :
    UnpackedFloat.normalize Format.binary64 (sign.apply magnitude) exponent .positive =
      UnpackedFloat.round Format.binary64 sign magnitude exponent := by
  cases sign with
  | negative =>
      have below : compare (-(magnitude : Int)) 0 = .lt := Int.compare_eq_lt.2 (by omega)
      simp [UnpackedFloat.normalize, Sign.apply, below]
  | positive =>
      have above : compare (magnitude : Int) 0 = .gt := Int.compare_eq_gt.2 (by omega)
      simp [UnpackedFloat.normalize, Sign.apply, above]

/-- A sum of significands is brought to the normal form. -/
theorem normalize_shifted {number : Int} (short : IsShort number) (shift : Nat) :
    UnpackedFloat.normalize Format.binary64 (number * 2 ^ shift) (-shift) .positive =
      unpacked number := by
  by_cases nonzero : number = 0
  · subst nonzero
    simp [UnpackedFloat.normalize, unpacked]
  · obtain ⟨sign, magnitude, positive, rfl⟩ := exists_apply nonzero
    rw [IsShort, natAbs_apply] at short
    have digits : sign.apply magnitude * 2 ^ shift = sign.apply (magnitude * 2 ^ shift : Nat) := by
      rw [apply_mul]
      simp
    rw [digits, normalize_apply sign (Nat.mul_pos positive (Nat.two_pow_pos shift)),
      round_shifted sign positive short, unpacked_apply sign positive]

section Operations

variable {first second : Int}

theorem decreaseExponent_significand {magnitude shift : Nat} (enough : room magnitude ≤ shift) :
    (decreaseExponent (significand magnitude) (-room magnitude) (-shift)).1 =
      magnitude * 2 ^ shift := by
  have distance : (-(room magnitude : Int) - -(shift : Int)).toNat = shift - room magnitude := by
    omega
  simp only [decreaseExponent, distance, significand]
  rw [Nat.shiftLeft_eq, Nat.mul_assoc, ← Nat.pow_add, Nat.add_sub_cancel' enough]

theorem add_zero_unpacked (number : Int) :
    UnpackedFloat.add Format.binary64 (unpacked 0) (unpacked number) = unpacked number := by
  by_cases nonzero : number = 0
  · subst nonzero
    rfl
  · obtain ⟨sign, magnitude, positive, rfl⟩ := exists_apply nonzero
    rw [unpacked_apply sign positive]
    rfl

theorem add_unpacked_zero (number : Int) :
    UnpackedFloat.add Format.binary64 (unpacked number) (unpacked 0) = unpacked number := by
  by_cases nonzero : number = 0
  · subst nonzero
    rfl
  · obtain ⟨sign, magnitude, positive, rfl⟩ := exists_apply nonzero
    rw [unpacked_apply sign positive]
    rfl

theorem add_unpacked (short : IsShort (first + second)) :
    UnpackedFloat.add Format.binary64 (unpacked first) (unpacked second) =
      unpacked (first + second) := by
  by_cases firstNonzero : first = 0
  · rw [firstNonzero, add_zero_unpacked, Int.zero_add]
  by_cases secondNonzero : second = 0
  · rw [secondNonzero, add_unpacked_zero, Int.add_zero]
  obtain ⟨sign, magnitude, positive, rfl⟩ := exists_apply firstNonzero
  obtain ⟨other, further, above, rfl⟩ := exists_apply secondNonzero
  -- Both significands are shifted as far as the one that has more room.
  have lower : min (-(room magnitude : Int)) (-(room further : Int)) =
      -((max (room magnitude) (room further) : Nat) : Int) := by
    omega
  rw [← normalize_shifted short (max (room magnitude) (room further)),
    unpacked_apply sign positive, unpacked_apply other above]
  simp only [UnpackedFloat.add, lower]
  rw [decreaseExponent_significand (Nat.le_max_left _ _),
    decreaseExponent_significand (Nat.le_max_right _ _), apply_mul, apply_mul, ← add_mul]
  simp

theorem apply_mul_apply (sign other : Sign) (magnitude further : Nat) :
    sign.apply magnitude * other.apply further =
      (sign * other).apply (magnitude * further : Nat) := by
  rw [Int.natCast_mul]
  cases sign <;> cases other
  · exact Int.neg_mul_neg _ _
  · exact Int.neg_mul _ _
  · exact Int.mul_neg _ _
  · rfl

theorem room_mul_le {magnitude further : Nat} (positive : 0 < magnitude) (above : 0 < further)
    (short : magnitude * further < 2 ^ 53) :
    room (magnitude * further) ≤ room magnitude + room further := by
  have left : magnitude.log2 ≤ 52 :=
    log2_le (Nat.lt_of_le_of_lt (Nat.le_mul_of_pos_right magnitude above) short)
  have right : further.log2 ≤ 52 :=
    log2_le (Nat.lt_of_le_of_lt (Nat.le_mul_of_pos_left further positive) short)
  have both : magnitude.log2 + further.log2 ≤ (magnitude * further).log2 := by
    rw [Nat.le_log2 (Nat.mul_pos positive above).ne', Nat.pow_add]
    exact Nat.mul_le_mul (Nat.log2_self_le positive.ne') (Nat.log2_self_le above.ne')
  unfold room
  omega

/-- The product of zero and a negative number is the other zero, so neither may be zero. -/
theorem mul_unpacked (firstNonzero : first ≠ 0) (secondNonzero : second ≠ 0)
    (short : IsShort (first * second)) :
    UnpackedFloat.mul Format.binary64 (unpacked first) (unpacked second) =
      unpacked (first * second) := by
  obtain ⟨sign, magnitude, positive, rfl⟩ := exists_apply firstNonzero
  obtain ⟨other, further, above, rfl⟩ := exists_apply secondNonzero
  rw [apply_mul_apply, IsShort, natAbs_apply] at short
  have digits : significand magnitude * significand further =
      magnitude * further * 2 ^ (room magnitude + room further) := by
    rw [significand, significand, Nat.pow_add]
    ac_rfl
  have exponent : -(room magnitude : Int) + -(room further : Int) =
      -((room magnitude + room further : Nat) : Int) := by
    omega
  rw [apply_mul_apply, unpacked_apply sign positive, unpacked_apply other above,
    unpacked_apply (sign * other) (Nat.mul_pos positive above)]
  simp only [UnpackedFloat.mul, digits, exponent]
  exact roundWithAccuracy_shifted (sign * other) (Nat.mul_pos positive above) short
    (room_mul_le positive above short)

theorem neg_unpacked (nonzero : first ≠ 0) : (unpacked first).neg = unpacked (-first) := by
  obtain ⟨sign, magnitude, positive, rfl⟩ := exists_apply nonzero
  have opposite : -(sign.apply (magnitude : Int)) = (-sign).apply magnitude := by
    cases sign
    · exact Int.neg_neg _
    · rfl
  rw [opposite, unpacked_apply sign positive, unpacked_apply (-sign) positive]
  rfl

theorem compare_significand_of_lt {magnitude further : Nat} (positive : 0 < magnitude)
    (short : further < 2 ^ 53) (less : magnitude < further) :
    (compare (-(room magnitude : Int)) (-(room further : Int))).then
      (compare (significand magnitude) (significand further)) = .lt := by
  have fits := log2_le short
  have digits : magnitude.log2 ≤ further.log2 := by
    rw [Nat.le_log2 (by omega)]
    exact Nat.le_trans (Nat.log2_self_le positive.ne') less.le
  rcases Nat.lt_or_eq_of_le digits with fewer | same
  · have lower : -(room magnitude : Int) < -(room further : Int) := by
      unfold room
      omega
    rw [Int.compare_eq_lt.2 lower]
    rfl
  · have equal : room magnitude = room further := by
      rw [room, room, same]
    have smaller : significand magnitude < significand further := by
      rw [significand, significand, equal]
      exact Nat.mul_lt_mul_of_pos_right less (Nat.two_pow_pos _)
    rw [equal, Int.compare_eq_eq.2 rfl, Nat.compare_eq_lt.2 smaller]
    rfl

/-- Normal forms are in the order of the magnitudes. -/
theorem compare_significand {magnitude further : Nat} (positive : 0 < magnitude)
    (above : 0 < further) (short : magnitude < 2 ^ 53) (shortToo : further < 2 ^ 53) :
    (compare (-(room magnitude : Int)) (-(room further : Int))).then
      (compare (significand magnitude) (significand further)) = compare magnitude further := by
  rcases Nat.lt_trichotomy magnitude further with less | rfl | more
  · rw [compare_significand_of_lt positive shortToo less, Nat.compare_eq_lt.2 less]
  · simp
  · have swapped := compare_significand_of_lt above short more
    rw [Nat.compare_eq_gt.2 more, ← Int.compare_swap, ← Nat.compare_swap,
      ← Ordering.swap_then, swapped]
    rfl

theorem compare_zero_unpacked (sign : Sign) {magnitude : Nat} (positive : 0 < magnitude) :
    (unpacked 0).compare (unpacked (sign.apply magnitude)) =
      some (compare 0 (sign.apply magnitude)) := by
  rw [unpacked_apply sign positive]
  cases sign with
  | negative =>
      have above : compare 0 (-(magnitude : Int)) = .gt := Int.compare_eq_gt.2 (by omega)
      exact congrArg some above.symm
  | positive =>
      have below : compare 0 (magnitude : Int) = .lt := Int.compare_eq_lt.2 (by omega)
      exact congrArg some below.symm

theorem compare_unpacked_zero (sign : Sign) {magnitude : Nat} (positive : 0 < magnitude) :
    (unpacked (sign.apply magnitude)).compare (unpacked 0) =
      some (compare (sign.apply magnitude) 0) := by
  rw [unpacked_apply sign positive]
  cases sign with
  | negative =>
      have below : compare (-(magnitude : Int)) 0 = .lt := Int.compare_eq_lt.2 (by omega)
      exact congrArg some below.symm
  | positive =>
      have above : compare (magnitude : Int) 0 = .gt := Int.compare_eq_gt.2 (by omega)
      exact congrArg some above.symm

theorem compare_unpacked_apply (sign other : Sign) {magnitude further : Nat}
    (positive : 0 < magnitude) (above : 0 < further) (short : magnitude < 2 ^ 53)
    (shortToo : further < 2 ^ 53) :
    (unpacked (sign.apply magnitude)).compare (unpacked (other.apply further)) =
      some (compare (sign.apply magnitude : Int) (other.apply further)) := by
  have magnitudes := compare_significand positive above short shortToo
  have kept : compare (magnitude : Int) (further : Int) = compare magnitude further := by
    rw [← cmp_eq_compare, ← cmp_eq_compare, Nat.strictMono_cast.cmp_map_eq]
  rw [unpacked_apply sign positive, unpacked_apply other above]
  cases sign <;> cases other
  · have opposite : StrictAnti fun number : Int => -number :=
      fun _ _ less => Int.neg_lt_neg less
    have swapped : compare (-(magnitude : Int)) (-(further : Int)) =
        (compare magnitude further).swap := by
      rw [← kept, Int.compare_swap, ← cmp_eq_compare, ← cmp_eq_compare,
        opposite.cmp_map_eq]
    simp only [UnpackedFloat.compare, magnitudes, Sign.apply, swapped]
  · have below : compare (-(magnitude : Int)) (further : Int) = .lt :=
      Int.compare_eq_lt.2 (by omega)
    exact congrArg some below.symm
  · have more : compare (magnitude : Int) (-(further : Int)) = .gt :=
      Int.compare_eq_gt.2 (by omega)
    exact congrArg some more.symm
  · simp only [UnpackedFloat.compare, magnitudes, Sign.apply, kept]

theorem compare_unpacked (short : IsShort first) (shortToo : IsShort second) :
    (unpacked first).compare (unpacked second) = some (compare first second) := by
  by_cases firstNonzero : first = 0
  · subst firstNonzero
    by_cases secondNonzero : second = 0
    · subst secondNonzero
      rfl
    · obtain ⟨sign, magnitude, positive, rfl⟩ := exists_apply secondNonzero
      exact compare_zero_unpacked sign positive
  · obtain ⟨sign, magnitude, positive, rfl⟩ := exists_apply firstNonzero
    by_cases secondNonzero : second = 0
    · subst secondNonzero
      exact compare_unpacked_zero sign positive
    · obtain ⟨other, further, above, rfl⟩ := exists_apply secondNonzero
      rw [IsShort, natAbs_apply] at short shortToo
      exact compare_unpacked_apply sign other positive above short shortToo

end Operations

theorem toNat_leading {digits : Nat} (full : digits.log2 = 52) :
    (1#1 ++ BitVec.ofNat 52 digits).toNat = digits := by
  have nonzero : digits ≠ 0 := by
    rintro rfl
    exact absurd full (by decide)
  obtain ⟨lower, upper⟩ := (Nat.log2_eq_iff nonzero).1 full
  rw [BitVec.toNat_append, BitVec.toNat_ofNat, BitVec.toNat_ofNat, Nat.shiftLeft_eq,
    Nat.mul_comm, ← Nat.two_pow_add_eq_or_of_lt (Nat.mod_lt _ (Nat.two_pow_pos 52))]
  omega

/-- A significand that is full survives being packed if its exponent has room. -/
theorem unpack_pack_full (sign : Sign) {digits : Nat} (positive : 0 < digits)
    (full : digits.log2 = 52) {exponent : Int} (lower : -1074 ≤ exponent)
    (upper : exponent ≤ 971) :
    (Float.Model.pack (.finite sign digits exponent positive)).unpack =
      .finite sign digits exponent positive := by
  obtain ⟨biased, bias⟩ : ∃ biased : Nat, (biased : Int) = exponent + 1023 + 52 :=
    ⟨(exponent + 1023 + 52).toNat, by omega⟩
  have field : (exponent + 1023 + 52).toNat = biased := by omega
  have kept : (BitVec.ofNat 11 biased).toNat = biased := by
    rw [BitVec.toNat_ofNat]
    exact Nat.mod_eq_of_lt (by omega)
  have notLast : BitVec.ofNat 11 biased ≠ -1#11 := by
    intro last
    have bits := congrArg BitVec.toNat last
    rw [kept] at bits
    change biased = 2047 at bits
    omega
  have notFirst : BitVec.ofNat 11 biased ≠ 0#11 := by
    intro first
    have bits := congrArg BitVec.toNat first
    rw [kept] at bits
    change biased = 0 at bits
    omega
  have packed : UnpackedFloat.pack Format.binary64 (.finite sign digits exponent positive) =
      packComponents Format.binary64 sign (BitVec.ofNat 11 biased) (BitVec.ofNat 52 digits) := by
    have fits : ¬ 2 ^ 11 ≤ biased + 1 := by omega
    unfold UnpackedFloat.pack
    change (if 2 ^ 11 ≤ (exponent + 1023 + 52).toNat + 1 then _
      else if digits.log2 + 1 = 53 then _ else _) = _
    rw [field, if_neg fits, if_pos (by omega)]
    change packComponents Format.binary64 sign (BitVec.ofNat 11 (exponent + 1023 + 52).toNat) _ = _
    rw [field]
  change UnpackedFloat.unpack Format.binary64 (UnpackedFloat.pack Format.binary64 _) = _
  rw [packed]
  simp only [UnpackedFloat.unpack, unpackExponent_packComponents, unpackMantissa_packComponents,
    unpackSign_packComponents, Sign.ofBitVec_toBitVec, if_neg notLast, if_neg notFirst,
    toNat_leading full, kept]
  congr 1
  change (biased : Int) - (1023 + 52) = exponent
  omega

theorem unpack_pack {number : Int} (short : IsShort number) :
    (Float.Model.pack (unpacked number)).unpack = unpacked number := by
  by_cases nonzero : number = 0
  · subst nonzero
    exact unpack_packedZero
  · obtain ⟨sign, magnitude, positive, rfl⟩ := exists_apply nonzero
    rw [IsShort, natAbs_apply] at short
    have small : room magnitude ≤ 52 := Nat.sub_le _ _
    rw [unpacked_apply sign positive]
    exact unpack_pack_full sign _ (log2_significand positive short) (by omega) (by omega)

section Floats

variable {first second : Int}

theorem toFloat_toUInt64 {number : Nat} (short : number < 2 ^ 53) :
    number.toUInt64.toFloat = ⟨Float.Model.pack (unpacked number)⟩ := by
  have word : number.toUInt64.toNat = number := by
    rw [Nat.toUInt64_eq, UInt64.toNat_ofNat']
    exact Nat.mod_eq_of_lt (by omega)
  have shortInteger : IsShort (number : Int) := short
  have unshifted := normalize_shifted shortInteger 0
  rw [Int.pow_zero, Int.mul_one] at unshifted
  change Float.ofModel (Float.Model.pack (UnpackedFloat.normalize Format.binary64
    (number.toUInt64.toNat : Int) 0 .positive)) = _
  rw [word]
  exact congrArg (fun form => Float.ofModel (Float.Model.pack form)) unshifted

/-- A number without a sign is converted as a machine word, which is then multiplied by one. -/
theorem ofNat_eq {number : Nat} (short : number < 2 ^ 53) :
    Float.ofNat number = ⟨Float.Model.pack (unpacked number)⟩ := by
  have shortInteger : IsShort (number : Int) := short
  have product : Float.ofNat number = number.toUInt64.toFloat * 1 := by
    change Float.ofScientific number false 0 = _
    rw [Float.ofScientific, dif_pos ⟨short, by decide⟩]
    rfl
  have kept : UnpackedFloat.mul Format.binary64 (unpacked number) (unpacked 1) =
      unpacked number := by
    by_cases nonzero : (number : Int) = 0
    · rw [nonzero]
      rfl
    · rw [mul_unpacked nonzero (by decide) (by rwa [Int.mul_one]),
        Int.mul_one]
  rw [product, toFloat_toUInt64 short]
  change Float.ofModel (Float.Model.pack (UnpackedFloat.mul Format.binary64
    (Float.Model.pack (unpacked number)).unpack (unpacked 1))) = _
  rw [unpack_pack shortInteger, kept]

theorem ofInt_eq {number : Int} (short : IsShort number) :
    Float.ofInt number = ⟨Float.Model.pack (unpacked number)⟩ := by
  cases number with
  | ofNat magnitude => exact ofNat_eq short
  | negSucc magnitude =>
      have positive : IsShort ((magnitude + 1 : Nat) : Int) := short
      have converted : Float.ofNat (magnitude + 1) =
          ⟨Float.Model.pack (unpacked ((magnitude + 1 : Nat) : Int))⟩ :=
        ofNat_eq positive
      change (Float.ofNat (magnitude + 1)).neg = _
      rw [converted]
      change Float.ofModel (Float.Model.pack
        (Float.Model.pack (unpacked ((magnitude + 1 : Nat) : Int))).unpack.neg) = _
      rw [unpack_pack positive, neg_unpacked (by omega)]
      rfl

@[simp]
theorem ofInt_natCast (number : Nat) : Float.ofInt number = Float.ofNat number :=
  rfl

@[simp]
theorem ofInt_zero : Float.ofInt 0 = 0 :=
  rfl

@[simp]
theorem ofInt_one : Float.ofInt 1 = 1 :=
  rfl

@[simp]
theorem ofInt_negOne : Float.ofInt (-1) = -1 :=
  rfl

theorem unpack_ofInt {number : Int} (short : IsShort number) :
    (Float.ofInt number).toModel.unpack = unpacked number := by
  rw [ofInt_eq short, unpack_pack short]

theorem ofInt_add (short : IsShort first) (shortToo : IsShort second)
    (shortSum : IsShort (first + second)) :
    Float.ofInt first + Float.ofInt second = Float.ofInt (first + second) := by
  rw [ofInt_eq shortSum, ← add_unpacked shortSum, ← unpack_ofInt short,
    ← unpack_ofInt shortToo]
  rfl

theorem ofInt_mul (nonzero : first ≠ 0) (nonzeroToo : second ≠ 0) (short : IsShort first)
    (shortToo : IsShort second) (shortProduct : IsShort (first * second)) :
    Float.ofInt first * Float.ofInt second = Float.ofInt (first * second) := by
  rw [ofInt_eq shortProduct, ← mul_unpacked nonzero nonzeroToo shortProduct,
    ← unpack_ofInt short, ← unpack_ofInt shortToo]
  rfl

theorem compare_ofInt (short : IsShort first) (shortToo : IsShort second) :
    (Float.ofInt first).toModel.unpack.compare (Float.ofInt second).toModel.unpack =
      some (compare first second) := by
  rw [unpack_ofInt short, unpack_ofInt shortToo, compare_unpacked short shortToo]

theorem ofInt_lt (short : IsShort first) (shortToo : IsShort second) :
    Float.ofInt first < Float.ofInt second ↔ first < second := by
  change decide (UnpackedFloat.lt _ _ = true) = true ↔ _
  rw [UnpackedFloat.lt, compare_ofInt short shortToo]
  simp [Int.compare_eq_lt]

theorem ofInt_le (short : IsShort first) (shortToo : IsShort second) :
    Float.ofInt first ≤ Float.ofInt second ↔ first ≤ second := by
  change decide (UnpackedFloat.le _ _ = true) = true ↔ _
  rw [UnpackedFloat.le, compare_ofInt short shortToo]
  simp [Int.isLE_compare]

theorem ofInt_beq (short : IsShort first) (shortToo : IsShort second) :
    (Float.ofInt first == Float.ofInt second) = true ↔ first = second := by
  change UnpackedFloat.beq _ _ = true ↔ _
  rw [UnpackedFloat.beq, compare_ofInt short shortToo]
  simp

end Floats

end WholeNumber

end CheckedScript
