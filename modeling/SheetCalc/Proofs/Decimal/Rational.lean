import Mathlib.Algebra.Order.Field.Power
import Mathlib.Data.Rat.Cast.Order
import Mathlib.Tactic
import SheetCalc.Decimal.Arithmetic

/-!
# Decimals as rational numbers

`Decimal.toRat` is the number that a decimal stands for. Sums and products without rounding have
the values that their names say, and `losslessDigits` digits hold them: `add_lossless`,
`sub_lossless` and `mul_lossless`. A precision keeps a value exactly when some decimal of so many
digits has it: `toRat_round_iff`.
-/

namespace SheetCalc.Decimal

/-- The coefficient with the sign. -/
def signed (number : Decimal) : ℤ :=
  if number.negative then -number.coefficient else number.coefficient

/-- The rational number that a decimal stands for. -/
def toRat (number : Decimal) : ℚ :=
  number.signed * 10 ^ number.exponent

/-- The sign of a number as a factor. -/
def sign (number : Decimal) : ℚ :=
  if number.negative then -1 else 1

/-- A value has at most so many significant digits. -/
def FitsIn (precision : ℕ) (value : ℚ) : Prop :=
  ∃ number : Decimal, number.digitCount ≤ precision ∧ number.toRat = value

variable {number left right : Decimal}

theorem tenPower_eq (exponent : ℕ) : tenPower exponent = 10 ^ exponent :=
  rfl

/-! ## Digits -/

/-- A coefficient has at most so many digits when it is below the power of ten. -/
theorem digitCount_le_iff {count : ℕ} (h : 0 < count) :
    number.digitCount ≤ count ↔ number.coefficient < 10 ^ count :=
  Nat.length_toDigits_le_iff (by decide) h

theorem digitCount_pos (number : Decimal) : 0 < number.digitCount :=
  Nat.length_toDigits_pos

/-- The digits hold the coefficient. -/
theorem coefficient_lt (number : Decimal) : number.coefficient < 10 ^ number.digitCount :=
  (digitCount_le_iff number.digitCount_pos).mp (Nat.le_refl _)

/-- One digit less does not hold a coefficient other than zero. -/
theorem pow_le_coefficient (h : number.coefficient ≠ 0) :
    10 ^ (number.digitCount - 1) ≤ number.coefficient := by
  have hcount := number.digitCount_pos
  rcases Nat.lt_or_ge 1 number.digitCount with hmany | hone
  · by_contra hlt
    have hfew := (digitCount_le_iff (Nat.sub_pos_of_lt hmany)).mpr (Nat.not_le.mp hlt)
    omega
  · rw [Nat.sub_eq_zero_of_le hone]
    exact Nat.one_le_iff_ne_zero.mpr h

/-- A number of several digits is not zero. -/
theorem coefficient_ne_zero (h : 1 < number.digitCount) : number.coefficient ≠ 0 := by
  intro hzero
  have hone : number.digitCount ≤ 1 :=
    (digitCount_le_iff Nat.one_pos).mpr (by rw [hzero]; decide)
  omega

/-- A coefficient has more digits than the zeros of a power of ten that it reaches. -/
theorem lt_digitCount_of_pow_le {count : ℕ} (h : 10 ^ count ≤ number.coefficient) :
    count < number.digitCount := by
  by_contra hfew
  have hcount := number.digitCount_pos
  have hlt := (digitCount_le_iff (by omega)).mp (Nat.not_lt.mp hfew)
  omega

/-! ## Sums and products -/

/-- A number in smaller units has the same value. -/
theorem units_mul {exponent : ℤ} (h : exponent ≤ number.exponent) :
    (number.units exponent : ℚ) * 10 ^ exponent = number.toRat := by
  have hunits : number.units exponent =
      number.signed * 10 ^ (number.exponent - exponent).toNat := by
    unfold units signed
    split <;> simp [tenPower_eq]
  have hpower : (10 : ℚ) ^ (number.exponent - exponent).toNat * 10 ^ exponent =
      10 ^ number.exponent := by
    rw [← zpow_natCast, ← zpow_add₀ (by norm_num), Int.toNat_of_nonneg (by omega)]
    congr 1
    omega
  rw [hunits, toRat, ← hpower]
  push_cast
  ring

/-- The sum without rounding is the sum of the values. -/
theorem toRat_exactSum (left right : Decimal) :
    (exactSum left right).toRat = left.toRat + right.toRat := by
  have hsigned : (exactSum left right).signed =
      left.units (min left.exponent right.exponent) +
        right.units (min left.exponent right.exponent) := by
    unfold signed exactSum
    by_cases hzero : left.units (min left.exponent right.exponent) +
        right.units (min left.exponent right.exponent) = 0
    · simp [hzero]
    · by_cases hneg : left.units (min left.exponent right.exponent) +
          right.units (min left.exponent right.exponent) < 0
      · simp [hzero, hneg, abs_of_neg hneg]
      · simp [hzero, hneg, abs_of_nonneg (not_lt.mp hneg)]
  rw [toRat, hsigned, ← units_mul (Int.min_le_left left.exponent right.exponent),
    ← units_mul (Int.min_le_right left.exponent right.exponent)]
  push_cast
  exact add_mul _ _ _

/-- The product without rounding is the product of the values. -/
theorem toRat_exactProduct (left right : Decimal) :
    (exactProduct left right).toRat = left.toRat * right.toRat := by
  have hsigned : (exactProduct left right).signed = left.signed * right.signed := by
    unfold signed exactProduct
    cases hleft : left.negative <;> cases hright : right.negative <;> simp
  have hpower : (10 : ℚ) ^ (exactProduct left right).exponent =
      10 ^ left.exponent * 10 ^ right.exponent :=
    zpow_add₀ (by norm_num) left.exponent right.exponent
  rw [toRat, hsigned, hpower, toRat, toRat]
  push_cast
  ring

/-- The number with the other sign has the opposite value. -/
theorem toRat_negate (number : Decimal) : number.negate.toRat = -number.toRat := by
  have hsigned : number.negate.signed = -number.signed := by
    unfold signed negate
    cases hnegative : number.negative <;> simp
  have hexponent : number.negate.exponent = number.exponent := rfl
  rw [toRat, hsigned, hexponent, toRat]
  push_cast
  ring

/-- The number of digits that no sum, difference or product exceeds. -/
theorem losslessDigits_eq (left right : Decimal) :
    losslessDigits left right =
      max (left.digitCount + right.digitCount) (max left.leadingExponent right.leadingExponent -
        min left.exponent right.exponent).toNat + 2 :=
  rfl

/-- A number in the smaller units of a sum is below the power of ten that the sum is said to
have. -/
theorem natAbs_units_lt {exponent : ℤ} (h : exponent ≤ number.exponent) (span : ℕ)
    (hspan : number.leadingExponent - exponent ≤ span) :
    (number.units exponent).natAbs < 10 ^ (span + 1) := by
  have hmagnitude : (number.units exponent).natAbs =
      number.coefficient * 10 ^ (number.exponent - exponent).toNat := by
    unfold units
    split <;> simp [tenPower_eq, Int.natAbs_mul, Int.natAbs_pow]
  have hcount : number.digitCount + (number.exponent - exponent).toNat ≤ span + 1 := by
    unfold leadingExponent at hspan
    omega
  rw [hmagnitude]
  calc number.coefficient * 10 ^ (number.exponent - exponent).toNat
      < 10 ^ number.digitCount * 10 ^ (number.exponent - exponent).toNat :=
        Nat.mul_lt_mul_of_pos_right number.coefficient_lt (Nat.pow_pos (by decide))
    _ = 10 ^ (number.digitCount + (number.exponent - exponent).toNat) := (Nat.pow_add ..).symm
    _ ≤ 10 ^ (span + 1) := Nat.pow_le_pow_right (by decide) hcount

/-- The digits that are said to hold a sum do. -/
theorem digitCount_exactSum_le (left right : Decimal) :
    (exactSum left right).digitCount ≤ losslessDigits left right := by
  rw [losslessDigits_eq]
  generalize hspan : (max left.leadingExponent right.leadingExponent -
    min left.exponent right.exponent).toNat = span
  have hleft := natAbs_units_lt (Int.min_le_left left.exponent right.exponent) span (by omega)
  have hright := natAbs_units_lt (Int.min_le_right left.exponent right.exponent) span (by omega)
  have hcount : (exactSum left right).digitCount ≤ span + 2 := by
    rw [digitCount_le_iff (Nat.succ_pos _)]
    have hpower : 10 ^ (span + 2) = 10 * 10 ^ (span + 1) := Nat.pow_succ'
    have htotal := Int.natAbs_add_le (left.units (min left.exponent right.exponent))
      (right.units (min left.exponent right.exponent))
    show (left.units (min left.exponent right.exponent) +
      right.units (min left.exponent right.exponent)).natAbs < 10 ^ (span + 2)
    omega
  omega

/-- The digits that are said to hold a product do. -/
theorem digitCount_exactProduct_le (left right : Decimal) :
    (exactProduct left right).digitCount ≤ losslessDigits left right := by
  have hcount := Nat.add_pos_left left.digitCount_pos right.digitCount
  have hproduct : (exactProduct left right).digitCount ≤ left.digitCount + right.digitCount := by
    rw [digitCount_le_iff hcount, Nat.pow_add]
    exact Nat.mul_lt_mul'' left.coefficient_lt right.coefficient_lt
  rw [losslessDigits_eq]
  omega

/-! ## Rounding -/

/-- A number that has no more digits than the precision is not rounded. -/
theorem round_of_digitCount_le {precision : ℕ} (h : number.digitCount ≤ precision) :
    number.round precision = number := by
  simp [round, Nat.sub_eq_zero_of_le h]

/-- Sums are not rounded. -/
theorem add_lossless (left right : Decimal) :
    add (losslessDigits left right) left right = exactSum left right :=
  round_of_digitCount_le (digitCount_exactSum_le left right)

/-- Differences are not rounded. -/
theorem sub_lossless (left right : Decimal) :
    sub (losslessDigits left right) left right = exactSum left right.negate :=
  add_lossless left right.negate

/-- Products are not rounded. -/
theorem mul_lossless (left right : Decimal) :
    mul (losslessDigits left right) left right = exactProduct left right :=
  round_of_digitCount_le (digitCount_exactProduct_le left right)

/-- Zeros at the end of a coefficient can be moved into the exponent. -/
theorem toRat_shift (negative : Bool) (coefficient zeros : ℕ) (exponent : ℤ) :
    toRat ⟨negative, coefficient * 10 ^ zeros, exponent⟩ =
      toRat ⟨negative, coefficient, exponent + zeros⟩ := by
  have hpower : (10 : ℚ) ^ (exponent + zeros) = 10 ^ exponent * 10 ^ zeros := by
    rw [zpow_add₀ (by norm_num), zpow_natCast]
  rw [toRat, toRat, hpower]
  cases negative <;> simp only [signed] <;> push_cast <;> ring

/-- A number is its coefficient with its sign, in units of its last digit. -/
theorem toRat_eq (number : Decimal) :
    number.toRat = number.sign * number.coefficient * 10 ^ number.exponent := by
  unfold toRat signed sign
  split <;> simp

/-- A sign does not change a magnitude. -/
theorem abs_sign_mul (number : Decimal) (value : ℚ) : |number.sign * value| = |value| := by
  unfold sign
  split <;> simp

/-- Without its sign, a number is its coefficient in units of its last digit. -/
theorem abs_toRat (number : Decimal) :
    |number.toRat| = number.coefficient * 10 ^ number.exponent := by
  rw [toRat_eq, mul_assoc, abs_sign_mul, abs_of_nonneg (by positivity)]

/-- Dividing by a unit that divides a number leaves nothing to round. -/
theorem nearestQuotient_mul (quotient : ℕ) {unit : ℕ} (h : 0 < unit) :
    nearestQuotient (quotient * unit) unit = quotient := by
  have hunit : ¬ 0 = unit := Nat.ne_of_lt h
  simp [nearestQuotient, h, hunit]

/-- Rounding a quotient does not pass a bound that is a natural number. -/
theorem nearestQuotient_le {number unit bound : ℕ} (h : number < bound * unit) :
    nearestQuotient number unit ≤ bound := by
  have hquotient : number / unit < bound := Nat.div_lt_of_lt_mul (Nat.mul_comm bound unit ▸ h)
  unfold nearestQuotient
  dsimp only
  split <;> omega

/-- A number with more digits than the precision is below the power of ten that belongs to
it. -/
theorem coefficient_lt_of_excess {precision : ℕ} (h : precision ≤ number.digitCount) :
    number.coefficient < 10 ^ precision * 10 ^ (number.digitCount - precision) := by
  rw [← Nat.pow_add, Nat.add_sub_cancel' h]
  exact number.coefficient_lt

/-- A rounded number has no more digits than the precision. -/
theorem digitCount_round_le {precision : ℕ} (h : 0 < precision) (number : Decimal) :
    (number.round precision).digitCount ≤ precision := by
  unfold round
  dsimp only
  split
  · next hexcess => exact Nat.sub_eq_zero_iff_le.mp hexcess
  · next hexcess =>
    have hmany : precision ≤ number.digitCount := by omega
    have hbound := nearestQuotient_le (coefficient_lt_of_excess hmany)
    rw [← tenPower_eq (number.digitCount - precision)] at hbound
    split
    · next hcarry =>
      rw [digitCount_le_iff h, hcarry, tenPower_eq]
      exact Nat.div_lt_self (Nat.pow_pos (by decide)) (by decide)
    · next hcarry =>
      rw [digitCount_le_iff h]
      exact Nat.lt_of_le_of_ne hbound hcarry

/-- Of two coefficients of one value, the larger one is the smaller one with more zeros. -/
theorem exists_zeros {small large : ℕ} {high low : ℤ}
    (h : (small : ℚ) * 10 ^ high = large * 10 ^ low) (hlt : small < large) :
    ∃ zeros, 0 < zeros ∧ large = small * 10 ^ zeros := by
  have hlow : (0 : ℚ) < 10 ^ low := zpow_pos (by norm_num) _
  have hexponent : low < high := by
    by_contra hle
    have hpower : (10 : ℚ) ^ high ≤ 10 ^ low := zpow_le_zpow_right₀ (by norm_num) (not_lt.mp hle)
    have hsmall : (small : ℚ) * 10 ^ high < large * 10 ^ low :=
      calc (small : ℚ) * 10 ^ high ≤ small * 10 ^ low :=
            mul_le_mul_of_nonneg_left hpower (Nat.cast_nonneg small)
        _ < large * 10 ^ low := mul_lt_mul_of_pos_right (Nat.cast_lt.mpr hlt) hlow
    exact absurd h (ne_of_lt hsmall)
  refine ⟨(high - low).toNat, by omega, ?_⟩
  have hpower : (10 : ℚ) ^ high = 10 ^ (high - low).toNat * 10 ^ low := by
    rw [← zpow_natCast, ← zpow_add₀ (by norm_num), Int.toNat_of_nonneg (by omega), sub_add_cancel]
  rw [hpower, ← mul_assoc] at h
  have hcast := mul_right_cancel₀ (ne_of_gt hlow) h
  exact_mod_cast hcast.symm

/-- A value that fits in the precision has no digits that rounding could drop. -/
theorem pow_excess_dvd {precision : ℕ} (hfits : FitsIn precision number.toRat)
    (hexcess : precision < number.digitCount) (hprecision : 0 < precision) :
    10 ^ (number.digitCount - precision) ∣ number.coefficient := by
  obtain ⟨fitting, hcount, hvalue⟩ := hfits
  obtain ⟨excess, hsplit⟩ := Nat.exists_eq_add_of_lt hexcess
  have hnonzero : number.coefficient ≠ 0 := coefficient_ne_zero (by omega)
  -- The fitting coefficient with all but one of the excess zeros is still too small.
  have hlt : fitting.coefficient * 10 ^ excess < number.coefficient :=
    calc fitting.coefficient * 10 ^ excess < 10 ^ precision * 10 ^ excess :=
          Nat.mul_lt_mul_of_pos_right ((digitCount_le_iff hprecision).mp hcount)
            (Nat.pow_pos (by decide))
      _ = 10 ^ (number.digitCount - 1) := by
          rw [← Nat.pow_add]
          congr 1
          omega
      _ ≤ number.coefficient := pow_le_coefficient hnonzero
  have hsame : ((fitting.coefficient * 10 ^ excess : ℕ) : ℚ) * 10 ^ (fitting.exponent - excess) =
      number.coefficient * 10 ^ number.exponent := by
    rw [← abs_toRat number, ← hvalue, abs_toRat fitting]
    push_cast
    rw [mul_assoc, ← zpow_natCast, ← zpow_add₀ (by norm_num), add_sub_cancel]
  obtain ⟨zeros, hzeros, hcoefficient⟩ := exists_zeros hsame hlt
  rw [hcoefficient, mul_assoc, ← Nat.pow_add]
  exact dvd_mul_of_dvd_right (Nat.pow_dvd_pow 10 (by omega)) _

/-- Rounding keeps the value of a number exactly when the value fits in the precision. -/
theorem toRat_round_iff {precision : ℕ} (h : 0 < precision) (number : Decimal) :
    (number.round precision).toRat = number.toRat ↔ FitsIn precision number.toRat := by
  constructor
  · intro hkept
    exact ⟨number.round precision, digitCount_round_le h number, hkept⟩
  · intro hfits
    rcases Nat.lt_or_ge precision number.digitCount with hmany | hfew
    · obtain ⟨quotient, hquotient⟩ := pow_excess_dvd hfits hmany h
      have hlt := coefficient_lt_of_excess (Nat.le_of_lt hmany)
      rw [Nat.mul_comm] at hquotient
      have hcarry : quotient ≠ 10 ^ precision := by
        rintro rfl
        exact absurd hlt (Nat.not_lt.mpr (Nat.le_of_eq hquotient.symm))
      have hexcess : number.digitCount - precision ≠ 0 := by omega
      have hround : number.round precision =
          ⟨number.negative, quotient, number.exponent + (number.digitCount - precision : ℕ)⟩ := by
        have hnearest : nearestQuotient number.coefficient
            (tenPower (number.digitCount - precision)) = quotient := by
          rw [tenPower_eq, hquotient, nearestQuotient_mul quotient (Nat.pow_pos (by decide))]
        rw [← tenPower_eq precision] at hcarry
        simp only [round, hexcess, if_false, hnearest, hcarry]
      rw [hround, ← toRat_shift, ← hquotient]
    · rw [round_of_digitCount_le hfew]

end SheetCalc.Decimal
