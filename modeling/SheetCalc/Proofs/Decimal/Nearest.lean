import Mathlib.Data.Int.Log
import SheetCalc.Proofs.Decimal.Quotient

/-!
# Quotients that are rounded

A quotient that does not fit in its precision is the nearest decimal with so many digits. The
integer division behind it cuts off a rest, and raises a last digit 0 or 5 for it. So the cut
quotient lies on the same side of every multiple of five as the whole one, which is what
`StandsFor` says, and rounding compares with no other numbers. Main theorem: `nearest_quotient`.
The error of a quotient is at most half a unit of its last digit, and it has fifty digits or more.
-/

namespace SheetCalc

namespace Decimal

variable {number left right : Decimal} {precision : ℕ}

/-- The unit of the last one of so many significant digits of a value. -/
def lastUnit (count : ℕ) (value : ℚ) : ℚ :=
  10 ^ (Int.log 10 |value| - count + 1)

/-- A value is written with exactly so many significant digits; the last ones may be zeros. -/
def HasDigits (count : ℕ) (value : ℚ) : Prop :=
  ∃ number : Decimal, number.digitCount = count ∧ number.toRat = value

/-! ## Units -/

/-- The unit of the last digit, given the exponent of the first one. -/
theorem lastUnit_eq {count : ℕ} {value : ℚ} {leading : ℤ} (hlow : 10 ^ leading ≤ |value|)
    (hhigh : |value| < 10 ^ (leading + 1)) : lastUnit count value = 10 ^ (leading - count + 1) := by
  have hpos : 0 < |value| := lt_of_lt_of_le (zpow_pos (by norm_num) leading) hlow
  have hleast : leading ≤ Int.log 10 |value| :=
    (Int.zpow_le_iff_le_log (by norm_num) hpos).mp (by exact_mod_cast hlow)
  have hmost : Int.log 10 |value| < leading + 1 :=
    (Int.lt_zpow_iff_log_lt (by norm_num) hpos).mp (by exact_mod_cast hhigh)
  have hlog : Int.log 10 |value| = leading := by omega
  rw [lastUnit, hlog]

/-- More digits have a smaller last unit. -/
theorem lastUnit_anti {few many : ℕ} (h : few ≤ many) (value : ℚ) :
    lastUnit many value ≤ lastUnit few value := by
  unfold lastUnit
  exact zpow_le_zpow_right₀ (by norm_num) (by omega)

/-- A unit is positive. -/
theorem lastUnit_pos (count : ℕ) (value : ℚ) : 0 < lastUnit count value :=
  zpow_pos (by norm_num) _

/-! ## Numbers that stand for values -/

/-- A coefficient lies on the same side of every multiple of five as a magnitude. -/
structure Agrees (coefficient : ℕ) (magnitude : ℚ) : Prop where
  le_iff : ∀ count : ℕ, coefficient ≤ 5 * count ↔ magnitude ≤ (5 * count : ℕ)
  ge_iff : ∀ count : ℕ, 5 * count ≤ coefficient ↔ (5 * count : ℕ) ≤ magnitude

/-- A number stands for a value when its coefficient agrees with the value in units of its last
digit. -/
def StandsFor (number : Decimal) (value : ℚ) : Prop :=
  ∃ magnitude, Agrees number.coefficient magnitude ∧
    value = number.sign * magnitude * 10 ^ number.exponent

/-- A number stands for its own value. -/
theorem standsFor_toRat (number : Decimal) : number.StandsFor number.toRat := by
  refine ⟨number.coefficient, ⟨?_, ?_⟩, number.toRat_eq⟩
  · intro count
    exact Nat.cast_le.symm
  · intro count
    exact Nat.cast_le.symm

/-- The powers of ten around a coefficient of several digits are around the magnitude too. -/
theorem Agrees.bounds {number : Decimal} {magnitude : ℚ}
    (h : Agrees number.coefficient magnitude) (hmany : 1 < number.digitCount) :
    (10 : ℚ) ^ (number.digitCount - 1) ≤ magnitude ∧ magnitude < 10 ^ number.digitCount := by
  have hmultiple {power : ℕ} (hpower : 0 < power) : 10 ^ power = 5 * (2 * 10 ^ (power - 1)) := by
    obtain ⟨rest, rfl⟩ := Nat.exists_eq_add_of_lt hpower
    rw [Nat.zero_add, Nat.add_sub_cancel]
    ring
  refine ⟨?_, ?_⟩
  · have hlow := pow_le_coefficient (coefficient_ne_zero hmany)
    rw [hmultiple (by omega), h.ge_iff, ← hmultiple (by omega)] at hlow
    exact_mod_cast hlow
  · have hhigh := number.coefficient_lt
    rw [← not_le, hmultiple (by omega), h.ge_iff, ← hmultiple (by omega), not_le] at hhigh
    exact_mod_cast hhigh

/-- A last digit 0 or 5 is raised by one. -/
def raised (quotient : ℕ) : ℕ :=
  if quotient % 5 = 0 then quotient + 1 else quotient

theorem le_raised (quotient : ℕ) : quotient ≤ raised quotient := by
  unfold raised
  split <;> omega

/-- A quotient with something behind its last digit agrees with the raised quotient. -/
theorem agrees_raised {quotient : ℕ} {magnitude : ℚ} (hlow : (quotient : ℚ) < magnitude)
    (hhigh : magnitude < (quotient + 1 : ℕ)) : Agrees (raised quotient) magnitude := by
  refine ⟨?_, ?_⟩
  · intro count
    have hraised : raised quotient ≤ 5 * count ↔ quotient + 1 ≤ 5 * count := by
      unfold raised
      split <;> omega
    rw [hraised]
    constructor
    · intro hle
      exact le_trans hhigh.le (Nat.cast_le.mpr hle)
    · intro hle
      exact Nat.cast_lt.mp (lt_of_lt_of_le hlow hle)
  · intro count
    have hraised : 5 * count ≤ raised quotient ↔ 5 * count < quotient + 1 := by
      unfold raised
      split <;> omega
    rw [hraised]
    constructor
    · intro hlt
      exact le_trans (Nat.cast_le.mpr (Nat.le_of_lt_succ hlt)) hlow.le
    · intro hle
      exact Nat.cast_lt.mp (lt_of_le_of_lt hle hhigh)

/-! ## Rounding -/

/-- Rounding a quotient moves it by at most half a unit. -/
theorem nearestQuotient_bounds (number : ℕ) {half : ℕ} (h : 0 < half) :
    number ≤ nearestQuotient number (2 * half) * (2 * half) + half ∧
      nearestQuotient number (2 * half) * (2 * half) ≤ number + half := by
  have hdivision := Nat.div_add_mod' number (2 * half)
  have hremainder := Nat.mod_lt number (show 0 < 2 * half by omega)
  unfold nearestQuotient
  dsimp only
  split
  · rw [Nat.add_mul, Nat.one_mul]
    omega
  · omega

/-- A rounded quotient is no less than the quotient. -/
theorem le_nearestQuotient (number unit : ℕ) : number / unit ≤ nearestQuotient number unit := by
  unfold nearestQuotient
  dsimp only
  split
  · exact Nat.le_succ _
  · exact Nat.le_refl _

/-- The rounded coefficient is at most half a unit away from the magnitude with which the
coefficient agrees. The bounds on both sides are multiples of five. -/
theorem Agrees.abs_sub_le {coefficient : ℕ} {magnitude : ℚ} (h : Agrees coefficient magnitude)
    (zeros : ℕ) :
    |((nearestQuotient coefficient (10 ^ (zeros + 1)) * 10 ^ (zeros + 1) : ℕ) : ℚ) - magnitude| ≤
      10 ^ (zeros + 1) / 2 := by
  have hunit : 10 ^ (zeros + 1) = 2 * (5 * 10 ^ zeros) := by ring
  obtain ⟨habove, hbelow⟩ :=
    nearestQuotient_bounds coefficient (show 0 < 5 * 10 ^ zeros by positivity)
  rw [← hunit] at habove hbelow
  have hhalf : (10 : ℚ) ^ (zeros + 1) / 2 = (5 * 10 ^ zeros : ℕ) := by
    push_cast
    ring
  generalize nearestQuotient coefficient (10 ^ (zeros + 1)) = rounded at habove hbelow ⊢
  have hupper : magnitude ≤ (rounded * 10 ^ (zeros + 1) : ℕ) + (5 * 10 ^ zeros : ℕ) := by
    have hmultiple : rounded * 10 ^ (zeros + 1) + 5 * 10 ^ zeros =
        5 * (rounded * (2 * 10 ^ zeros) + 10 ^ zeros) := by ring
    rw [hmultiple] at habove
    have hmagnitude := (h.le_iff _).mp habove
    rw [← hmultiple] at hmagnitude
    exact_mod_cast hmagnitude
  have hlower : ((rounded * 10 ^ (zeros + 1) : ℕ) : ℚ) ≤ magnitude + (5 * 10 ^ zeros : ℕ) := by
    cases rounded with
    | zero =>
        have hnonneg := (h.ge_iff 0).mp (Nat.zero_le _)
        have hhalfNonneg : (0 : ℚ) ≤ (5 * 10 ^ zeros : ℕ) := Nat.cast_nonneg _
        rw [Nat.zero_mul]
        push_cast at hnonneg hhalfNonneg ⊢
        linarith
    | succ rounded =>
        have hmultiple : (rounded + 1) * 10 ^ (zeros + 1) =
            5 * (rounded * (2 * 10 ^ zeros) + 10 ^ zeros) + 5 * 10 ^ zeros := by ring
        rw [hmultiple] at hbelow ⊢
        have hmagnitude := (h.ge_iff _).mp (Nat.le_of_add_le_add_right hbelow)
        rw [Nat.cast_add]
        linarith
  rw [abs_le, hhalf]
  constructor <;> linarith

/-- A number with more digits than the precision is cut at the last digit that is kept. A carry
into one more digit is moved into the exponent. -/
theorem round_of_lt_digitCount (hmany : precision < number.digitCount) {kept : ℕ}
    (hkept : nearestQuotient number.coefficient (10 ^ (number.digitCount - precision)) = kept) :
    number.round precision =
      if kept = 10 ^ precision then
        ⟨number.negative, kept / 10, number.exponent + (number.digitCount - precision : ℕ) + 1⟩
      else ⟨number.negative, kept, number.exponent + (number.digitCount - precision : ℕ)⟩ := by
  have hexcess : number.digitCount - precision ≠ 0 := by omega
  simp only [round, hexcess, if_false, tenPower_eq, hkept]

/-- Rounding gives the digits that are kept, whether they carry or not. -/
theorem toRat_round (hprecision : 0 < precision) (hmany : precision < number.digitCount) :
    (number.round precision).toRat = toRat ⟨number.negative,
      nearestQuotient number.coefficient (10 ^ (number.digitCount - precision)),
      number.exponent + (number.digitCount - precision : ℕ)⟩ := by
  rw [round_of_lt_digitCount hmany rfl]
  split
  · next hcarry =>
    obtain ⟨digits, rfl⟩ := Nat.exists_eq_succ_of_ne_zero hprecision.ne'
    have hten : (10 : ℕ) ^ (digits + 1) = 10 ^ digits * 10 ^ 1 := by ring
    have hcut : (10 : ℕ) ^ digits * 10 ^ 1 / 10 = 10 ^ digits := by omega
    rw [hcarry, hten, hcut, toRat_shift, Nat.cast_one]
  · rfl

/-- A number that is rounded has all digits of the precision. -/
theorem digitCount_round (hprecision : 0 < precision) (hmany : precision < number.digitCount) :
    (number.round precision).digitCount = precision := by
  refine le_antisymm (digitCount_round_le hprecision number) (Nat.le_of_pred_lt ?_)
  have hkept : 10 ^ (precision - 1) ≤
      nearestQuotient number.coefficient (10 ^ (number.digitCount - precision)) := by
    refine le_trans ?_ (le_nearestQuotient _ _)
    have hsum : precision - 1 + (number.digitCount - precision) = number.digitCount - 1 := by
      omega
    rw [Nat.le_div_iff_mul_le (Nat.pow_pos (by decide)), ← Nat.pow_add, hsum]
    exact pow_le_coefficient (coefficient_ne_zero (by omega))
  refine lt_digitCount_of_pow_le ?_
  rw [round_of_lt_digitCount hmany rfl]
  split
  · next hcarry =>
    have hten : (10 : ℕ) ^ precision = 10 ^ (precision - 1) * 10 := by
      rw [← Nat.pow_succ, Nat.succ_eq_add_one, Nat.sub_add_cancel hprecision]
    show 10 ^ (precision - 1) ≤ _ / 10
    rw [hcarry, hten]
    omega
  · exact hkept

/-- A number with more digits than the precision is rounded to one that has all these digits, and
that is at most half a unit of the last one away from the value for which the number stands. -/
theorem round_nearest {value : ℚ} (hprecision : 0 < precision)
    (hmany : precision < number.digitCount) (hstands : number.StandsFor value) :
    HasDigits precision (number.round precision).toRat ∧
      |(number.round precision).toRat - value| ≤ lastUnit precision value / 2 := by
  refine ⟨⟨_, digitCount_round hprecision hmany, rfl⟩, ?_⟩
  obtain ⟨magnitude, hagrees, hvalue⟩ := hstands
  obtain ⟨zeros, hzeros⟩ := Nat.exists_eq_add_of_lt hmany
  have hexcess : number.digitCount - precision = zeros + 1 := by omega
  have hpower : (0 : ℚ) < 10 ^ number.exponent := zpow_pos (by norm_num) _
  have hunit : lastUnit precision value = 10 ^ (zeros + 1) * 10 ^ number.exponent := by
    obtain ⟨hlow, hhigh⟩ := hagrees.bounds (by omega)
    have habs : |value| = magnitude * 10 ^ number.exponent := by
      have hnonneg : 0 ≤ magnitude := le_trans (by positivity) hlow
      rw [hvalue, mul_assoc, abs_sign_mul, abs_of_nonneg (mul_nonneg hnonneg hpower.le)]
    have hleading (count : ℕ) : (10 : ℚ) ^ ((count : ℤ) + number.exponent) =
        10 ^ count * 10 ^ number.exponent := by
      rw [zpow_add₀ (by norm_num), zpow_natCast]
    have hleast : (10 : ℚ) ^ ((number.digitCount - 1 : ℕ) + number.exponent) ≤ |value| := by
      rw [habs, hleading]
      exact mul_le_mul_of_nonneg_right hlow hpower.le
    have hmost : |value| < 10 ^ ((number.digitCount - 1 : ℕ) + number.exponent + 1) := by
      have hcount : ((number.digitCount - 1 : ℕ) : ℤ) + number.exponent + 1 =
          (number.digitCount : ℕ) + number.exponent := by omega
      rw [habs, hcount, hleading]
      exact mul_lt_mul_of_pos_right hhigh hpower
    have hexponent : ((number.digitCount - 1 : ℕ) : ℤ) + number.exponent - precision + 1 =
        (zeros + 1 : ℕ) + number.exponent := by omega
    rw [lastUnit_eq hleast hmost, hexponent, hleading]
  have hkept := hagrees.abs_sub_le zeros
  rw [toRat_round hprecision hmany, hexcess, ← toRat_shift, hunit, hvalue]
  generalize nearestQuotient number.coefficient (10 ^ (zeros + 1)) * 10 ^ (zeros + 1) = kept
    at hkept ⊢
  have hrounded : toRat ⟨number.negative, kept, number.exponent⟩ =
      number.sign * kept * 10 ^ number.exponent := toRat_eq _
  have herror : toRat ⟨number.negative, kept, number.exponent⟩ -
        number.sign * magnitude * 10 ^ number.exponent =
      number.sign * ((kept - magnitude) * 10 ^ number.exponent) := by
    rw [hrounded]
    ring
  calc |toRat ⟨number.negative, kept, number.exponent⟩ -
          number.sign * magnitude * 10 ^ number.exponent|
      = |(kept : ℚ) - magnitude| * 10 ^ number.exponent := by
        rw [herror, abs_sign_mul, abs_mul, abs_of_pos hpower]
    _ ≤ 10 ^ (zeros + 1) / 2 * 10 ^ number.exponent :=
        mul_le_mul_of_nonneg_right hkept hpower.le
    _ = 10 ^ (zeros + 1) * 10 ^ number.exponent / 2 := by ring

/-! ## Quotients -/

/-- An integer division with a remainder leaves a raised quotient that stands for the value of the
division. -/
theorem standsFor_scaledQuotient (hright : right.coefficient ≠ 0)
    (hremainder : ¬ divisor precision left right ∣ dividend precision left right) :
    (scaledQuotient precision left right
      (raised (dividend precision left right / divisor precision left right))).StandsFor
        (left.toRat / right.toRat) := by
  have hpositive := divisor_pos precision left hright
  have hcast : (0 : ℚ) < divisor precision left right := Nat.cast_pos.mpr hpositive
  have hrest : dividend precision left right % divisor precision left right ≠ 0 :=
    fun hzero => hremainder (Nat.dvd_of_mod_eq_zero hzero)
  have hdivision := Nat.div_add_mod' (dividend precision left right) (divisor precision left right)
  refine ⟨_, agrees_raised ?_ ?_, toRat_div_toRat precision left right _⟩
  · rw [lt_div_iff₀ hcast, ← Nat.cast_mul, Nat.cast_lt]
    omega
  · rw [div_lt_iff₀ hcast, ← Nat.cast_mul, Nat.cast_lt]
    exact Nat.lt_mul_of_div_lt (Nat.lt_succ_self _) hpositive

/-- A division with a remainder is its raised quotient, rounded. -/
theorem div_of_not_dvd (hleft : left.coefficient ≠ 0)
    (hremainder : ¬ divisor precision left right ∣ dividend precision left right) :
    div precision left right = (scaledQuotient precision left right
      (raised (dividend precision left right / divisor precision left right))).round precision := by
  have hrest : ¬ dividend precision left right % divisor precision left right = 0 :=
    fun hzero => hremainder (Nat.dvd_of_mod_eq_zero hzero)
  unfold dividend divisor at hrest
  simp only [div, hleft, if_false, tenPower_eq]
  exact congrArg (round precision) (if_neg hrest)

/-- A quotient that does not fit in the precision has all digits of the precision, and is at most
half a unit of the last one away from the value of the division. -/
theorem div_nearest (hprecision : 0 < precision) (hright : right.coefficient ≠ 0)
    (hlong : ¬ FitsIn precision (left.toRat / right.toRat)) :
    HasDigits precision (div precision left right).toRat ∧
      |(div precision left right).toRat - left.toRat / right.toRat| ≤
        lastUnit precision (left.toRat / right.toRat) / 2 := by
  have hleft : left.coefficient ≠ 0 := by
    intro hzero
    have hvalue : toRat ⟨false, 0, 0⟩ = left.toRat / right.toRat := by
      rw [toRat_eq_zero_iff.mpr hzero, zero_div, toRat_eq_zero_iff]
    exact hlong ⟨⟨false, 0, 0⟩, hprecision, hvalue⟩
  by_cases hdvd : divisor precision left right ∣ dividend precision left right
  · have hquotient := toRat_scaledQuotient hright (Nat.mul_div_cancel' hdvd).symm
    have hstripped :=
      (toRat_stripZeros (quotientShift precision left right).toNat _).trans hquotient
    rw [div_of_dvd hleft hdvd]
    refine round_nearest hprecision ?_ (hstripped ▸ standsFor_toRat _)
    exact Nat.not_le.mp fun hfew => hlong ⟨_, hfew, hstripped⟩
  · rw [div_of_not_dvd hleft hdvd]
    refine round_nearest hprecision (lt_digitCount_of_pow_le ?_)
      (standsFor_scaledQuotient hright hdvd)
    have hquotient : 10 ^ precision ≤
        dividend precision left right / divisor precision left right := by
      rw [Nat.le_div_iff_mul_le (divisor_pos precision left hright)]
      exact pow_mul_divisor_le hleft
    exact le_trans hquotient (le_raised _)

end Decimal

namespace Builtin

open Decimal (FitsIn HasDigits lastUnit)

/-- The quality of a quotient. `div` gives a number for every divisor but zero. The number is the
quotient where the quotient has no more significant digits than the precision, which is at least
fifty. Otherwise it has as many digits as the precision, and the quotient is at most half a unit of
the last one away. So it is never further away than half a unit of the fiftieth digit. -/
theorem nearest_quotient (left right : Decimal) (hright : right.toRat ≠ 0) :
    let precision := max 50 (Decimal.losslessDigits left right)
    let exact := left.toRat / right.toRat
    ∃ text quotient,
      call? "div".toList [.literal (.number left), .literal (.number right)] = some (.ok text) ∧
      Literal.ofText text = .number quotient ∧
      (FitsIn precision exact → quotient.toRat = exact) ∧
      (¬ FitsIn precision exact → HasDigits precision quotient.toRat ∧
        |quotient.toRat - exact| ≤ lastUnit precision exact / 2) ∧
      |quotient.toRat - exact| ≤ lastUnit 50 exact / 2 := by
  intro precision exact
  have hcoefficient : right.coefficient ≠ 0 := fun h => hright (Decimal.toRat_eq_zero_iff.mpr h)
  have hprecision : 0 < precision := quotientPrecision_pos left right
  refine ⟨_, _, call?_div hcoefficient, Literal.ofText_plain _, ?_⟩
  rw [Decimal.toRat_expanded]
  have hfits : FitsIn precision exact → (Decimal.div precision left right).toRat = exact :=
    (Decimal.toRat_div_iff hprecision hcoefficient).mpr
  have hlong : ¬ FitsIn precision exact →
      HasDigits precision (Decimal.div precision left right).toRat ∧
        |(Decimal.div precision left right).toRat - exact| ≤ lastUnit precision exact / 2 :=
    Decimal.div_nearest hprecision hcoefficient
  refine ⟨hfits, hlong, ?_⟩
  by_cases hshort : FitsIn precision exact
  · have hexact : (Decimal.div precision left right).toRat = exact := hfits hshort
    have hunit := Decimal.lastUnit_pos 50 exact
    show |(Decimal.div precision left right).toRat - exact| ≤ _
    rw [hexact, sub_self, abs_zero]
    linarith
  · have hunit : lastUnit precision exact ≤ lastUnit 50 exact :=
      Decimal.lastUnit_anti (Nat.le_max_left _ _) exact
    exact le_trans (hlong hshort).2 (by linarith)

/-- `-2` divided by `3` does not terminate, and is rounded to fifty digits. -/
theorem nearest_quotient_of_two_thirds :
    Decimal.toRat ⟨false, 3, 0⟩ ≠ 0 ∧
      ∃ text quotient,
        call? "div".toList [.literal (.number ⟨true, 2, 0⟩), .literal (.number ⟨false, 3, 0⟩)] =
          some (.ok text) ∧
        Literal.ofText text = .number quotient ∧ HasDigits 50 quotient.toRat ∧
        |quotient.toRat - -2 / 3| ≤ 10 ^ (-50 : ℤ) / 2 := by
  have hright : Decimal.toRat ⟨false, 3, 0⟩ ≠ 0 := by
    rw [Ne, Decimal.toRat_eq_zero_iff]
    decide
  have hvalue : Decimal.toRat ⟨true, 2, 0⟩ / Decimal.toRat ⟨false, 3, 0⟩ = -2 / 3 := by
    norm_num [Decimal.toRat, Decimal.signed]
  have hprecision : max 50 (Decimal.losslessDigits ⟨true, 2, 0⟩ ⟨false, 3, 0⟩) = 50 := by decide
  have hlow : (10 : ℚ) ^ (-1 : ℤ) ≤ |-2 / 3| := by norm_num [abs_div]
  have hhigh : |-2 / 3| < (10 : ℚ) ^ (-1 + 1 : ℤ) := by norm_num [abs_div]
  have hunit : lastUnit 50 (-2 / 3) = 10 ^ (-50 : ℤ) := Decimal.lastUnit_eq hlow hhigh
  have hlong : ¬ FitsIn 50 (-2 / 3) := by
    have hcoefficient : (Decimal.mk false 3 0).coefficient ≠ 0 := by decide
    have hquotient : Decimal.div 50 ⟨true, 2, 0⟩ ⟨false, 3, 0⟩ =
        ⟨true, 66666666666666666666666666666666666666666666666667, -50⟩ := by decide
    rw [← hvalue, ← Decimal.toRat_div_iff (by decide) hcoefficient, hquotient, hvalue]
    norm_num [Decimal.toRat, Decimal.signed]
  obtain ⟨text, quotient, hcall, hread, -, hrounded, -⟩ :=
    nearest_quotient ⟨true, 2, 0⟩ ⟨false, 3, 0⟩ hright
  rw [hvalue, hprecision, hunit] at hrounded
  obtain ⟨hdigits, herror⟩ := hrounded hlong
  exact ⟨hright, text, quotient, hcall, hread, hdigits, herror⟩

end Builtin

end SheetCalc
