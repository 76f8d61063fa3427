import SheetCalc.Builtin.Call
import SheetCalc.Proofs.Decimal.Plain

/-!
# Quotients

A quotient has the value of the division exactly when this value fits in the precision:
`toRat_div_iff`. So `div` is exact for the quotients that fit in its fifty digits, or in the
digits of long operands: `exact_quotient_iff`. A quotient can terminate later than that, and is
rounded then, as `terminating_quotient_rounded` shows.
-/

namespace SheetCalc

namespace Decimal

variable {number left right : Decimal} {precision : ℕ}

/-- A number is zero exactly when its coefficient is. -/
theorem toRat_eq_zero_iff : number.toRat = 0 ↔ number.coefficient = 0 := by
  have hpower : (10 : ℚ) ^ number.exponent ≠ 0 := zpow_ne_zero _ (by norm_num)
  rw [← abs_eq_zero, abs_toRat, mul_eq_zero, or_iff_left hpower, Nat.cast_eq_zero]

/-- A coefficient without zeros at its end fits in no fewer than its digits. -/
theorem not_fitsIn (hlast : number.coefficient % 10 ≠ 0) (hprecision : 0 < precision)
    (hcount : precision < number.digitCount) : ¬ FitsIn precision number.toRat := by
  intro hfits
  have hpower := dvd_pow_self 10 (show number.digitCount - precision ≠ 0 by omega)
  have hten := hpower.trans (pow_excess_dvd hfits hcount hprecision)
  exact hlast (Nat.mod_eq_zero_of_dvd hten)

/-- Stripping zeros keeps the value. -/
theorem toRat_stripZeros (count : ℕ) (number : Decimal) :
    (stripZeros count number).toRat = number.toRat := by
  induction count generalizing number with
  | zero => rfl
  | succ count ih =>
      unfold stripZeros
      split
      · next hlast =>
        have htens : number.coefficient = number.coefficient / 10 * 10 ^ 1 := by omega
        have hshift := toRat_shift number.negative (number.coefficient / 10) 1 number.exponent
        rw [ih, ← Nat.cast_one (R := ℤ), ← hshift, ← htens]
      · rfl

/-! ## The integer division behind a quotient -/

/-- The number of zeros that an integer division puts behind the dividend; when it is negative,
they are put behind the divisor. -/
def quotientShift (precision : ℕ) (left right : Decimal) : ℤ :=
  right.digitCount - left.digitCount + precision + 1

/-- The dividend of the integer division. -/
def dividend (precision : ℕ) (left right : Decimal) : ℕ :=
  left.coefficient * 10 ^ (quotientShift precision left right).toNat

/-- The divisor of the integer division. -/
def divisor (precision : ℕ) (left right : Decimal) : ℕ :=
  right.coefficient * 10 ^ (-quotientShift precision left right).toNat

/-- A quotient of the integer division, as a decimal. -/
def scaledQuotient (precision : ℕ) (left right : Decimal) (quotient : ℕ) : Decimal :=
  ⟨left.negative != right.negative, quotient,
    left.exponent - right.exponent - quotientShift precision left right⟩

/-- A division without a remainder is its quotient without zeros at its end, rounded. -/
theorem div_of_dvd (hleft : left.coefficient ≠ 0)
    (hdvd : divisor precision left right ∣ dividend precision left right) :
    div precision left right =
      (stripZeros (quotientShift precision left right).toNat (scaledQuotient precision left right
        (dividend precision left right / divisor precision left right))).round precision := by
  have hremainder := Nat.mod_eq_zero_of_dvd hdvd
  unfold dividend divisor at hremainder
  simp only [div, hleft, if_false, tenPower_eq]
  exact congrArg (round precision) (if_pos hremainder)

/-- Every quotient fits in its precision. -/
theorem digitCount_div_le (h : 0 < precision) (left right : Decimal) :
    (div precision left right).digitCount ≤ precision := by
  unfold div
  dsimp only
  split
  · exact (digitCount_le_iff h).mpr (Nat.pow_pos (by decide))
  · exact digitCount_round_le h _

/-- The integer division is by a positive number. -/
theorem divisor_pos (precision : ℕ) (left : Decimal) (hright : right.coefficient ≠ 0) :
    0 < divisor precision left right :=
  Nat.mul_pos (Nat.pos_of_ne_zero hright) (Nat.pow_pos (by decide))

/-- The integer division has more digits than the precision. -/
theorem pow_mul_divisor_le (hleft : left.coefficient ≠ 0) :
    10 ^ precision * divisor precision left right ≤ dividend precision left right := by
  have hcount := left.digitCount_pos
  have hsplit : precision + (right.digitCount + (-quotientShift precision left right).toNat) =
      left.digitCount - 1 + (quotientShift precision left right).toNat := by
    unfold quotientShift
    omega
  unfold divisor dividend
  calc 10 ^ precision * (right.coefficient * 10 ^ (-quotientShift precision left right).toNat)
      ≤ 10 ^ precision *
          (10 ^ right.digitCount * 10 ^ (-quotientShift precision left right).toNat) :=
        Nat.mul_le_mul_left _ (Nat.mul_le_mul_right _ (Nat.le_of_lt right.coefficient_lt))
    _ = 10 ^ (left.digitCount - 1) * 10 ^ (quotientShift precision left right).toNat := by
        rw [← Nat.pow_add, ← Nat.pow_add, hsplit, Nat.pow_add]
    _ ≤ left.coefficient * 10 ^ (quotientShift precision left right).toNat :=
        Nat.mul_le_mul_right _ (pow_le_coefficient hleft)

/-- The value of a division in units of the last digit of its integer division. -/
theorem toRat_div_toRat (precision : ℕ) (left right : Decimal) (quotient : ℕ) :
    left.toRat / right.toRat = (scaledQuotient precision left right quotient).sign *
      (dividend precision left right / divisor precision left right) *
        10 ^ (scaledQuotient precision left right quotient).exponent := by
  have hsign : (scaledQuotient precision left right quotient).sign = left.sign / right.sign := by
    unfold sign scaledQuotient
    cases left.negative <;> cases right.negative <;> norm_num
  have hscale : (dividend precision left right : ℚ) / divisor precision left right =
      left.coefficient / right.coefficient * 10 ^ quotientShift precision left right := by
    have hshift := Int.toNat_sub_toNat_neg (quotientShift precision left right)
    unfold dividend divisor
    push_cast
    rw [mul_div_mul_comm, ← zpow_natCast, ← zpow_natCast, ← zpow_sub₀ (by norm_num), hshift]
  have hpower : (10 : ℚ) ^ quotientShift precision left right *
        10 ^ (scaledQuotient precision left right quotient).exponent =
      10 ^ left.exponent / 10 ^ right.exponent := by
    rw [← zpow_add₀ (by norm_num), ← zpow_sub₀ (by norm_num)]
    congr 1
    show _ + (_ - _ - _) = _
    ring
  calc left.toRat / right.toRat
      = left.sign / right.sign * (left.coefficient / right.coefficient) *
          (10 ^ left.exponent / 10 ^ right.exponent) := by
        rw [left.toRat_eq, right.toRat_eq]
        ring
    _ = _ := by
        rw [← hpower, hsign, hscale]
        ring

/-- The quotient of a division without a remainder has the value of the division. -/
theorem toRat_scaledQuotient (hright : right.coefficient ≠ 0) {quotient : ℕ}
    (h : dividend precision left right = divisor precision left right * quotient) :
    (scaledQuotient precision left right quotient).toRat = left.toRat / right.toRat := by
  have hdivisor : (divisor precision left right : ℚ) ≠ 0 :=
    Nat.cast_ne_zero.mpr (divisor_pos precision left hright).ne'
  have hquotient :
      (dividend precision left right : ℚ) / divisor precision left right = quotient := by
    rw [h, Nat.cast_mul, mul_div_cancel_left₀ _ hdivisor]
  rw [toRat_div_toRat precision left right quotient, hquotient, toRat_eq]
  rfl

/-- Where the value of a division fits in the precision, the integer division leaves no
remainder. -/
theorem divisor_dvd (hprecision : 0 < precision) (hleft : left.coefficient ≠ 0)
    (hright : right.coefficient ≠ 0) (hfits : FitsIn precision (left.toRat / right.toRat)) :
    divisor precision left right ∣ dividend precision left right := by
  obtain ⟨fitting, hcount, hvalue⟩ := hfits
  rw [eq_div_iff (fun hzero => hright (toRat_eq_zero_iff.mp hzero))] at hvalue
  have hmagnitude : |fitting.toRat| * |right.toRat| = |left.toRat| := by rw [← abs_mul, hvalue]
  rw [abs_toRat, abs_toRat, abs_toRat] at hmagnitude
  have hpositive := divisor_pos precision left hright
  -- The integer division has a digit more than the precision, so the fitting coefficient is too
  -- small for it, and can only lack zeros at its end.
  have hlt : fitting.coefficient * divisor precision left right < dividend precision left right :=
    Nat.lt_of_lt_of_le
      (Nat.mul_lt_mul_of_pos_right ((digitCount_le_iff hprecision).mp hcount) hpositive)
      (pow_mul_divisor_le hleft)
  have hsame : ((fitting.coefficient * divisor precision left right : ℕ) : ℚ) *
        10 ^ (fitting.exponent + right.exponent - (-quotientShift precision left right).toNat) =
      dividend precision left right *
        10 ^ (left.exponent - (quotientShift precision left right).toNat) := by
    unfold divisor dividend
    push_cast
    rw [zpow_sub₀ (by norm_num), zpow_sub₀ (by norm_num), zpow_add₀ (by norm_num), zpow_natCast,
      zpow_natCast]
    field_simp
    linear_combination hmagnitude
  obtain ⟨zeros, -, hdividend⟩ := exists_zeros hsame hlt
  rw [hdividend, Nat.mul_comm fitting.coefficient, Nat.mul_assoc]
  exact Nat.dvd_mul_right _ _

/-- A quotient is exact if and only if the value of the division fits in the precision. -/
theorem toRat_div_iff (hprecision : 0 < precision) (hright : right.coefficient ≠ 0) :
    (div precision left right).toRat = left.toRat / right.toRat ↔
      FitsIn precision (left.toRat / right.toRat) := by
  constructor
  · intro hexact
    exact ⟨div precision left right, digitCount_div_le hprecision left right, hexact⟩
  · intro hfits
    by_cases hleft : left.coefficient = 0
    · have hzero : (div precision left right).coefficient = 0 := by simp [div, hleft]
      rw [toRat_eq_zero_iff.mpr hzero, toRat_eq_zero_iff.mpr hleft, zero_div]
    · have hdvd := divisor_dvd hprecision hleft hright hfits
      have hquotient := toRat_scaledQuotient hright (Nat.mul_div_cancel' hdvd).symm
      have hstripped := (toRat_stripZeros (quotientShift precision left right).toNat _).trans hquotient
      rw [div_of_dvd hleft hdvd, ← hstripped, toRat_round_iff hprecision, hstripped]
      exact hfits

end Decimal

namespace Builtin

open Decimal (FitsIn)

/-- The precision of a quotient is at least fifty digits. -/
theorem quotientPrecision_pos (left right : Decimal) :
    0 < Operation.quotientPrecision left right :=
  Nat.lt_of_lt_of_le (by decide) (Nat.le_max_left _ _)

/-- `div` gives the plain notation of the quotient. -/
theorem call?_div {left right : Decimal} (hright : right.coefficient ≠ 0) :
    call? "div".toList [.literal (.number left), .literal (.number right)] =
      some (.ok (Decimal.div (Operation.quotientPrecision left right) left right).plain) := by
  have hcompute : Operation.div.compute left right =
      .ok (Decimal.div (Operation.quotientPrecision left right) left right) :=
    if_neg hright
  exact call?_numbers hcompute

/-- `div` gives a number for every divisor but zero, and this number is the quotient if and only
if the quotient has no more significant digits than the precision holds. -/
theorem exact_quotient_iff (left right : Decimal) (hright : right.toRat ≠ 0) :
    ∃ text quotient,
      call? "div".toList [.literal (.number left), .literal (.number right)] = some (.ok text) ∧
      Literal.ofText text = .number quotient ∧
      (quotient.toRat = left.toRat / right.toRat ↔
        FitsIn (Operation.quotientPrecision left right) (left.toRat / right.toRat)) := by
  have hcoefficient : right.coefficient ≠ 0 := fun h => hright (Decimal.toRat_eq_zero_iff.mpr h)
  refine ⟨_, _, call?_div hcoefficient, Literal.ofText_plain _, ?_⟩
  rw [Decimal.toRat_expanded]
  exact Decimal.toRat_div_iff (quotientPrecision_pos left right) hcoefficient

/-- `7` divided by `-0.32` is exactly `-21.875`. -/
theorem exact_quotient_of_seven :
    Decimal.toRat ⟨true, 32, -2⟩ ≠ 0 ∧
      ∃ text quotient,
        call? "div".toList [.literal (.number ⟨false, 7, 0⟩), .literal (.number ⟨true, 32, -2⟩)] =
          some (.ok text) ∧
        Literal.ofText text = .number quotient ∧ quotient.toRat = -175 / 8 := by
  have hright : Decimal.toRat ⟨true, 32, -2⟩ ≠ 0 := by
    rw [Ne, Decimal.toRat_eq_zero_iff]
    decide
  have hvalue : Decimal.toRat ⟨false, 7, 0⟩ / Decimal.toRat ⟨true, 32, -2⟩ = -175 / 8 := by
    norm_num [Decimal.toRat, Decimal.signed]
  have hfits : FitsIn (Operation.quotientPrecision ⟨false, 7, 0⟩ ⟨true, 32, -2⟩) (-175 / 8) := by
    refine ⟨⟨true, 21875, -3⟩, by decide, ?_⟩
    norm_num [Decimal.toRat, Decimal.signed]
  obtain ⟨text, quotient, hcall, hread, hexact⟩ :=
    exact_quotient_iff ⟨false, 7, 0⟩ ⟨true, 32, -2⟩ hright
  rw [hvalue] at hexact
  exact ⟨hright, text, quotient, hcall, hread, hexact.mpr hfits⟩

/-- Not every quotient that terminates is exact: `1` divided by `2 ^ 72` is `5 ^ 72` in units of
the 72nd place, which has one digit more than the precision. -/
theorem terminating_quotient_rounded :
    ¬ ∀ left right : Decimal, left.exponent ≤ 0 → right.exponent ≤ 0 → right.toRat ≠ 0 →
      (∃ exact : Decimal, exact.toRat = left.toRat / right.toRat) →
      ∃ text quotient,
        call? "div".toList [.literal (.number left), .literal (.number right)] = some (.ok text) ∧
        Literal.ofText text = .number quotient ∧ quotient.toRat = left.toRat / right.toRat := by
  intro hall
  have hright : Decimal.toRat ⟨false, 2 ^ 72, 0⟩ ≠ 0 := by
    rw [Ne, Decimal.toRat_eq_zero_iff]
    decide
  have hexact : Decimal.toRat ⟨false, 5 ^ 72, -72⟩ =
      Decimal.toRat ⟨false, 1, 0⟩ / Decimal.toRat ⟨false, 2 ^ 72, 0⟩ := by
    norm_num [Decimal.toRat, Decimal.signed]
  have hlong : ¬ FitsIn (Operation.quotientPrecision ⟨false, 1, 0⟩ ⟨false, 2 ^ 72, 0⟩)
      (Decimal.toRat ⟨false, 5 ^ 72, -72⟩) :=
    Decimal.not_fitsIn (by decide) (quotientPrecision_pos _ _) (by decide)
  obtain ⟨text, quotient, hcall, hread, hvalue⟩ :=
    hall ⟨false, 1, 0⟩ ⟨false, 2 ^ 72, 0⟩ (Int.le_refl 0) (Int.le_refl 0) hright ⟨_, hexact⟩
  have hcoefficient : (2 ^ 72 : ℕ) ≠ 0 := by decide
  rw [call?_div hcoefficient, Option.some_inj, Except.ok.injEq] at hcall
  rw [← hcall, Literal.ofText_plain, Literal.number.injEq] at hread
  rw [← hread, Decimal.toRat_expanded,
    Decimal.toRat_div_iff (quotientPrecision_pos _ _) hcoefficient, ← hexact] at hvalue
  exact hlong hvalue

end Builtin

end SheetCalc
