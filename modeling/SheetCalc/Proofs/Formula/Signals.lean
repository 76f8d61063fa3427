import SheetCalc.Proofs.Decimal.Nearest
import SheetCalc.Proofs.Formula.Arithmetic

/-!
# Failures of arithmetic functions

`Operation.Refuses` lists the reasons for which a function has no result, and
`Operation.Signals` what an arithmetic context reports when it computes one. Main theorem:
`fails_iff_refused`. A function fails for these reasons and for no other one. The context has room
for every result, so it reports a divisor of zero, a quotient that is not exact, and nothing else:
results are neither too large nor too small, since `abs_onRat_lt` and `le_abs_onRat` bound them by
the digits of the operands.
-/

namespace SheetCalc

/-- A value is a number. -/
def Value.IsNumber (value : Value) : Prop :=
  ∃ number, value = .literal (.number number)

/-! ## Magnitudes -/

namespace Decimal

variable {number left right : Decimal} {precision : ℕ}

/-- A number of digits that holds a number when it is written out. -/
def size (number : Decimal) : ℕ :=
  number.digitCount + number.exponent.natAbs

/-- A number that is not zero has at least the unit of its last digit. -/
theorem zpow_exponent_le (h : number.toRat ≠ 0) : 10 ^ number.exponent ≤ |number.toRat| := by
  have hcoefficient : (1 : ℚ) ≤ number.coefficient :=
    Nat.one_le_cast.mpr (Nat.one_le_iff_ne_zero.mpr fun hzero => h (toRat_eq_zero_iff.mpr hzero))
  rw [abs_toRat]
  exact le_mul_of_one_le_left (zpow_nonneg (by norm_num) _) hcoefficient

/-- A number is below the power of ten that has its size. -/
theorem abs_lt_pow_size (number : Decimal) : |number.toRat| < 10 ^ number.size := by
  have hcoefficient : (number.coefficient : ℚ) < 10 ^ number.digitCount := by
    exact_mod_cast number.coefficient_lt
  have hexponent : (10 : ℚ) ^ number.exponent ≤ 10 ^ number.exponent.natAbs := by
    rw [← zpow_natCast]
    exact zpow_le_zpow_right₀ (by norm_num) Int.le_natAbs
  calc |number.toRat| = number.coefficient * 10 ^ number.exponent := number.abs_toRat
    _ < 10 ^ number.digitCount * 10 ^ number.exponent.natAbs :=
        mul_lt_mul hcoefficient hexponent (zpow_pos (by norm_num) _) (by positivity)
    _ = 10 ^ number.size := (pow_add ..).symm

/-- A number that is not zero is not below the inverse of this power. -/
theorem zpow_neg_size_le (h : number.toRat ≠ 0) :
    (10 : ℚ) ^ (-number.size : ℤ) ≤ |number.toRat| := by
  refine le_trans (zpow_le_zpow_right₀ (by norm_num) ?_) (zpow_exponent_le h)
  unfold size
  omega

/-- Two numbers together are below the power of ten that has the digits of both, and one more. -/
theorem abs_add_abs_lt (left right : Decimal) :
    |left.toRat| + |right.toRat| < 10 ^ (left.size + right.size + 1) := by
  have hleft := left.abs_lt_pow_size
  have hright := right.abs_lt_pow_size
  have hfirst : (10 : ℚ) ^ left.size ≤ 10 ^ (left.size + right.size) :=
    pow_le_pow_right₀ (by norm_num) (Nat.le_add_right _ _)
  have hsecond : (10 : ℚ) ^ right.size ≤ 10 ^ (left.size + right.size) :=
    pow_le_pow_right₀ (by norm_num) (Nat.le_add_left _ _)
  have hpositive : (0 : ℚ) < 10 ^ (left.size + right.size) := by positivity
  rw [pow_succ]
  linarith

/-- A product is below the power of ten that has the digits of both factors. -/
theorem abs_mul_lt (left right : Decimal) :
    |left.toRat * right.toRat| < 10 ^ (left.size + right.size) :=
  calc |left.toRat * right.toRat| = |left.toRat| * |right.toRat| := abs_mul _ _
    _ < 10 ^ left.size * 10 ^ right.size :=
        mul_lt_mul'' left.abs_lt_pow_size right.abs_lt_pow_size (abs_nonneg _) (abs_nonneg _)
    _ = 10 ^ (left.size + right.size) := (pow_add ..).symm

/-- So is the value of a division. -/
theorem abs_div_lt (left right : Decimal) :
    |left.toRat / right.toRat| < 10 ^ (left.size + right.size) := by
  by_cases hzero : right.toRat = 0
  · rw [hzero, div_zero, abs_zero]
    positivity
  · have hleast := zpow_neg_size_le hzero
    rw [zpow_neg, zpow_natCast] at hleast
    have hinverse : |right.toRat|⁻¹ ≤ 10 ^ right.size := inv_le_of_inv_le₀ (by positivity) hleast
    calc |left.toRat / right.toRat| = |left.toRat| * |right.toRat|⁻¹ := by
          rw [abs_div, div_eq_mul_inv]
      _ < 10 ^ left.size * 10 ^ right.size :=
          mul_lt_mul left.abs_lt_pow_size hinverse (inv_pos.mpr (abs_pos.mpr hzero))
            (by positivity)
      _ = 10 ^ (left.size + right.size) := (pow_add ..).symm

/-- A quotient is at most half the value of the division away from it. -/
theorem abs_div_sub_le (hprecision : 0 < precision) (hright : right.coefficient ≠ 0) :
    |(div precision left right).toRat - left.toRat / right.toRat| ≤
      |left.toRat / right.toRat| / 2 := by
  by_cases hfits : FitsIn precision (left.toRat / right.toRat)
  · rw [(toRat_div_iff hprecision hright).mpr hfits, sub_self, abs_zero]
    positivity
  · have hvalue : 0 < |left.toRat / right.toRat| := by
      rw [abs_pos]
      intro hzero
      exact hfits ⟨⟨false, 0, 0⟩, hprecision, hzero ▸ toRat_eq_zero_iff.mpr rfl⟩
    -- The unit of the last digit is at most that of the first one, and so at most the value.
    have hunit : lastUnit precision (left.toRat / right.toRat) ≤ |left.toRat / right.toRat| := by
      refine le_trans (lastUnit_anti hprecision _) ?_
      have hlog := Int.zpow_log_le_self (b := 10) (by norm_num) hvalue
      simpa [lastUnit] using hlog
    exact le_trans (div_nearest hprecision hright hfits).2 (by linarith)

end Decimal

namespace Operation

open Decimal (losslessDigits)

variable {operation : Operation} {values : List Value} {left right result : Decimal}

/-! ## Refusals -/

/-- Why a function refuses its arguments. Their number comes first, then what they are, and last a
divisor of zero, of any sign and with any number of zeros. -/
inductive Refuses (operation : Operation) : List Value → CallError → Prop
  | arity {values : List Value} : values.length ≠ 2 →
      Refuses operation values (.wrongArity 2 values.length)
  | kinds {left right : Value} : ¬ (left.IsNumber ∧ right.IsNumber) →
      Refuses operation [left, right] (.notNumbers left.text right.text)
  | zero {left right : Decimal} : operation = .div → right.toRat = 0 →
      Refuses operation [.literal (.number left), .literal (.number right)] .divisionByZero

/-- A function of two numbers fails when it divides by zero. -/
theorem compute_eq_error_iff {cause : CallError} :
    operation.compute left right = .error cause ↔
      operation = .div ∧ right.toRat = 0 ∧ cause = .divisionByZero := by
  rw [Decimal.toRat_eq_zero_iff]
  cases operation with
  | div =>
      by_cases hzero : right.coefficient = 0
      · simp [compute, hzero, eq_comm]
      · simp [compute, hzero]
  | sum | sub | mul => simp [compute]

/-- A function fails when it refuses its arguments. -/
theorem Refuses.call_eq {cause : CallError} (h : operation.Refuses values cause) :
    operation.call values = .error cause := by
  cases h with
  | arity hcount =>
      unfold call
      split
      · exact absurd rfl hcount
      · exact absurd rfl hcount
      · rfl
  | kinds hkinds =>
      unfold call
      split
      · next hnumbers =>
        cases hnumbers
        exact absurd ⟨⟨_, rfl⟩, ⟨_, rfl⟩⟩ hkinds
      · next hpair =>
        cases hpair
        rfl
      · next hpair => exact absurd rfl (hpair _ _)
  | zero hdiv hzero =>
      rw [call, compute_eq_error_iff.mpr ⟨hdiv, hzero, rfl⟩]
      rfl

/-- A function fails for no other reason. -/
theorem refuses_of_call_eq_error {cause : CallError} (h : operation.call values = .error cause) :
    operation.Refuses values cause := by
  unfold call at h
  split at h
  · next left right =>
    cases hcompute : operation.compute left right with
    | ok result =>
        rw [hcompute] at h
        cases h
    | error found =>
        obtain ⟨hdiv, hzero, rfl⟩ := compute_eq_error_iff.mp hcompute
        rw [hcompute] at h
        obtain rfl := Except.error.inj h
        exact .zero hdiv hzero
  · next left right hnumbers =>
    obtain rfl := Except.error.inj h
    refine .kinds fun ⟨⟨first, hfirst⟩, ⟨second, hsecond⟩⟩ => ?_
    exact hnumbers first second hfirst hsecond
  · next hpair =>
    obtain rfl := Except.error.inj h
    refine .arity fun htwo => ?_
    obtain ⟨left, right, rfl⟩ := List.length_eq_two.mp htwo
    exact hpair left right rfl

/-- A function that does not fail gives the plain notation of a number. -/
theorem exists_of_call_eq_ok {text : Text} (h : operation.call values = .ok text) :
    ∃ number : Decimal, text = number.plain := by
  unfold call at h
  split at h
  · next left right =>
    cases hcompute : operation.compute left right with
    | ok result =>
        rw [hcompute] at h
        exact ⟨result, (Except.ok.inj h).symm⟩
    | error cause =>
        rw [hcompute] at h
        cases h
  · cases h
  · cases h

/-! ## Signals -/

/-- What an arithmetic context can report about a result, besides that rounding has cut off zeros.
An underflow is always subnormal too. -/
inductive Signal where
  /-- The operation is not defined for its operands. -/
  | invalidOperation
  | divisionByZero
  /-- The exponent of the leading digit is too large. -/
  | overflow
  /-- The exponent of the leading digit is too small. -/
  | subnormal
  /-- The exponent of a zero is too large or too small. -/
  | clamped
  /-- Digits other than zero were lost in rounding. -/
  | inexact
  deriving DecidableEq

/-- The function on rational numbers. -/
def onRat : Operation → ℚ → ℚ → ℚ
  | .sum, left, right => left + right
  | .sub, left, right => left - right
  | .mul, left, right => left * right
  | .div, left, right => left / right

/-- The precision of a result. -/
def precision : Operation → Decimal → Decimal → ℕ
  | .div, left, right => quotientPrecision left right
  | _, left, right => losslessDigits left right

/-- A context reports something about the result of a function. `limit` is its largest exponent, and
without the sign its smallest one. -/
inductive Signals (limit : ℕ) (operation : Operation) (left right : Decimal) : Signal → Prop
  | invalidOperation : operation = .div → left.toRat = 0 → right.toRat = 0 →
      Signals limit operation left right .invalidOperation
  | divisionByZero : operation = .div → left.toRat ≠ 0 → right.toRat = 0 →
      Signals limit operation left right .divisionByZero
  | overflow {result : Decimal} : operation.compute left right = .ok result →
      10 ^ (limit + 1) ≤ |result.toRat| →
      Signals limit operation left right .overflow
  | subnormal {result : Decimal} : operation.compute left right = .ok result →
      operation.onRat left.toRat right.toRat ≠ 0 →
      |operation.onRat left.toRat right.toRat| < 10 ^ (-limit : ℤ) →
      Signals limit operation left right .subnormal
  | clamped {result : Decimal} : operation.compute left right = .ok result →
      result.toRat = 0 →
      (result.exponent < -limit - (operation.precision left right - 1) ∨ limit < result.exponent) →
      Signals limit operation left right .clamped
  | inexact {result : Decimal} : operation.compute left right = .ok result →
      result.toRat ≠ operation.onRat left.toRat right.toRat →
      Signals limit operation left right .inexact

variable {limit : ℕ} {signal : Signal}

/-- Every function but the division is exact. -/
theorem exact_or_div (operation : Operation) :
    (∃ function : ExactOperation, operation = function.operation) ∨ operation = .div := by
  cases operation with
  | sum => exact .inl ⟨.sum, rfl⟩
  | sub => exact .inl ⟨.sub, rfl⟩
  | mul => exact .inl ⟨.mul, rfl⟩
  | div => exact .inr rfl

/-- An exact function is itself on rational numbers. -/
theorem onRat_operation (function : ExactOperation) (left right : ℚ) :
    function.operation.onRat left right = function.onRat left right := by
  cases function <;> rfl

/-- The last digit of an exact result has a place among the digits of the operands. -/
theorem natAbs_exponent_onDecimals_le (function : ExactOperation) (left right : Decimal) :
    (function.onDecimals left right).exponent.natAbs ≤ left.size + right.size := by
  have hmin : (min left.exponent right.exponent).natAbs ≤ left.size + right.size := by
    unfold Decimal.size
    omega
  cases function with
  | sum => exact hmin
  | sub => exact hmin
  | mul =>
      show (left.exponent + right.exponent).natAbs ≤ _
      unfold Decimal.size
      omega

/-- A precision is never zero. -/
theorem precision_pos (operation : Operation) (left right : Decimal) :
    0 < operation.precision left right := by
  cases operation with
  | div => exact Builtin.quotientPrecision_pos left right
  | sum | sub | mul => exact Nat.succ_pos _

/-- The precision of a result is not much more than the digits of the operands. -/
theorem precision_le (operation : Operation) (left right : Decimal) :
    operation.precision left right ≤ quotientDigits + (left.size + right.size) := by
  have hlossless : losslessDigits left right ≤ left.size + right.size + 2 := by
    rw [Decimal.losslessDigits_eq]
    unfold Decimal.leadingExponent Decimal.size
    omega
  cases operation with
  | div =>
      show max quotientDigits (losslessDigits left right) ≤ _
      unfold quotientDigits
      omega
  | sum | sub | mul =>
      show losslessDigits left right ≤ _
      unfold quotientDigits
      omega

/-- A value is below the power of ten that has the digits of the operands, and one more. -/
theorem abs_onRat_lt (operation : Operation) (left right : Decimal) :
    |operation.onRat left.toRat right.toRat| < 10 ^ (left.size + right.size + 1) := by
  have hpower : (10 : ℚ) ^ (left.size + right.size) ≤ 10 ^ (left.size + right.size + 1) :=
    pow_le_pow_right₀ (by norm_num) (Nat.le_succ _)
  have htotal := left.abs_add_abs_lt right
  cases operation with
  | sum => exact lt_of_le_of_lt (abs_add_le _ _) htotal
  | sub => exact lt_of_le_of_lt (abs_sub _ _) htotal
  | mul => exact lt_of_lt_of_le (left.abs_mul_lt right) hpower
  | div => exact lt_of_lt_of_le (left.abs_div_lt right) hpower

/-- A value other than zero is not below the inverse of the power of ten that has the digits of the
operands. -/
theorem le_abs_onRat (h : operation.onRat left.toRat right.toRat ≠ 0) :
    (10 : ℚ) ^ (-(left.size + right.size : ℕ) : ℤ) ≤ |operation.onRat left.toRat right.toRat| := by
  rcases operation.exact_or_div with ⟨function, rfl⟩ | rfl
  · rw [onRat_operation, ← function.toRat_onDecimals] at h ⊢
    have hplace := natAbs_exponent_onDecimals_le function left right
    exact le_trans (zpow_le_zpow_right₀ (by norm_num) (by omega)) (Decimal.zpow_exponent_le h)
  · have hzero : left.toRat ≠ 0 ∧ right.toRat ≠ 0 := div_ne_zero_iff.mp h
    have hsplit : (10 : ℚ) ^ (-(left.size + right.size : ℕ) : ℤ) =
        10 ^ (-left.size : ℤ) / 10 ^ right.size := by
      rw [Nat.cast_add, neg_add, zpow_add₀ (by norm_num), zpow_neg _ (right.size : ℤ),
        zpow_natCast, div_eq_mul_inv]
    show _ ≤ |left.toRat / right.toRat|
    rw [hsplit, abs_div]
    exact div_le_div₀ (abs_nonneg _) (Decimal.zpow_neg_size_le hzero.1) (abs_pos.mpr hzero.2)
      right.abs_lt_pow_size.le

/-- The result of an exact function has its value. -/
theorem eq_of_compute_operation {function : ExactOperation}
    (h : function.operation.compute left right = .ok result) :
    result = function.onDecimals left right :=
  (Except.ok.inj ((function.compute_operation left right).symm.trans h)).symm

/-- A quotient is computed for a divisor other than zero, at its precision. -/
theorem of_compute_div (h : div.compute left right = .ok result) :
    right.coefficient ≠ 0 ∧ result = Decimal.div (div.precision left right) left right := by
  by_cases hzero : right.coefficient = 0
  · simp [compute, hzero] at h
  · simp only [compute, if_neg hzero] at h
    exact ⟨hzero, (Except.ok.inj h).symm⟩

/-- A result is at most half the value away from the value. -/
theorem abs_sub_onRat_le (h : operation.compute left right = .ok result) :
    |result.toRat - operation.onRat left.toRat right.toRat| ≤
      |operation.onRat left.toRat right.toRat| / 2 := by
  rcases operation.exact_or_div with ⟨function, rfl⟩ | rfl
  · rw [eq_of_compute_operation h, function.toRat_onDecimals, onRat_operation, sub_self, abs_zero]
    positivity
  · obtain ⟨hright, rfl⟩ := of_compute_div h
    exact Decimal.abs_div_sub_le (div.precision_pos left right) hright

/-- The exponent of a zero is not larger than the operands. -/
theorem natAbs_exponent_le_of_zero (h : operation.compute left right = .ok result)
    (hzero : result.toRat = 0) : result.exponent.natAbs ≤ left.size + right.size := by
  have hclose := abs_sub_onRat_le h
  rcases operation.exact_or_div with ⟨function, rfl⟩ | rfl
  · rw [eq_of_compute_operation h]
    exact natAbs_exponent_onDecimals_le function left right
  · obtain ⟨hright, rfl⟩ := of_compute_div h
    -- No quotient is rounded to zero: it would be a whole value away from its value, not a half.
    have hvalue : left.toRat / right.toRat = 0 := by
      rw [hzero, zero_sub, abs_neg] at hclose
      have hnonneg := abs_nonneg (div.onRat left.toRat right.toRat)
      have hnone : |div.onRat left.toRat right.toRat| = 0 := by linarith
      exact abs_eq_zero.mp hnone
    have hleft : left.coefficient = 0 := by
      rw [div_eq_zero_iff, Decimal.toRat_eq_zero_iff, Decimal.toRat_eq_zero_iff] at hvalue
      exact hvalue.resolve_right hright
    have hexponent : (Decimal.div (div.precision left right) left right).exponent =
        left.exponent - right.exponent := by
      simp [Decimal.div, hleft]
    rw [hexponent]
    unfold Decimal.size
    omega

/-- A division by zero is refused when a context reports one of two things: that zero is divided by
zero, or that another number is. -/
theorem refuses_zero_iff :
    operation.Refuses [.literal (.number left), .literal (.number right)] .divisionByZero ↔
      operation.Signals limit left right .divisionByZero ∨
        operation.Signals limit left right .invalidOperation := by
  constructor
  · intro h
    cases h with
    | zero hdiv hright =>
        by_cases hleft : left.toRat = 0
        · exact .inr (.invalidOperation hdiv hleft hright)
        · exact .inl (.divisionByZero hdiv hleft hright)
  · rintro (h | h)
    · cases h with
      | divisionByZero hdiv _ hright => exact .zero hdiv hright
    · cases h with
      | invalidOperation hdiv _ hright => exact .zero hdiv hright

/-- A context with room for the digits of the operands, and for the digits of a quotient, reports a
divisor of zero or a rounded quotient, and nothing else. -/
theorem Signals.cases_of_room (hroom : quotientDigits + (left.size + right.size) ≤ limit)
    (h : operation.Signals limit left right signal) :
    signal = .divisionByZero ∨ signal = .invalidOperation ∨
      signal = .inexact ∧ operation = .div := by
  cases h with
  | invalidOperation => exact .inr (.inl rfl)
  | divisionByZero => exact .inl rfl
  | inexact hcompute hinexact =>
      rcases operation.exact_or_div with ⟨function, rfl⟩ | hdiv
      · rw [eq_of_compute_operation hcompute, function.toRat_onDecimals,
          onRat_operation] at hinexact
        exact absurd rfl hinexact
      · exact .inr (.inr ⟨rfl, hdiv⟩)
  | clamped hcompute hzero hexponent =>
      have hplace := natAbs_exponent_le_of_zero hcompute hzero
      have hprecision := operation.precision_pos left right
      omega
  | subnormal hcompute hvalue hsmall =>
      have hleast := le_abs_onRat hvalue
      have hpower : (10 : ℚ) ^ (-limit : ℤ) ≤ 10 ^ (-(left.size + right.size : ℕ) : ℤ) :=
        zpow_le_zpow_right₀ (by norm_num) (by omega)
      linarith
  | @overflow result hcompute hlarge =>
      -- The result is at most one and a half times the value, and there is room for ten times it.
      have hclose := abs_sub_onRat_le hcompute
      have hvalue := abs_onRat_lt operation left right
      have hpower : (10 : ℚ) ^ (left.size + right.size + 1) * 10 ≤ 10 ^ (limit + 1) := by
        rw [← pow_succ]
        unfold quotientDigits at hroom
        exact pow_le_pow_right₀ (by norm_num) (by omega)
      have hresult := abs_sub_abs_le_abs_sub result.toRat (operation.onRat left.toRat right.toRat)
      have hpositive : (0 : ℚ) < 10 ^ (left.size + right.size + 1) := by positivity
      linarith

end Operation

namespace Builtin

open Operation (Refuses Signals quotientDigits)

/-- An arithmetic function gives what its name says. -/
theorem call?_name (operation : Operation) (values : List Value) :
    call? operation.name values = some (operation.call values) := by
  rw [call?, ofName?_name]
  rfl

/-- Arithmetic functions fail exactly when they should. A function fails when it does not get two
arguments, when they are not both numbers, and when it divides by zero, in this order, and fails
in no other case: it gives a text then that is read as a number. For two numbers, let a context
have precisions and exponents up to any limit that leaves room for the digits of the numbers; the
limit `10 ^ 18 - 1` does so for any numbers of fewer than `10 ^ 17` digits. The precision of
the function is within the limit, `Division by zero` is what becomes of the two signals of a
division by zero, and there are no other signals, but that a quotient may be rounded. -/
theorem fails_iff_refused (operation : Operation) (values : List Value) :
    (∀ cause, call? operation.name values = some (.error cause) ↔
      operation.Refuses values cause) ∧
    ((∀ cause, ¬ operation.Refuses values cause) →
      ∃ text number, call? operation.name values = some (.ok text) ∧
        Literal.ofText text = .number number) ∧
    ∀ left right, values = [.literal (.number left), .literal (.number right)] →
      ∀ limit, quotientDigits + (left.size + right.size) ≤ limit →
        operation.precision left right ≤ limit ∧
        (call? operation.name values = some (.error .divisionByZero) ↔
          operation.Signals limit left right .divisionByZero ∨
            operation.Signals limit left right .invalidOperation) ∧
        ∀ signal, operation.Signals limit left right signal →
          signal = .divisionByZero ∨ signal = .invalidOperation ∨
            signal = .inexact ∧ operation = .div := by
  have hfails (cause : CallError) : call? operation.name values = some (.error cause) ↔
      operation.Refuses values cause := by
    rw [call?_name, Option.some_inj]
    exact ⟨Operation.refuses_of_call_eq_error, Refuses.call_eq⟩
  refine ⟨hfails, fun hnone => ?_, ?_⟩
  · cases hcall : operation.call values with
    | error cause => exact absurd (Operation.refuses_of_call_eq_error hcall) (hnone cause)
    | ok text =>
        obtain ⟨number, rfl⟩ := Operation.exists_of_call_eq_ok hcall
        have hgiven : call? operation.name values = some (.ok number.plain) := by
          rw [call?_name, hcall]
        exact ⟨number.plain, number.expanded, hgiven, Literal.ofText_plain number⟩
  · rintro left right rfl limit hroom
    refine ⟨(operation.precision_le left right).trans hroom, ?_, fun signal hsignal =>
      hsignal.cases_of_room hroom⟩
    rw [hfails]
    exact Operation.refuses_zero_iff

/-- `div` refuses one argument, a text in front of a zero, and a zero with two places and a minus
sign. It divides `1` by `3`, and a context with exponents of eighteen digits reports no more than
that the quotient is rounded. -/
theorem fails_iff_refused_of_div :
    let one : Decimal := ⟨false, 1, 0⟩
    let three : Decimal := ⟨false, 3, 0⟩
    let zero : Decimal := ⟨true, 0, -2⟩
    call? "div".toList [.literal (.number one)] = some (.error (.wrongArity 2 1)) ∧
    call? "div".toList [.literal (.string ['a']), .literal (.number zero)] =
      some (.error (.notNumbers ['a'] "-0.00".toList)) ∧
    call? "div".toList [.literal (.number one), .literal (.number zero)] =
      some (.error .divisionByZero) ∧
    (∃ text number,
      call? "div".toList [.literal (.number one), .literal (.number three)] = some (.ok text) ∧
        Literal.ofText text = .number number) ∧
    ∀ signal, Operation.div.Signals 999999999999999999 one three signal → signal = .inexact := by
  intro one three zero
  have hthree : three.toRat ≠ 0 := by
    rw [Ne, Decimal.toRat_eq_zero_iff]
    decide
  have hnone (cause : CallError) : ¬ Operation.div.Refuses
      [.literal (.number one), .literal (.number three)] cause := by
    intro h
    cases h with
    | arity hcount => exact hcount rfl
    | kinds hkinds => exact hkinds ⟨⟨_, rfl⟩, ⟨_, rfl⟩⟩
    | zero _ hzero => exact hthree hzero
  obtain ⟨hfails, hgives, hsignals⟩ :=
    fails_iff_refused .div [.literal (.number one), .literal (.number three)]
  obtain ⟨-, hcaught, hreported⟩ :=
    hsignals one three rfl 999999999999999999 (by decide)
  refine ⟨?_, ?_, ?_, hgives hnone, fun signal hsignal => ?_⟩
  · exact ((fails_iff_refused .div _).1 _).mpr (.arity (by decide))
  · have hleft : (Value.literal (.string ['a'])).text = ['a'] := by rw [Value.text, Literal.text]
    have hright : (Value.literal (.number zero)).text = "-0.00".toList := by
      rw [Value.text, Literal.text]
      decide
    have hkinds : ¬ ((Value.literal (.string ['a'])).IsNumber ∧
        (Value.literal (.number zero)).IsNumber) := by
      rintro ⟨⟨_, htext⟩, -⟩
      cases htext
    have hrefused : Refuses .div _ _ := .kinds hkinds
    rw [hleft, hright] at hrefused
    exact ((fails_iff_refused .div _).1 _).mpr hrefused
  · exact ((fails_iff_refused .div _).1 _).mpr
      (.zero rfl (Decimal.toRat_eq_zero_iff.mpr rfl))
  · have huncaught := fun h => hnone .divisionByZero ((hfails _).mp (hcaught.mpr h))
    rcases hreported signal hsignal with rfl | rfl | ⟨hinexact, -⟩
    · exact absurd (.inl hsignal) huncaught
    · exact absurd (.inr hsignal) huncaught
    · exact hinexact

end Builtin

end SheetCalc
