import SheetCalc.Proofs.Decimal.Quotient
import SheetCalc.Proofs.Formula.Arithmetic

/-!
# Division undoes multiplication

A product has at least as many digits as each factor, so the precision of its division by one
factor holds the other one. The integer division leaves no remainder then, and what is left after
its zeros are stripped is the factor itself: `div_exactProduct`. Main theorem:
`quotient_of_product`. The formula `div(mul(a; b); b)` writes `a`, with the sign and with all the
digits after the point that `a` has.
-/

namespace SheetCalc

namespace Decimal

variable {left right : Decimal} {precision : ℕ}

/-- Stripping takes away the zeros that were put at the end of a coefficient. -/
theorem stripZeros_shift (negative : Bool) (coefficient count : ℕ) (exponent : ℤ) :
    stripZeros count ⟨negative, coefficient * 10 ^ count, exponent - count⟩ =
      ⟨negative, coefficient, exponent⟩ := by
  induction count with
  | zero => simp [stripZeros]
  | succ count ih =>
      have hlast : coefficient * 10 ^ (count + 1) % 10 = 0 := by
        rw [Nat.pow_succ, ← Nat.mul_assoc, Nat.mul_mod_left]
      have hfront : coefficient * 10 ^ (count + 1) / 10 = coefficient * 10 ^ count := by
        rw [Nat.pow_succ, ← Nat.mul_assoc, Nat.mul_div_cancel _ (by decide : 0 < 10)]
      have hexponent : exponent - (count + 1 : ℕ) + 1 = exponent - count := by omega
      rw [stripZeros, if_pos hlast, ← ih]
      simp only [hfront, hexponent]

/-- A product has at least as many digits as its first factor. -/
theorem digitCount_le_exactProduct (left : Decimal) (hright : right.coefficient ≠ 0) :
    left.digitCount ≤ (exactProduct left right).digitCount := by
  rw [digitCount_le_iff (exactProduct left right).digitCount_pos]
  calc left.coefficient ≤ left.coefficient * right.coefficient :=
        Nat.le_mul_of_pos_right _ (Nat.pos_of_ne_zero hright)
    _ < 10 ^ (exactProduct left right).digitCount := (exactProduct left right).coefficient_lt

/-- The digits that are said to hold a sum hold each of its operands. -/
theorem digitCount_le_losslessDigits (left right : Decimal) :
    left.digitCount ≤ losslessDigits left right := by
  rw [losslessDigits_eq]
  omega

/-- The sign of a product and that of one factor give the sign of the other one. -/
theorem negative_exactProduct (left right : Decimal) :
    ((exactProduct left right).negative != right.negative) = left.negative := by
  unfold exactProduct
  cases left.negative <;> cases right.negative <;> rfl

/-- The exponents of a product and of one factor differ by the exponent of the other one. -/
theorem exponent_exactProduct (left right : Decimal) :
    (exactProduct left right).exponent - right.exponent = left.exponent :=
  add_sub_cancel_right left.exponent right.exponent

/-- A product is divided by one factor into the other one, when the precision holds the
product. -/
theorem div_exactProduct (hright : right.coefficient ≠ 0)
    (hprecision : (exactProduct left right).digitCount ≤ precision) :
    div precision (exactProduct left right) right = left := by
  have hsign := negative_exactProduct left right
  have hexponent := exponent_exactProduct left right
  by_cases hleft : left.coefficient = 0
  · have hproduct : (exactProduct left right).coefficient = 0 := by
      rw [exactProduct, hleft, Nat.zero_mul]
    rw [div, hsign, hexponent, if_pos hproduct, ← hleft]
  · have hproduct : (exactProduct left right).coefficient ≠ 0 := Nat.mul_ne_zero hleft hright
    obtain ⟨count, hcount⟩ : ∃ count : ℕ,
        quotientShift precision (exactProduct left right) right = count :=
      Int.eq_ofNat_of_zero_le (by unfold quotientShift; omega)
    have hdivisor : divisor precision (exactProduct left right) right = right.coefficient := by
      rw [divisor, hcount]
      simp
    have hdividend : dividend precision (exactProduct left right) right =
        left.coefficient * 10 ^ count * right.coefficient := by
      rw [dividend, hcount, Int.toNat_natCast]
      exact Nat.mul_right_comm _ _ _
    have hdvd : divisor precision (exactProduct left right) right ∣
        dividend precision (exactProduct left right) right := by
      rw [hdivisor, hdividend]
      exact Nat.dvd_mul_left _ _
    have hquotient : dividend precision (exactProduct left right) right /
        divisor precision (exactProduct left right) right = left.coefficient * 10 ^ count := by
      rw [hdivisor, hdividend, Nat.mul_div_cancel _ (Nat.pos_of_ne_zero hright)]
    rw [div_of_dvd hproduct hdvd, hquotient, scaledQuotient, hsign, hexponent, hcount,
      Int.toNat_natCast, stripZeros_shift]
    exact round_of_digitCount_le ((digitCount_le_exactProduct left hright).trans hprecision)

end Decimal

/-- A number without zeros before its point is read again from its plain notation. -/
theorem Literal.ofText_plain_of_le {number : Decimal} (h : number.exponent ≤ 0) :
    ofText number.plain = .number number := by
  rw [ofText_plain, Decimal.expanded_of_le h]

/-- A literal is its own value. -/
theorem Expr.value_leaf (content : Literal) : value (.leaf content) = .ok (.literal content) :=
  rfl

namespace Formula

/-- The value of a product is read again as the exact product. -/
theorem value_product {left right : Decimal} (hleft : left.exponent ≤ 0)
    (hright : right.exponent ≤ 0) (line : Int) :
    Expr.value (.call "mul".toList [.leaf (.number left), .leaf (.number right)] line) =
      .ok (.literal (.number (left.exactProduct right))) := by
  have hexponent : (left.exactProduct right).exponent ≤ 0 := Int.add_nonpos hleft hright
  have harguments := Expr.values_of_numbers (Expr.value_leaf (.number left))
    (Expr.value_leaf (.number right))
  have hvalue := Expr.value_of_apply harguments (Arithmetic.apply_operation .mul left right line)
  exact hvalue.trans (congrArg (fun content => Except.ok (Value.literal content))
    (Literal.ofText_plain_of_le hexponent))

/-- The text of a product divided by one factor is the plain notation of the other one. -/
theorem apply_quotient (left : Decimal) {right : Decimal} (hright : right.coefficient ≠ 0)
    (line : Int) :
    Expr.apply "div".toList
      [.literal (.number (left.exactProduct right)), .literal (.number right)] line =
      .ok left.plain := by
  have hprecision : (left.exactProduct right).digitCount ≤
      Operation.quotientPrecision (left.exactProduct right) right :=
    (Decimal.digitCount_le_losslessDigits _ right).trans (Nat.le_max_right _ _)
  rw [Expr.apply, Builtin.call?_div hright, Decimal.div_exactProduct hright hprecision]

/-- Division undoes multiplication. For numbers of any length and any number of digits after the
point, the product of two numbers, divided by the second one, is written as the first one, and read
again as the same number. -/
theorem quotient_of_product (left right : Decimal) (hleft : left.exponent ≤ 0)
    (hright : right.exponent ≤ 0) (hnonzero : right.toRat ≠ 0) (inner outer : Int) :
    ∃ text,
      Formula.value ⟨"div".toList,
        [.call "mul".toList [.leaf (.number left), .leaf (.number right)] inner,
          .leaf (.number right)], outer⟩ = .ok text ∧
      text = left.plain ∧ Literal.ofText text = .number left := by
  have hcoefficient : right.coefficient ≠ 0 :=
    fun hzero => hnonzero (Decimal.toRat_eq_zero_iff.mpr hzero)
  have harguments := Expr.values_of_numbers (value_product hleft hright inner)
    (Expr.value_leaf (.number right))
  exact ⟨left.plain, value_of_apply harguments (apply_quotient left hcoefficient outer), rfl,
    Literal.ofText_plain_of_le hleft⟩

/-- `-1.50` times a divisor of sixty digits, divided by this divisor again. -/
theorem quotient_of_product_long :
    Decimal.toRat ⟨false, 10 ^ 60 - 7, -3⟩ ≠ 0 ∧
    Formula.value ⟨"div".toList,
      [.call "mul".toList
          [.leaf (.number ⟨true, 150, -2⟩), .leaf (.number ⟨false, 10 ^ 60 - 7, -3⟩)] 1,
        .leaf (.number ⟨false, 10 ^ 60 - 7, -3⟩)], 1⟩ = .ok "-1.50".toList := by
  have hnonzero : Decimal.toRat ⟨false, 10 ^ 60 - 7, -3⟩ ≠ 0 := by
    rw [Ne, Decimal.toRat_eq_zero_iff]
    decide
  obtain ⟨text, hvalue, rfl, -⟩ := quotient_of_product ⟨true, 150, -2⟩ ⟨false, 10 ^ 60 - 7, -3⟩
    (by decide) (by decide) hnonzero 1 1
  exact ⟨hnonzero, hvalue⟩

end Formula

end SheetCalc
