import SheetCalc.Decimal.Basic

/-!
# Rounding

A decimal with more digits than a given precision is rounded to the nearest decimal
with that many digits; of two nearest ones the one with an even last digit is taken.
-/

namespace SheetCalc.Decimal

/-- The quotient of `number` by `unit` rounded to the nearest natural number, a tie to the
even one. -/
def nearestQuotient (number unit : Nat) : Nat :=
  let quotient := number / unit
  let remainder := number % unit
  if unit < 2 * remainder ∨ (2 * remainder = unit ∧ quotient % 2 = 1) then quotient + 1
  else quotient

/-- The number with at most `precision` digits that is nearest to `number`. -/
def round (precision : Nat) (number : Decimal) : Decimal :=
  let excess := number.digitCount - precision
  if excess = 0 then number
  else
    let coefficient := nearestQuotient number.coefficient (tenPower excess)
    -- Rounding up can carry into one more digit, which is then a zero.
    if coefficient = tenPower precision then
      { number with coefficient := coefficient / 10, exponent := number.exponent + excess + 1 }
    else { number with coefficient, exponent := number.exponent + excess }

end SheetCalc.Decimal
