import SheetCalc.Decimal.Rounding

/-!
# Arithmetic at a precision

Every operation gives the exact result rounded to a precision. Sums keep the smaller
exponent of their operands, products add the exponents, and a quotient has the
exponent nearest to the difference of the exponents that can hold it.
`losslessDigits` is a precision at which sums, differences and products of two
numbers are not rounded.
-/

namespace SheetCalc.Decimal

/-- A number of digits that holds the sum, the difference and the product of two numbers. -/
def losslessDigits (left right : Decimal) : Nat :=
  let lengths := left.digitCount + right.digitCount
  let span :=
    max left.leadingExponent right.leadingExponent - min left.exponent right.exponent
  max lengths span.toNat + 2

/-- The exact sum. A sum of zero is negative only when both operands are. -/
def exactSum (left right : Decimal) : Decimal :=
  let exponent := min left.exponent right.exponent
  let total := left.units exponent + right.units exponent
  { negative := if total = 0 then left.negative && right.negative else total < 0
    coefficient := total.natAbs
    exponent }

/-- The exact product. -/
def exactProduct (left right : Decimal) : Decimal :=
  { negative := left.negative != right.negative
    coefficient := left.coefficient * right.coefficient
    exponent := left.exponent + right.exponent }

/-- The sum, rounded. -/
def add (precision : Nat) (left right : Decimal) : Decimal :=
  (exactSum left right).round precision

/-- The difference, rounded. -/
def sub (precision : Nat) (left right : Decimal) : Decimal :=
  add precision left right.negate

/-- The product, rounded. -/
def mul (precision : Nat) (left right : Decimal) : Decimal :=
  (exactProduct left right).round precision

/-- Removes at most `count` zeros from the end of a coefficient, moving them into the
exponent. -/
def stripZeros : Nat → Decimal → Decimal
  | 0, number => number
  | count + 1, number =>
    if number.coefficient % 10 = 0 then
      stripZeros count
        { number with coefficient := number.coefficient / 10, exponent := number.exponent + 1 }
    else number

/-- The quotient of two numbers, the divisor not being zero, rounded. The integer division
has one digit more than the precision; when it leaves a remainder, a last digit 0 or 5 is
raised by one, so that rounding sees that the quotient lies above it. -/
def div (precision : Nat) (left right : Decimal) : Decimal :=
  let negative := left.negative != right.negative
  let exponent := left.exponent - right.exponent
  if left.coefficient = 0 then ⟨negative, 0, exponent⟩
  else
    -- With this shift the quotient has at least one digit more than the precision.
    let shift : Int := right.digitCount - left.digitCount + precision + 1
    let dividend := left.coefficient * tenPower shift.toNat
    let divisor := right.coefficient * tenPower (-shift).toNat
    let quotient := dividend / divisor
    let result : Decimal :=
      if dividend % divisor = 0 then
        stripZeros shift.toNat ⟨negative, quotient, exponent - shift⟩
      else
        ⟨negative, if quotient % 5 = 0 then quotient + 1 else quotient, exponent - shift⟩
    result.round precision

end SheetCalc.Decimal
