import SheetCalc.Text.Basic

/-!
# Decimals

A decimal is a sign, a coefficient and an exponent of ten. Numbers of equal value
can differ: `1.5` and `1.50` have other exponents, and zero has a sign. The plain
notation shows every digit of a decimal and no exponent.
-/

namespace SheetCalc

/-- The number `± coefficient · 10 ^ exponent`. -/
structure Decimal where
  negative : Bool
  coefficient : Nat
  exponent : Int
  deriving DecidableEq, Inhabited

namespace Decimal

/-- The digits of the coefficient; zero has one. -/
def digits (number : Decimal) : Text :=
  Nat.toDigits 10 number.coefficient

/-- The number of digits of the coefficient. -/
def digitCount (number : Decimal) : Nat :=
  number.digits.length

/-- The exponent of the leading digit. -/
def leadingExponent (number : Decimal) : Int :=
  number.exponent + number.digitCount - 1

/-- The number with the other sign, also for zero. -/
def negate (number : Decimal) : Decimal :=
  { number with negative := !number.negative }

/-- A power of ten. -/
def tenPower (exponent : Nat) : Nat :=
  Nat.pow 10 exponent

/-- The number in units of `10 ^ exponent`, for an exponent no larger than its own. -/
def units (number : Decimal) (exponent : Int) : Int :=
  let magnitude : Int := number.coefficient * tenPower (number.exponent - exponent).toNat
  if number.negative then -magnitude else magnitude

/-- Digits with a point before the last `places` of them, and zeros in front where the
digits do not reach over the point. -/
def pointed (digits : Text) (places : Nat) : Text :=
  let padded := List.replicate (places + 1 - digits.length) '0' ++ digits
  padded.take (padded.length - places) ++ '.' :: padded.drop (padded.length - places)

/-- The plain notation of a number without its sign. -/
def plainMagnitude (number : Decimal) : Text :=
  if number.exponent < 0 then pointed number.digits (-number.exponent).toNat
  else if number.coefficient = 0 then ['0']
  else number.digits ++ List.replicate number.exponent.toNat '0'

/-- The plain notation of a number: all its digits, and no exponent. -/
def plain (number : Decimal) : Text :=
  if number.negative then '-' :: number.plainMagnitude else number.plainMagnitude

end Decimal

end SheetCalc
