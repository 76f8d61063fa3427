import SheetCalc.Text.Basic

/-!
# Integers and their digits

Integers have no bound, but the way between them and their digits has one: no more than 4300
digits are read as an integer, zeros in front included, and no integer with more digits is
written out.
-/

namespace SheetCalc

/-- Why digits are not read, or an integer is not written. -/
inductive DigitLimit where
  /-- There are too many digits to be read. -/
  | read (digits : Nat)
  /-- There are too many digits to be written. -/
  | written
  deriving DecidableEq

namespace Text

/-- The most digits that are read or written. -/
def maxDigits : Nat := 4300

end Text

/-- The wording of a limit of digits. -/
def DigitLimit.message (cause : DigitLimit) : String :=
  let found :=
    match cause with
    | .read digits => ": value has " ++ toString digits ++ " digits"
    | .written => ""
  "Exceeds the limit (" ++ toString Text.maxDigits ++ " digits) for integer string conversion" ++
    found ++ "; use sys.set_int_max_str_digits() to increase the limit"

namespace Text

/-- The number that decimal digits denote, if they are not too many. -/
def readNat (digits : Text) : Except DigitLimit Nat :=
  if digits.length ≤ maxDigits then .ok (toNat digits) else .error (.read digits.length)

/-- The decimal digits of an integer, after a minus sign when it is negative, if they are not too
many. -/
def writeInt (number : Int) : Except DigitLimit Text :=
  if (ofNat number.natAbs).length ≤ maxDigits then .ok (ofInt number) else .error .written

/-- Digits are read when they are not too many. -/
theorem readNat_of_le {digits : Text} (h : digits.length ≤ maxDigits) :
    readNat digits = .ok (toNat digits) :=
  if_pos h

/-- Too many digits are not read, whatever they denote. -/
theorem readNat_of_lt {digits : Text} (h : maxDigits < digits.length) :
    readNat digits = .error (.read digits.length) :=
  if_neg (Nat.not_le.mpr h)

end Text

end SheetCalc
