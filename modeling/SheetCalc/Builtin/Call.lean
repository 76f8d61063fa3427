import SheetCalc.Builtin.Name
import SheetCalc.Decimal.Arithmetic
import SheetCalc.Value

/-!
# Calling builtin functions

A builtin function takes values and gives the text of its result. Sums, differences
and products are exact. A quotient keeps fifty significant digits, or more when its
operands are long, and is exact when it has no more.
-/

namespace SheetCalc

/-- Why a builtin function has no result. -/
inductive CallError where
  | wrongArity (expected found : Nat)
  | notNumbers (left right : Text)
  | divisionByZero
  deriving DecidableEq

/-- The wording of a builtin error. -/
def CallError.message : CallError → String
  | .wrongArity expected found =>
    "Expected " ++ toString expected ++ " arguments, found " ++ toString found
  | .notNumbers left right =>
    "Expected numbers found `" ++ String.ofList left ++ "` and `" ++ String.ofList right ++ "`"
  | .divisionByZero => "Division by zero"

namespace Operation

/-- The significant digits of a quotient of short operands. -/
def quotientDigits : Nat := 50

/-- The precision of a quotient. -/
def quotientPrecision (left right : Decimal) : Nat :=
  max quotientDigits (Decimal.losslessDigits left right)

/-- The result of an arithmetic function on two numbers. -/
def compute (operation : Operation) (left right : Decimal) : Except CallError Decimal :=
  match operation with
  | .sum => .ok (Decimal.add (Decimal.losslessDigits left right) left right)
  | .sub => .ok (Decimal.sub (Decimal.losslessDigits left right) left right)
  | .mul => .ok (Decimal.mul (Decimal.losslessDigits left right) left right)
  | .div =>
    if right.coefficient = 0 then .error .divisionByZero
    else .ok (Decimal.div (quotientPrecision left right) left right)

/-- The result of an arithmetic function on values: there must be two, and both numbers. -/
def call (operation : Operation) : List Value → Except CallError Text
  | [.literal (.number left), .literal (.number right)] =>
    (operation.compute left right).map Decimal.plain
  | [left, right] => .error (.notNumbers left.text right.text)
  | values => .error (.wrongArity 2 values.length)

end Operation

namespace Builtin

/-- The result of a builtin function. `print` joins the texts of its arguments. -/
def call : Builtin → List Value → Except CallError Text
  | .print, values => .ok (Text.join ", " (values.map Value.text))
  | .arithmetic operation, values => operation.call values

/-- The result of the builtin function with this name, if there is one. -/
def call? (name : Text) (values : List Value) : Option (Except CallError Text) :=
  (ofName? name).map (·.call values)

/-- An arithmetic function of two numbers gives the plain notation of its result. -/
theorem call?_numbers {operation : Operation} {left right result : Decimal}
    (h : operation.compute left right = .ok result) :
    call? operation.name [.literal (.number left), .literal (.number right)] =
      some (.ok result.plain) := by
  simp only [call?, ofName?_name, Option.map_some, call, Operation.call, h, Except.map]

end Builtin

end SheetCalc
