import SheetCalc.Text.Basic

/-!
# Names of the builtin functions

Five functions can be called in a formula. `print` takes any number of arguments,
the arithmetic ones take two.
-/

namespace SheetCalc

/-- An arithmetic function of two numbers. -/
inductive Operation where
  | sum
  | sub
  | mul
  | div
  deriving DecidableEq

/-- A builtin function. -/
inductive Builtin where
  | print
  | arithmetic (operation : Operation)
  deriving DecidableEq

/-- The name of an arithmetic function. -/
def Operation.name : Operation → Text
  | .sum => "sum".toList
  | .sub => "sub".toList
  | .mul => "mul".toList
  | .div => "div".toList

namespace Builtin

/-- The builtin functions, in the order in which ties between names are settled. -/
def all : List Builtin :=
  [.print, .arithmetic .sum, .arithmetic .sub, .arithmetic .mul, .arithmetic .div]

/-- The name by which a function is called. -/
def name : Builtin → Text
  | .print => "print".toList
  | .arithmetic operation => operation.name

/-- The function with this name. -/
def ofName? (name : Text) : Option Builtin :=
  all.find? (·.name = name)

/-- An arithmetic function is found by its name. -/
theorem ofName?_name (operation : Operation) :
    ofName? operation.name = some (.arithmetic operation) := by
  cases operation <;> decide

/-- The number of arguments that a function takes, if it is fixed. -/
def arity : Builtin → Option Nat
  | .print => none
  | .arithmetic _ => some 2

end Builtin

end SheetCalc
