import SheetCalc.Decimal.Numeral

/-!
# Values

A formula computes with numbers, strings and booleans, and with arrays of them. A
cell holds text: a text that is a numeral is read as that number, any other as a
string.
-/

namespace SheetCalc

/-- A value that is not an array. -/
inductive Literal where
  | number (value : Decimal)
  | string (content : Text)
  | boolean (value : Bool)
  deriving DecidableEq

/-- A value: a literal or an array of values. -/
inductive Value where
  | literal (literal : Literal)
  | array (elements : List Value)

/-- The text of a literal: a number in plain notation, a string as it is. -/
def Literal.text : Literal → Text
  | .number value => value.plain
  | .string content => content
  | .boolean true => "true".toList
  | .boolean false => "false".toList

/-- The literal that the text of a cell stands for. -/
def Literal.ofText (text : Text) : Literal :=
  match Decimal.ofText? text with
  | some value => .number value
  | none => .string text

mutual

/-- The text of a value; the elements of an array stand in brackets. -/
def Value.text : Value → Text
  | .literal value => value.text
  | .array elements => '[' :: Text.join ", " (Value.texts elements) ++ [']']

/-- The texts of values. -/
def Value.texts : List Value → List Text
  | [] => []
  | value :: values => value.text :: Value.texts values

end

/-- The texts of values are their texts one by one. -/
theorem Value.texts_eq_map (values : List Value) : Value.texts values = values.map Value.text := by
  induction values with
  | nil => rfl
  | cons value values ih => simp [Value.texts, ih]

end SheetCalc
