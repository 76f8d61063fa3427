import SheetCalc.Decimal.Basic

/-!
# Numerals

A numeral is an optional minus sign, digits, and an optional point followed by
digits. It denotes a decimal when it has a digit on either side of the point:
`5.` and `-.5` are numbers, `-` and `-.` are none.
-/

namespace SheetCalc

/-- A numeral as written: its sign, the digits before the point, and the digits after the
point when there is one. -/
structure Numeral where
  negative : Bool
  whole : Text
  fraction : Option Text
  deriving DecidableEq

namespace Numeral

/-- The digits of a numeral, without sign and point. -/
def digits (numeral : Numeral) : Text :=
  numeral.whole ++ numeral.fraction.getD []

/-- The characters of a numeral. -/
def text (numeral : Numeral) : Text :=
  (if numeral.negative then ['-'] else []) ++ numeral.whole ++
    match numeral.fraction with
    | none => []
    | some digits => '.' :: digits

/-- The decimal that a numeral denotes, every digit after the point kept. -/
def value (numeral : Numeral) : Decimal :=
  ⟨numeral.negative, Text.toNat numeral.digits, -((numeral.fraction.getD []).length : Int)⟩

/-- Splits a text after the digits, point and digits at its front. -/
def ofUnsigned (negative : Bool) (text : Text) : Numeral × Text :=
  match text.dropWhile Char.isDigit with
  | '.' :: rest =>
    (⟨negative, text.takeWhile Char.isDigit, some (rest.takeWhile Char.isDigit)⟩,
      rest.dropWhile Char.isDigit)
  | rest => (⟨negative, text.takeWhile Char.isDigit, none⟩, rest)

/-- Splits a text after the longest numeral at its front. -/
def split : Text → Numeral × Text
  | '-' :: text => ofUnsigned true text
  | text => ofUnsigned false text

/-- Splitting off digits, point and digits loses no character. -/
theorem text_ofUnsigned (negative : Bool) (text : Text) :
    (ofUnsigned negative text).1.text ++ (ofUnsigned negative text).2 =
      (if negative then '-' :: text else text) := by
  have whole := List.takeWhile_append_dropWhile (p := Char.isDigit) (l := text)
  unfold ofUnsigned
  split
  · next rest h =>
    have fraction := List.takeWhile_append_dropWhile (p := Char.isDigit) (l := rest)
    rw [h] at whole
    cases negative <;> simp [Numeral.text, fraction, whole]
  · cases negative <;> simp [Numeral.text, whole]

/-- Splitting off a numeral loses no character. -/
theorem text_split (text : Text) : (split text).1.text ++ (split text).2 = text := by
  unfold split
  split <;> simp [text_ofUnsigned]

end Numeral

/-- The decimal that a whole text denotes, if the text is a numeral with a digit. -/
def Decimal.ofText? (text : Text) : Option Decimal :=
  let (numeral, rest) := Numeral.split text
  if rest = [] ∧ numeral.digits ≠ [] then some numeral.value else none

end SheetCalc
