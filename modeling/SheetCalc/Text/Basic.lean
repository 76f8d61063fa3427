/-!
# Texts

Cells, formulas and messages are texts: lists of code points. This module holds
the conversions that every other module uses, the line ends of text files, and
the decimal writing of integers.

A code point of a text is a Unicode scalar value: texts with lone surrogates, which no file
holds, are left out.
-/

namespace SheetCalc

/-- A text is the list of its code points. -/
abbrev Text := List Char

namespace Text

/-- The decimal digits of a natural number, without leading zeros. -/
def ofNat (number : Nat) : Text :=
  Nat.toDigits 10 number

/-- The decimal digits of an integer, after a minus sign when it is negative. -/
def ofInt : Int → Text
  | .ofNat number => ofNat number
  | .negSucc number => '-' :: ofNat (number + 1)

/-- The number that a list of decimal digits denotes. -/
def toNat (digits : Text) : Nat :=
  Nat.ofDigitChars 10 digits 0

/-- Texts in a row, with `separator` between neighbours. -/
def join (separator : String) (texts : List Text) : Text :=
  separator.toList.intercalate texts

/-- Writes every line end, `\r\n` or a lone `\r`, as `\n`. -/
def unifyLineEnds : Text → Text
  | [] => []
  | '\r' :: '\n' :: rest => '\n' :: unifyLineEnds rest
  | c :: rest => (if c = '\r' then '\n' else c) :: unifyLineEnds rest

/-- The digits of a natural number in base sixteen, in lower case and with zeros in front
up to `width` digits. -/
def hexadecimal (width number : Nat) : Text :=
  let digits := Nat.toDigits 16 number
  List.replicate (width - digits.length) '0' ++ digits

end Text

end SheetCalc
