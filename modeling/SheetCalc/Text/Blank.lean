import SheetCalc.Text.Basic

/-!
# Blank characters

Cells and formulas are trimmed, and blanks between the tokens of a formula are
skipped. Blank are the control characters from tab to carriage return, the four
information separators, and every Unicode space and line separator.
-/

namespace SheetCalc.Text

/-- A character that trimming removes. -/
def isBlank (c : Char) : Bool :=
  let code := c.toNat
  (9 ≤ code && code ≤ 13) || (28 ≤ code && code ≤ 32) || code == 0x85 || code == 0xA0 ||
    code == 0x1680 || (0x2000 ≤ code && code ≤ 0x200A) || code == 0x2028 || code == 0x2029 ||
    code == 0x202F || code == 0x205F || code == 0x3000

/-- A text without the blanks at its front. -/
def trimStart (text : Text) : Text :=
  text.dropWhile isBlank

/-- A text without the blanks at its end. -/
def trimEnd (text : Text) : Text :=
  (text.reverse.dropWhile isBlank).reverse

/-- A text without the blanks at both ends. -/
def trim (text : Text) : Text :=
  trimEnd (trimStart text)

end SheetCalc.Text
