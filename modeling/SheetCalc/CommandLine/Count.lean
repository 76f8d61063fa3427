import SheetCalc.Text.Blank
import SheetCalc.Text.Integer

/-!
# Counts

A count is a positive integer as it is typed. Blanks may stand around it and a plus sign
in front; zeros in front, single underscores between digits, and a point with nothing but
zeros after it carry no meaning. A count has no more digits than are read.
-/

namespace SheetCalc.CommandLine

/-- A blank that may stand around a count: any but the four information separators. -/
def isMargin (c : Char) : Bool :=
  Text.isBlank c && !(28 ≤ c.toNat && c.toNat ≤ 31)

/-- A text without the blanks around it. -/
def dropMargins (text : Text) : Text :=
  ((text.dropWhile isMargin).reverse.dropWhile isMargin).reverse

/-- A text without a plus sign at its front. -/
def dropPlus : Text → Text
  | '+' :: text => text
  | text => text

/-- A text without the zeros at its front. Once a zero stands there, underscores among and
after the zeros go with them, however many there are. -/
def dropZeros (text : Text) : Text :=
  if text.head? = some '0' then text.dropWhile fun c => c = '0' || c = '_' else text

/-- A text without its point and what follows, if that is zeros only. -/
def dropZeroFraction (text : Text) : Text :=
  match text.dropWhile (· ≠ '.') with
  | [] => text
  | _ :: fraction => if fraction.all (· = '0') then text.takeWhile (· ≠ '.') else text

/-- The digits of a text, if it holds groups of digits with one underscore between two. -/
def groupedDigits? (text : Text) : Option Text :=
  let groups := text.splitOn '_'
  if groups.all fun group => group ≠ [] && group.all Char.isDigit then some groups.flatten
  else none

/-- The count that a text denotes. -/
def count? (text : Text) : Option Nat :=
  match groupedDigits? (dropZeroFraction (dropZeros (dropPlus (dropMargins text)))) with
  | none => none
  | some digits => (Text.readNat digits).toOption

end SheetCalc.CommandLine
