import SheetCalc.Fault
import SheetCalc.Formula.OfTokens

/-!
# Formulas in cells

A cell whose text starts with `=` holds a formula: what follows the equal signs,
trimmed. Any other cell holds its text.
-/

namespace SheetCalc

namespace Formula

/-- The formula that a text writes, reported with `line` when it writes none. -/
def ofText (line : Int) (text : Text) : Except Fault (Formula Leaf) :=
  match Token.list text with
  | .error cause => .error (.lexical cause line)
  | .ok tokens => (ofTokens line tokens).mapError (ParseFailure.fault line)

/-- The text of the formula that a cell holds, if it holds one. -/
def body? (text : Text) : Option Text :=
  if text.head? = some '=' then some (Text.trim (text.dropWhile (· = '='))) else none

end Formula

end SheetCalc
