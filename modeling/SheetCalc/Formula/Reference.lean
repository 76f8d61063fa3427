import SheetCalc.Expr.Basic
import SheetCalc.Text.Integer
import SheetCalc.Text.Letter
import SheetCalc.Token

/-!
# Reading references

A name that is neither called nor a boolean refers to a cell: its longest front part
of letters is the column, and what follows must be the digits of a row counted from
one. `GrammarError` lists every cause why tokens are no formula. A row with more digits
than are read is no such cause: `ParseFailure` keeps the two apart.
-/

namespace SheetCalc

/-- Why tokens are not a formula. -/
inductive GrammarError where
  /-- Something was expected where another token, or the end, was found. -/
  | expected (what : Text) (found : Option Token.Kind)
  /-- A token was expected where the formula ends. -/
  | endOfFormula
  /-- The call of the function `name` is followed by a token. -/
  | trailing (name : Text) (found : Option Token.Kind)
  /-- A name without a row number after its column. -/
  | noRow (name column rest : Text)
  /-- A name with the row number zero. -/
  | rowZero (name : Text)
  deriving DecidableEq

/-- The name of a kind of token, or of the end of the formula, in messages. -/
def Token.Kind.foundName : Option Token.Kind → String
  | some kind => kind.name
  | none => "EOF"

/-- The wording of a grammar error. -/
def GrammarError.message : GrammarError → String
  | .expected what found =>
    "Expected " ++ String.ofList what ++ ", found " ++ Token.Kind.foundName found
  | .endOfFormula => "Unexpected end of formula"
  | .trailing name found =>
    "Expected end of formula after `" ++ String.ofList name ++ "(...)`, found " ++
      Token.Kind.foundName found
  | .noRow name column rest =>
    "Invalid field identifier `" ++ String.ofList name ++
      "`, expected a row number after the column `" ++ String.ofList column ++
      "` but found `" ++ String.ofList rest ++ "`"
  | .rowZero name =>
    "Invalid field identifier `" ++ String.ofList name ++
      "`, row number starts from 1, found 0"

/-- Why tokens are not parsed. -/
inductive ParseFailure where
  /-- The tokens are no formula. -/
  | grammar (cause : GrammarError)
  /-- A row has too many digits to be read. -/
  | conversion (cause : DigitLimit)
  deriving DecidableEq

/-- The reference that a name writes. -/
def Reference.ofName (name : Text) : Except ParseFailure Reference :=
  let column := name.takeWhile Text.isLetter
  let digits := name.dropWhile Text.isLetter
  if digits = [] ∨ ¬ digits.all Char.isDigit then .error (.grammar (.noRow name column digits))
  else
    match Text.readNat digits with
    | .error cause => .error (.conversion cause)
    | .ok 0 => .error (.grammar (.rowZero name))
    | .ok row => .ok ⟨column, row, name⟩

end SheetCalc
