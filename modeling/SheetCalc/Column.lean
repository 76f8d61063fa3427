import SheetCalc.Text.Integer
import SheetCalc.Text.UpperCase

/-!
# Columns

Columns are labelled `A` to `Z`, `AA`, `AB` and so on: a label is a number in base
twenty-six with the digits one to twenty-six and no zero. The labels up to `ZZZ` have
their positions by the weights of their letters; longer ones are counted on from
their first three letters. An index, counted from zero, is written to the log, so a
label whose index has too many digits has none. Only the columns up to `ZZZ` have a name.
-/

namespace SheetCalc

/-- Why a label has no index, or an index no label. -/
inductive ColumnError where
  /-- A label of at most three characters that are not all letters. -/
  | invalidName (label : Text)
  /-- A longer label that is not all letters. -/
  | invalidLetters (label : Text)
  /-- A position, counted from one, before `A` or after `ZZZ`. -/
  | invalidPosition (position : Int)
  /-- An index that has too many digits to be written to the log. -/
  | conversion (cause : DigitLimit)
  deriving DecidableEq

/-- The wording of a column error. -/
def ColumnError.message : ColumnError → String
  | .invalidName label =>
    "'" ++ String.ofList label ++
      "' is not a valid column name. Column names are from A to ZZZ"
  | .invalidLetters label => "Invalid column letters " ++ String.ofList label
  | .invalidPosition position =>
    match Text.writeInt position with
    | .ok written => "Invalid column index " ++ String.ofList written
    | .error cause => cause.message
  | .conversion cause => cause.message

namespace Column

/-- A letter that labels are written with. -/
def isLabelLetter (c : Char) : Bool :=
  'A' ≤ c && c ≤ 'Z'

/-- The digit, one to twenty-six, that a letter stands for. -/
def letterDigit (c : Char) : Nat :=
  c.toNat - 'A'.toNat + 1

/-- The letter that stands for one more than `digit`. -/
def digitLetter (digit : Nat) : Char :=
  Char.ofNat ('A'.toNat + digit)

/-- What a letter counts at each place of a label, from its end on. -/
def weights : List Nat :=
  [1, 26, 676]

/-- The position, counted from one, of a label of at most three letters in upper case. -/
def shortPosition (label : Text) : Except ColumnError Nat :=
  if label ≠ [] ∧ label.length ≤ 3 ∧ label.all isLabelLetter then
    .ok ((label.reverse.zipWith (fun c weight => letterDigit c * weight) weights).foldr (· + ·) 0)
  else .error (.invalidName label)

/-- The index of the label that one more letter makes out of the label with this index. -/
def nextIndex (index : Nat) (c : Char) : Nat :=
  (index + 1) * 26 + (c.toNat - 'A'.toNat)

/-- An index that is written to the log. -/
def logged (index : Nat) : Except ColumnError Nat :=
  match Text.writeInt index with
  | .ok _ => .ok index
  | .error cause => .error (.conversion cause)

/-- The label at a position counted from one. -/
def letters (number : Nat) : Text :=
  if _h : number = 0 then []
  else letters ((number - 1) / 26) ++ [digitLetter ((number - 1) % 26)]
termination_by number
decreasing_by
  have := Nat.div_le_self (number - 1) 26
  omega

/-- The index of the column with this label, in upper or lower case. -/
def index (label : Text) : Except ColumnError Nat :=
  let name := Text.upper label
  if name.length ≤ 3 then do logged ((← shortPosition name) - 1)
  else if name.all isLabelLetter then do
    let front ← shortPosition (name.take 3)
    logged ((name.drop 3).foldl nextIndex (front - 1))
  else .error (.invalidLetters name)

/-- The last position that has a label: that of `ZZZ`. -/
def lastPosition : Int :=
  26 + 26 * 26 + 26 * 26 * 26

/-- The label of the column with this index. -/
def label (index : Int) : Except ColumnError Text :=
  if 1 ≤ index + 1 ∧ index + 1 ≤ lastPosition then .ok (letters (index + 1).toNat)
  else .error (.invalidPosition (index + 1))

end Column

/-- The place of a cell: line zero is the header, columns are counted from zero. -/
structure Cell where
  row : Int
  column : Int
  deriving DecidableEq

/-- The name of a cell: its column label followed by its row. -/
def Cell.name (cell : Cell) : Except ColumnError Text := do
  return (← Column.label cell.column) ++ Text.ofInt cell.row

end SheetCalc
