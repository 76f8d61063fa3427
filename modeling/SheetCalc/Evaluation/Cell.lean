import SheetCalc.Builtin.Nearest
import SheetCalc.Evaluation.Context
import SheetCalc.Formula.Text

/-!
# Values of cells

The value of a cell is its text, unless the text is a formula. A formula is evaluated
in two passes: every reference is replaced by what the value of its cell reads as, from
left to right, and then the calls are computed from the inside out.

The value of a cell in an edited row is its field in the snapshot, as it stands. The
value of any other cell is evaluated on demand, and each time anew. An evaluator that
detects cycles keeps the cells under evaluation on the trail; `budget` bounds how many
cells can be under evaluation at once. Beside the budget there is no bound on how deep
evaluations and trees nest: running out of stack is not modelled. The rows, columns and lines that
are given from outside are taken to have no more digits than are written.
-/

namespace SheetCalc

namespace Expr

/-- The text of a builtin function of some values, called in a given line. A name that is no
builtin function is reported with the most similar one. -/
def apply (name : Text) (values : List Value) (line : Int) : Except Fault Text :=
  match Builtin.call? name values with
  | some (.ok text) => .ok text
  | some (.error cause) => .error (.evaluation (.builtin cause) line)
  | none =>
    let suggestion := (Builtin.nearest? name Builtin.suggestionThreshold).map Builtin.name
    .error (.evaluation (.unknownFunction name suggestion) line)

mutual

/-- The value of a tree whose leaves are literals. A call stands for what its text reads as. -/
def value : Expr Literal → Except Fault Value
  | .leaf content => .ok (.literal content)
  | .array elements => do return .array (← values elements)
  | .call name arguments line => do
    return .literal (.ofText (← apply name (← values arguments) line))

/-- The values of trees, from left to right. -/
def values : List (Expr Literal) → Except Fault (List Value)
  | [] => .ok []
  | expr :: exprs => do
    let first ← value expr
    let rest ← values exprs
    return first :: rest

end

end Expr

/-- The text of a formula whose leaves are literals. -/
def Formula.value (formula : Formula Literal) : Except Fault Text := do
  Expr.apply formula.name (← Expr.values formula.arguments) formula.line

/-- The trimmed record of a row; a row after the last one is reported with its line. -/
def Sheet.staticRecord (sheet : Sheet) (row : Int) : Except Fault Record :=
  if sheet.lastRow < row then
    .error (.evaluation (.rowBeyond row sheet.lastRow) (row + 1))
  else (sheet.record row).mapError .outOfRange

/-- The field of a cell in the record of its row; a column after the last one is reported
with `line`. -/
def Record.fieldAt (record : Record) (cell : Cell) (line : Int) : Except Fault Text :=
  if record.length ≤ cell.column then
    .error (.evaluation (.columnBeyond cell.row record.length cell.column) line)
  else (signedGet record cell.column).mapError .outOfRange

/-- A way to find the value of a cell for a reference in a given line. -/
abbrev Lookup := Cell → Int → Evaluation Text

/-- The value of a cell for a reference in `line`, where `evaluate` evaluates the text of a
cell. -/
def Sheet.lookup (sheet : Sheet) (evaluate : Cell → Text → Evaluation Text) : Lookup :=
  fun cell line => do
    match (← get).snapshots.get? cell.row with
    | some record => .ofExcept (record.fieldAt cell line)
    | none =>
      let record ← .ofExcept (sheet.staticRecord cell.row)
      let text ← .ofExcept (record.fieldAt cell (cell.row + 1))
      evaluate cell text

/-- The literal that a leaf of a formula stands for. -/
def Leaf.fill (lookup : Lookup) (line : Int) : Leaf → Evaluation Literal
  | .literal value => pure value
  | .reference cell =>
    match Column.index cell.column with
    | .error _ => throw (.evaluation (.invalidColumn cell.column cell.text) line)
    | .ok column => do return .ofText (← lookup ⟨cell.row, column⟩ line)

/-- A formula with every reference replaced by what the value of its cell reads as. -/
def Formula.fill (lookup : Lookup) (line : Int) (formula : Formula Leaf) :
    Evaluation (Formula Literal) := do
  let arguments ← Expr.traverseAll (Leaf.fill lookup line) formula.arguments
  return { name := formula.name, arguments, line := formula.line }

/-- The value of the text of a cell. -/
def Lookup.textValue (lookup : Lookup) (text : Text) (line : Int) : Evaluation Text :=
  match Formula.body? text with
  | none => pure text
  | some body => do
    let formula ← .ofExcept (Formula.ofText line body)
    let filled ← formula.fill lookup line
    .ofExcept filled.value

/-- The value of a text in a cell, with at most `budget` cells under evaluation at once. `enter`
runs the evaluation of a cell. -/
def Sheet.valueWithin (sheet : Sheet) (enter : Cell → Evaluation Text → Evaluation Text) :
    (budget : Nat) → Cell → Text → Evaluation Text
  -- A cell is entered before the budget is looked at, so a cycle is always reported as one.
  | 0, cell, _ => enter cell (throw .endless)
  | budget + 1, cell, text =>
    enter cell
      (Lookup.textValue (sheet.lookup (sheet.valueWithin enter budget)) text (cell.row + 1))

/-- How the cells of a sheet are evaluated. -/
structure Evaluator where
  sheet : Sheet
  detectCycles : Bool
  budget : Nat

namespace Evaluator

/-- The evaluator of a sheet. Without a cycle, at most every cell of the sheet and one cell in
front of them are under evaluation at once. -/
def ofSheet (sheet : Sheet) (detectCycles : Bool) : Evaluator :=
  ⟨sheet, detectCycles, sheet.cellCount + 1⟩

/-- Runs the evaluation of a cell, on the trail when cycles are detected. -/
def enter {α : Type} (evaluator : Evaluator) (cell : Cell) (body : Evaluation α) :
    Evaluation α :=
  if evaluator.detectCycles then .onTrail cell (cell.row + 1) body else body

/-- The value of a text in a cell. -/
def cellValue (evaluator : Evaluator) : Cell → Text → Evaluation Text :=
  evaluator.sheet.valueWithin evaluator.enter evaluator.budget

/-- The value of a cell of the sheet, for a reference in a given line. -/
def lookup (evaluator : Evaluator) : Lookup :=
  evaluator.sheet.lookup evaluator.cellValue

/-- The value of a text in a given line, outside the sheet. -/
def textValue (evaluator : Evaluator) (text : Text) (line : Int) : Evaluation Text :=
  evaluator.lookup.textValue text line

/-- A formula with its references replaced, in a given line. -/
def fill (evaluator : Evaluator) (formula : Formula Leaf) (line : Int) :
    Evaluation (Formula Literal) :=
  formula.fill evaluator.lookup line

end Evaluator

end SheetCalc
