import SheetCalc.Evaluation.Cell

/-!
# Evaluating a sheet

A pass goes through the lines of a sheet and through the fields of each line. A field
whose value differs from its text is edited in the snapshot of its row. Each line
yields its snapshot, or its raw fields when nothing was edited; empty lines yield
nothing. The first fault ends the pass.
-/

namespace SheetCalc

/-- Replaces the field of a cell in the snapshot of its row. -/
def Sheet.edit (sheet : Sheet) (cell : Cell) (value : Text) (line : Int) : Evaluation Unit := do
  let base ← .ofExcept (sheet.staticRecord cell.row)
  if base.length ≤ cell.column then
    throw (.evaluation (.editBeyond cell.row base.length cell.column) line)
  let edited ← .ofExcept ((signedSet base cell.column value).mapError .outOfRange)
  modify fun context =>
    let record :=
      -- Only merging trims the new value: the first edit of a row keeps it as it is.
      match context.snapshots.get? cell.row with
      | none => edited
      | some earlier => Record.merge base earlier edited
    { context with snapshots := context.snapshots.set cell.row record }

/-- A pass over a sheet: the rows that were yielded with their records, the fault that ended
it, and the context it left. -/
structure Pass where
  rows : List (Nat × Record)
  fault : Option Fault
  context : Context

namespace Sheet

/-- Evaluates the fields of a line from `column` on, where `evaluate` evaluates the text of a
cell. -/
def evaluateFields (sheet : Sheet) (evaluate : Cell → Text → Evaluation Text) (row : Nat)
    (column : Nat) : List Text → Evaluation Unit
  | [] => pure ()
  | raw :: fields => do
    let value ← evaluate ⟨row, column⟩ (Text.trim raw)
    if value ≠ raw then sheet.edit ⟨row, column⟩ value (row + 1)
    sheet.evaluateFields evaluate row (column + 1) fields

/-- Evaluates a line and gives its record. -/
def evaluateLine (sheet : Sheet) (evaluate : Cell → Text → Evaluation Text) (row : Nat)
    (line : Text) : Evaluation Record := do
  sheet.evaluateFields evaluate row 0 (rawFields line)
  return ((← get).snapshots.get? row).getD (rawFields line)

/-- Goes through lines from `row` on. -/
def passFrom (sheet : Sheet) (evaluate : Cell → Text → Evaluation Text) (row : Nat)
    (lines : List Text) (context : Context) : Pass :=
  match lines with
  | [] => ⟨[], none, context⟩
  | line :: lines =>
    if line = [] then sheet.passFrom evaluate (row + 1) lines context
    else
      match Evaluation.outcome (sheet.evaluateLine evaluate row line) context with
      | (.error fault, after) => ⟨[], some fault, after⟩
      | (.ok record, after) =>
        let pass := sheet.passFrom evaluate (row + 1) lines after
        { pass with rows := (row, record) :: pass.rows }

/-- Goes through the whole sheet. -/
def pass (sheet : Sheet) (evaluate : Cell → Text → Evaluation Text) (context : Context) : Pass :=
  sheet.passFrom evaluate 0 sheet.lines context

end Sheet

/-- The pass of an evaluator over its sheet. -/
def Evaluator.pass (evaluator : Evaluator) (context : Context) : Pass :=
  evaluator.sheet.pass evaluator.cellValue context

end SheetCalc
