import SheetCalc.Evaluation.Pass
import SheetCalc.Proofs.Evaluation.Congruence
import SheetCalc.Proofs.Sheet.Records

/-!
# One field of a pass

`Context.afterField` is the edit of a field as a function of the context, and
`outcome_evaluateFields_cons` says that a line is evaluated one field at a time: the edit
of a cell of the sheet cannot fail, so only the evaluation of the cell can end the line.
-/

namespace SheetCalc

open Evaluation

/-- The context after a field of a row whose trimmed record is `base`. -/
def Context.afterField (context : Context) (base : Record) (row column : Nat)
    (raw value : Text) : Context :=
  if value = raw then context
  else
    { context with
      snapshots := context.snapshots.set row
        (base.editedBy (context.snapshots.get? row) column value) }

namespace Context

variable {context : Context} {base : Record} {row column : Nat} {raw value : Text}

@[simp]
theorem trail_afterField : (context.afterField base row column raw value).trail = context.trail := by
  unfold afterField
  split <;> rfl

/-- A field leaves the snapshots of the other rows. -/
theorem get?_afterField_of_ne {other : Int} (h : other ≠ row) :
    (context.afterField base row column raw value).snapshots.get? other =
      context.snapshots.get? other := by
  unfold afterField
  split
  · rfl
  · simp [Snapshots.get?_set, h]

/-- A field that changes puts its value into the snapshot of its row. -/
theorem get?_afterField_of_changed (h : value ≠ raw) :
    (context.afterField base row column raw value).snapshots.get? row =
      some (base.editedBy (context.snapshots.get? row) column value) := by
  simp [afterField, h, Snapshots.get?_set]

/-- A field that does not change leaves the context. -/
theorem afterField_of_unchanged : context.afterField base row column raw raw = context := by
  simp [afterField]

end Context

/-- The first of the last entries of a list, and the entries after it. -/
theorem getElem?_and_drop_of_drop_eq_cons {α : Type} {list rest : List α} {index : Nat} {first : α}
    (h : list.drop index = first :: rest) :
    list[index]? = some first ∧ list.drop (index + 1) = rest := by
  constructor
  · rw [← List.head?_drop, h, List.head?_cons]
  · rw [← List.tail_drop, h, List.tail_cons]

/-- A column counted from zero is set in a record that has it. -/
theorem signedSet_natCast {α : Type} {list : List α} {index : Nat} (h : index < list.length)
    (entry : α) : signedSet list index entry = .ok (list.set index entry) := by
  have near : ¬ (index : Int) < leastIndex := by
    unfold leastIndex
    omega
  simp [signedSet, signedPlace?, near, h]

namespace Sheet

variable {sheet : Sheet} {evaluate : Cell → Text → Evaluation Text}
  {row column : Nat} {line : Text} {context : Context}

/-- An edit of a field that the record of its row has. -/
theorem outcome_edit_of_record {record : Record} (hrecord : sheet.staticRecord row = .ok record)
    (hcolumn : column < record.length) (value : Text) (number : Int) :
    (sheet.edit ⟨row, column⟩ value number).outcome context =
      (.ok (), { context with
        snapshots := context.snapshots.set row
          (record.editedBy (context.snapshots.get? row) column value) }) := by
  have hwidth : ¬ (record.length : Int) ≤ column := by omega
  simp only [edit, hrecord, outcome_bind, outcome_ofExcept, hwidth, if_false,
    signedSet_natCast hcolumn, mapError_ok, outcome_modify]
  rfl

/-- An edit of a cell of the sheet. -/
theorem outcome_edit (hline : sheet.lines[row]? = some line)
    (hcolumn : column < (fields line).length) (value : Text) (number : Int) :
    (sheet.edit ⟨row, column⟩ value number).outcome context =
      (.ok (), { context with
        snapshots := context.snapshots.set row
          ((fields line).editedBy (context.snapshots.get? row) column value) }) :=
  outcome_edit_of_record (staticRecord_of_line hline) hcolumn value number

/-- One field of a line. A fault of its evaluation ends the line, and the edit cannot fail. -/
theorem outcome_evaluateFields_cons (hline : sheet.lines[row]? = some line)
    (hcolumn : column < (fields line).length) {raw : Text} (rest : List Text)
    (hkeeps : (evaluate ⟨row, column⟩ (Text.trim raw)).Keeps context) :
    (sheet.evaluateFields evaluate row column (raw :: rest)).outcome context =
      match ((evaluate ⟨row, column⟩ (Text.trim raw)).outcome context).1 with
      | .ok value => (sheet.evaluateFields evaluate row (column + 1) rest).outcome
          (context.afterField (fields line) row column raw value)
      | .error fault => (.error fault, context) := by
  rw [evaluateFields]
  cases hvalue : (evaluate ⟨row, column⟩ (Text.trim raw)).outcome context with
  | mk result after =>
      obtain rfl : after = context := by simpa [Keeps, hvalue] using hkeeps
      cases result with
      | error fault => simp [outcome_bind, hvalue]
      | ok value =>
          by_cases hchanged : value = raw
          · simp [outcome_bind, hvalue, hchanged, Context.afterField_of_unchanged]
          · simp [outcome_bind, hvalue, hchanged, outcome_edit hline hcolumn, Context.afterField]

/-- The trimmed text of a field is the text of its cell. -/
theorem textAt?_of_raw (hline : sheet.lines[row]? = some line) {raw : Text}
    (hraw : (rawFields line)[column]? = some raw) :
    sheet.textAt? ⟨row, column⟩ = some (Text.trim raw) := by
  simp [hline, fields, hraw]

end Sheet

end SheetCalc
