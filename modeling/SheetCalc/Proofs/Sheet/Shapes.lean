import SheetCalc.Proofs.Sheet.Cells
import SheetCalc.Proofs.Sheet.Records

/-!
# The shape of a sheet

`Sheet.Fits` says that the snapshots have the shape of the sheet: each one belongs to a line, and is
as long as the record of the line. Then the range checks of a snapshot and those of a record agree,
and a reference is out of range exactly where the sheet has no cell: `Fits.outcome_lookup`.
-/

namespace SheetCalc

open Evaluation

namespace Sheet

variable {sheet : Sheet} {snapshots : Snapshots} {row column : Nat} {line : Text}

/-- Trimming keeps the number of fields. -/
theorem length_fields (line : Text) : (fields line).length = (rawFields line).length :=
  List.length_map _

/-- Every snapshot belongs to a line of the sheet, and has as many fields as the line. -/
def Fits (sheet : Sheet) (snapshots : Snapshots) : Prop :=
  ∀ place record, snapshots.get? place = some record →
    ∃ (row : Nat) (line : Text), place = row ∧ sheet.lines[row]? = some line ∧
      record.length = (rawFields line).length

/-- Without snapshots there is nothing to fit. -/
theorem Fits.empty (sheet : Sheet) : sheet.Fits .empty := by
  intro place record h
  cases h

/-- The snapshot of a row is as long as the record of its line. -/
theorem Fits.length_eq (h : sheet.Fits snapshots) (hline : sheet.lines[row]? = some line)
    {record : Record} (hrecord : snapshots.get? row = some record) :
    record.length = (rawFields line).length := by
  obtain ⟨place, other, hplace, hother, hlength⟩ := h row record hrecord
  obtain rfl : row = place := Int.ofNat.inj hplace
  obtain rfl := Option.some.inj (hline.symm.trans hother)
  exact hlength

/-- An edit of a line keeps the shape. -/
theorem Fits.set_editedBy (h : sheet.Fits snapshots) (hline : sheet.lines[row]? = some line)
    (column : Nat) (value : Text) :
    sheet.Fits (snapshots.set row
      ((fields line).editedBy (snapshots.get? row) column value)) := by
  intro place record hrecord
  rw [Snapshots.get?_set] at hrecord
  split at hrecord
  · next hplace =>
    obtain rfl := Option.some.inj hrecord
    have hearlier : ∀ earlier, snapshots.get? row = some earlier →
        earlier.length = (fields line).length := fun earlier hearlier =>
      (h.length_eq hline hearlier).trans (length_fields line).symm
    exact ⟨row, line, hplace, hline, (Record.length_editedBy hearlier).trans (length_fields line)⟩
  · exact h place record hrecord

/-- What is wrong with a reference to a cell that the sheet does not have. -/
def absence (sheet : Sheet) (row column : Nat) : EvaluationError :=
  match sheet.lines[row]? with
  | none => .rowBeyond row sheet.lastRow
  | some line => .columnBeyond row (rawFields line).length column

/-- A row that a sheet with a line does not have is not the header. -/
theorem pos_of_beyond (hlines : sheet.lines ≠ []) (h : sheet.lines[row]? = none) : 1 ≤ row := by
  have hlength := List.length_pos_of_ne_nil hlines
  have hbeyond := List.getElem?_eq_none_iff.mp h
  omega

/-- A missing cell is reported with what is wrong with the reference to it, in its own line. -/
theorem missing_eq_absence (hlines : sheet.lines ≠ []) (row column : Nat) :
    sheet.missing ⟨row, column⟩ = .evaluation (sheet.absence row column) (row + 1) := by
  unfold missing absence
  cases hline : sheet.lines[row]? with
  | some line =>
      rw [staticRecord_of_line hline]
      show Fault.evaluation (.columnBeyond row (fields line).length column) _ = _
      rw [length_fields]
  | none => rw [staticRecord_of_beyond (pos_of_beyond hlines hline) hline]

variable {evaluate : Cell → Text → Evaluation Text} {context : Context}

/-- A missing cell of a row without a snapshot is reported in its own line. -/
theorem outcome_lookup_of_absent (hlines : sheet.lines ≠ [])
    (hsnapshot : context.snapshots.get? row = none) (htext : sheet.textAt? ⟨row, column⟩ = none)
    (number : Int) :
    (sheet.lookup evaluate ⟨row, column⟩ number).outcome context =
      (.error (.evaluation (sheet.absence row column) (row + 1)), context) := by
  rw [← missing_eq_absence hlines row column]
  exact outcome_lookup_of_missing_natCast hsnapshot (pos_of_beyond hlines) htext

namespace Fits

variable (h : sheet.Fits context.snapshots)
include h

/-- A row with a snapshot answers for the cells of the sheet from it. -/
theorem outcome_lookup_of_some {record : Record}
    (hsnapshot : context.snapshots.get? row = some record) {text : Text}
    (htext : sheet.textAt? ⟨row, column⟩ = some text) (number : Int) :
    ∃ field, record[column]? = some field ∧
      (sheet.lookup evaluate ⟨row, column⟩ number).outcome context = (.ok field, context) := by
  rw [textAt?_natCast, Option.bind_eq_some_iff] at htext
  obtain ⟨line, hline, hfield⟩ := htext
  have hcolumn : column < record.length := by
    rw [h.length_eq hline hsnapshot, ← length_fields]
    exact (List.getElem?_eq_some_iff.mp hfield).1
  refine ⟨record[column], List.getElem?_eq_getElem hcolumn, ?_⟩
  rw [outcome_lookup_of_snapshot hsnapshot, Record.fieldAt_natCast,
    List.getElem?_eq_getElem hcolumn]

/-- A row with a snapshot reports a cell that the sheet does not have in the line of the
reference. -/
theorem outcome_lookup_of_none {record : Record}
    (hsnapshot : context.snapshots.get? row = some record)
    (htext : sheet.textAt? ⟨row, column⟩ = none) (number : Int) :
    (sheet.lookup evaluate ⟨row, column⟩ number).outcome context =
      (.error (.evaluation (sheet.absence row column) number), context) := by
  obtain ⟨place, line, hplace, hline, hlength⟩ := h row record hsnapshot
  obtain rfl : row = place := Int.ofNat.inj hplace
  have hfield : (fields line)[column]? = none := by simpa [hline] using htext
  have hbeyond : record[column]? = none := by
    rw [List.getElem?_eq_none_iff, hlength, ← length_fields]
    exact List.getElem?_eq_none_iff.mp hfield
  rw [outcome_lookup_of_snapshot hsnapshot, Record.fieldAt_natCast, hbeyond, absence, hline,
    hlength]

/-- What a reference gives. A cell that the sheet has answers from the snapshot of its row, or is
evaluated; any other cell is reported with its row, and with its column when the row is there. -/
theorem outcome_lookup (hlines : sheet.lines ≠ []) (row column : Nat) (number : Int) :
    let answer := (sheet.lookup evaluate ⟨row, column⟩ number).outcome context
    match sheet.textAt? ⟨row, column⟩, context.snapshots.get? row with
    | some text, none => answer = (evaluate ⟨row, column⟩ text).outcome context
    | some _, some record => ∃ field, record[column]? = some field ∧ answer = (.ok field, context)
    | none, none => answer = (.error (.evaluation (sheet.absence row column) (row + 1)), context)
    | none, some _ =>
      answer = (.error (.evaluation (sheet.absence row column) number), context) := by
  cases htext : sheet.textAt? ⟨row, column⟩ with
  | some text =>
      cases hsnapshot : context.snapshots.get? row with
      | none => exact outcome_lookup_of_text hsnapshot htext
      | some record => exact h.outcome_lookup_of_some hsnapshot htext number
  | none =>
      cases hsnapshot : context.snapshots.get? row with
      | none => exact outcome_lookup_of_absent hlines hsnapshot htext number
      | some record => exact h.outcome_lookup_of_none hsnapshot htext number

end Fits

end Sheet

end SheetCalc
