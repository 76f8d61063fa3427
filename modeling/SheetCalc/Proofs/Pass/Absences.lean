import SheetCalc.Proofs.Pass.Actions

/-!
# References behind the last field of a row

The record of a row and its snapshot have the same fields, so a reference to a column after the last
one fails with the same error, whichever of them it meets. Main theorem: `lookup_beyond_eq_iff`.
Only the line differs: a snapshot reports the error in the line of the reference, a record in the
line of its row.
-/

namespace SheetCalc

open Evaluation

namespace Sheet

variable {sheet : Sheet} {context : Context} {row column : Nat} {line : Text}

/-- A reference to a column after the last one of a row that the sheet has. -/
theorem Fits.outcome_lookup_beyond {evaluate : Cell → Text → Evaluation Text}
    (h : sheet.Fits context.snapshots) (hline : sheet.lines[row]? = some line)
    (hcolumn : (rawFields line).length ≤ column) (number : Int) :
    (sheet.lookup evaluate ⟨row, column⟩ number).outcome context =
      (.error (.evaluation (.columnBeyond row (rawFields line).length column)
        (if context.snapshots.get? row = none then row + 1 else number)), context) := by
  have hlines : sheet.lines ≠ [] := List.ne_nil_of_mem (List.mem_of_getElem? hline)
  have habsence : sheet.absence row column = .columnBeyond row (rawFields line).length column := by
    rw [absence, hline]
  have hwidth : (fields line).length ≤ column := by rwa [length_fields]
  have htext : sheet.textAt? ⟨row, column⟩ = none := by
    rw [textAt?_natCast, hline, Option.bind_some, List.getElem?_eq_none hwidth]
  rw [← habsence]
  cases hsnapshot : context.snapshots.get? row with
  | none =>
      rw [if_pos rfl]
      exact outcome_lookup_of_absent hlines hsnapshot htext number
  | some record =>
      rw [if_neg (Option.some_ne_none record)]
      exact h.outcome_lookup_of_none hsnapshot htext number

end Sheet

namespace Evaluator

open Sheet

/-- The same bad reference gives the same error, up to its line. After any actions and with any
cells under evaluation, a reference in any line to a column after the last one of a row fails with
the error that it has in a fresh context. The line is the same too if and only if the row has no
snapshot, or the reference is in the line of the row itself. -/
theorem lookup_beyond_eq_iff (evaluator : Evaluator) (actions : List Action) (trail : Trail)
    {row column : Nat} {line : Text} (hline : evaluator.sheet.lines[row]? = some line)
    (hcolumn : (rawFields line).length ≤ column) (number : Int) :
    let context := { evaluator.after actions with trail }
    let cause := EvaluationError.columnBeyond row (rawFields line).length column
    let answer := (evaluator.lookup ⟨row, column⟩ number).outcome
    (answer .fresh).1 = .error (.evaluation cause (row + 1)) ∧
    (answer context).1 = .error (.evaluation cause
      (if context.snapshots.get? row = none then row + 1 else number)) ∧
    ((answer context).1 = (answer .fresh).1 ↔
      context.snapshots.get? row = none ∨ number = row + 1) := by
  intro context cause answer
  have hlines : evaluator.sheet.lines ≠ [] := List.ne_nil_of_mem (List.mem_of_getElem? hline)
  have hfits : evaluator.sheet.Fits context.snapshots := fits_after hlines actions
  have hfresh : answer .fresh = (.error (.evaluation cause (row + 1)), .fresh) :=
    (Fits.empty evaluator.sheet).outcome_lookup_beyond hline hcolumn number
  have hcontext : answer context = (.error (.evaluation cause
      (if context.snapshots.get? row = none then row + 1 else number)), context) :=
    hfits.outcome_lookup_beyond hline hcolumn number
  rw [hfresh, hcontext]
  refine ⟨rfl, rfl, ?_⟩
  by_cases hsnapshot : context.snapshots.get? row = none
  · simp [hsnapshot]
  · simp [hsnapshot]

/-- A header and a row of one field. -/
def single : Sheet :=
  ⟨["h".toList, "x".toList]⟩

/-- A reference from the line of the row itself has the same error before and after an edit. -/
theorem lookup_beyond_eq_single :
    single.lines[1]? = some "x".toList ∧ (rawFields "x".toList).length ≤ 1 ∧
    (((Evaluator.ofSheet single true).lookup ⟨1, 1⟩ 2).outcome
      ((Evaluator.ofSheet single true).after [.edit ⟨⟨0, "y".toList⟩, 1, 2⟩])).1 =
    (((Evaluator.ofSheet single true).lookup ⟨1, 1⟩ 2).outcome .fresh).1 := by
  have hline : single.lines[1]? = some "x".toList := rfl
  have hcolumn : (rawFields "x".toList).length ≤ 1 := by decide
  obtain ⟨-, -, hiff⟩ := lookup_beyond_eq_iff (Evaluator.ofSheet single true)
    [.edit ⟨⟨0, "y".toList⟩, 1, 2⟩] [] hline hcolumn 2
  exact ⟨hline, hcolumn, hiff.mpr (.inr rfl)⟩

/-- A reference from another line has the error in line 2 before the edit, and in line 3 after
it. -/
theorem lookup_beyond_single_differs :
    (((Evaluator.ofSheet single true).lookup ⟨1, 1⟩ 3).outcome .fresh).1 =
      .error (.evaluation (.columnBeyond 1 1 1) 2) ∧
    (((Evaluator.ofSheet single true).lookup ⟨1, 1⟩ 3).outcome
      ((Evaluator.ofSheet single true).after [.edit ⟨⟨0, "y".toList⟩, 1, 2⟩])).1 =
      .error (.evaluation (.columnBeyond 1 1 1) 3) := by
  constructor <;> cbv

end Evaluator

end SheetCalc
