import Mathlib
import SheetCalc.Proofs.Evaluation.Causes
import SheetCalc.Proofs.Pass.Termination

/-!
# Where a fault comes from

A pass evaluates cells that a field needs before the field itself, and a fault goes through all of
them. Main theorem: `caused_of_pass`. A fault of a formula is reported with the line of the cell
whose formula causes it, not with that of a cell that merely refers to it.
-/

namespace SheetCalc

open Evaluation Relation

namespace Sheet

variable {sheet : Sheet} {detectCycles : Bool} {context : Context}

/-- With an empty trail, a value that a reference has within a budget is the value that it has. -/
theorem lookup_ok_of_unguarded {budget : Nat} (hbudget : budget ≤ sheet.cellCount + 1)
    (htrail : context.trail = []) {cell : Cell} (haddress : cell.Addressable) {line : Int}
    {value : Text}
    (h : ((sheet.lookup (sheet.unguarded budget) cell line).outcome context).1 = .ok value) :
    (((Evaluator.ofSheet sheet detectCycles).lookup cell line).outcome context).1 = .ok value := by
  show ((sheet.lookup (Evaluator.ofSheet sheet detectCycles).cellValue cell line).outcome
    context).1 = .ok value
  cases hsnapshot : context.snapshots.get? cell.row with
  | some record =>
      rw [outcome_lookup_of_snapshot hsnapshot] at h ⊢
      exact h
  | none =>
      cases htext : sheet.textAt? cell with
      | none =>
          rw [outcome_lookup_of_missing hsnapshot haddress htext] at h
          cases h
      | some text =>
          rw [outcome_lookup_of_text hsnapshot htext] at h ⊢
          refine cellValue_ok_of_unguarded htext htrail ((unguarded_eq_of_le hbudget ?_).trans h)
          intro hendless
          cases h.symm.trans hendless

/-- Errors point at the formula that caused them. When a pass in a fresh context ends with a fault
of a formula, it has come to a field from which references lead to the cell whose formula causes the
fault, at the moment when the field is evaluated. The fault is reported with the line of this
cell. -/
theorem caused_of_pass (sheet : Sheet) (detectCycles : Bool) {fault : Fault}
    (h : ((Evaluator.ofSheet sheet detectCycles).pass .fresh).fault = some fault)
    (hown : fault.IsOwn) :
    let evaluator := Evaluator.ofSheet sheet detectCycles
    ∃ moment source, sheet.Reaches evaluator.cellValue ⟨0, 0, .fresh⟩ moment ∧
      sheet.FailsAt evaluator.cellValue moment fault ∧
      ReflTransGen (sheet.Follows moment.context.snapshots) moment.cell source ∧
      sheet.CausedAt evaluator.lookup moment.context source fault ∧
      fault.line? = some (source.row + 1) := by
  intro evaluator
  obtain ⟨moment, hreach, hfails⟩ := fails_of_pass h
  obtain ⟨line, raw, hline, hraw, hfault⟩ := hfails
  have htext := textAt?_of_visited hline hraw
  have htrail : moment.context.trail = [] := trail_of_reaches hreach
  obtain ⟨budget, hbudget, source, hchain, text, body, hsource, hbody, hcauses⟩ :=
    exists_caused_of_unguarded htext (.inl hown)
      (unguarded_error_of_cellValue hown.isPlain.not_isCircular hfault)
  have hcaused : Formula.Causes evaluator.lookup moment.context (source.row + 1) body fault :=
    hcauses.mono (lookup_keeps fun cell text => unguarded_keeps budget cell text)
      (lookup_keeps fun cell text => cellValue_keeps evaluator cell text moment.context)
      fun cell value haddress => lookup_ok_of_unguarded (Nat.le_of_lt hbudget) htrail haddress
  exact ⟨moment, source, hreach, ⟨line, raw, hline, hraw, hfault⟩, hchain,
    ⟨text, body, hsource, hbody, hcaused⟩, hcauses.line?_eq hown⟩

/-- The fault of a formula that ends a pass is caused in a cell. -/
theorem causedIn_of_pass {evaluator : Evaluator} {fault : Fault} (hown : fault.IsOfFormula)
    (h : (evaluator.pass context).fault = some fault) : evaluator.sheet.CausedIn none fault := by
  obtain ⟨moment, -, line, raw, hline, hraw, hfault⟩ := fails_of_pass h
  obtain ⟨lookup, source, hcaused⟩ :=
    Evaluator.exists_caused_of_cellValue (textAt?_of_visited hline hraw) hown hfault
  exact hcaused.causedIn none

/-- A line that refers to a later one, in which a number is divided by zero. -/
def dividing : Sheet :=
  ⟨["h".toList, "=print(A2)".toList, "=sum(1;div(2;0))".toList]⟩

/-- The division is reported with its own line, although the line before needs it first. -/
theorem caused_of_pass_dividing :
    ((Evaluator.ofSheet dividing true).pass .fresh).fault =
      some (.evaluation (.builtin .divisionByZero) 3) ∧
    ∃ context source, dividing.CausedAt (Evaluator.ofSheet dividing true).lookup context source
      (.evaluation (.builtin .divisionByZero) 3) ∧ source.row = 2 := by
  have hfault : ((Evaluator.ofSheet dividing true).pass .fresh).fault =
      some (.evaluation (.builtin .divisionByZero) 3) := by cbv
  obtain ⟨moment, source, -, -, -, hcaused, hline⟩ := caused_of_pass dividing true hfault trivial
  have hrow : (3 : Int) = source.row + 1 := Option.some.inj hline
  exact ⟨hfault, moment.context, source, hcaused, by omega⟩

end Sheet

end SheetCalc
