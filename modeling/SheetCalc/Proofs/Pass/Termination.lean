import SheetCalc.Proofs.Evaluation.Trail
import SheetCalc.Proofs.Pass.Steps

/-!
# Termination

With cycles detected, the evaluation of a text and a whole pass end. The trail holds
different cells of the sheet at all times, so the budget of `Evaluator.ofSheet` is never
used up. `evaluation_ends` says both about evaluations that start with an empty trail,
whatever the snapshots are.
-/

namespace SheetCalc

open Evaluation

namespace Sheet

variable {sheet : Sheet} {evaluate evaluating : Cell → Text → Evaluation Text}
  {row column : Nat} {line : Text} {context : Context}

section Congruence

variable (hkeeps : ∀ cell text context, (evaluate cell text).Keeps context)
  (hequal : ∀ cell text context, sheet.textAt? cell = some text → context.trail = [] →
    (evaluating cell text).outcome context = (evaluate cell text).outcome context)
include hkeeps hequal

/-- The fields of a line, evaluated in two ways that have the same outcomes. -/
theorem outcome_evaluateFields_congr (hline : sheet.lines[row]? = some line) {rest : List Text}
    (hrest : (rawFields line).drop column = rest) (htrail : context.trail = []) :
    (sheet.evaluateFields evaluating row column rest).outcome context =
      (sheet.evaluateFields evaluate row column rest).outcome context := by
  induction rest generalizing column context with
  | nil => rfl
  | cons raw rest ih =>
      obtain ⟨hraw, hnext⟩ := getElem?_and_drop_of_drop_eq_cons hrest
      have hcolumn : column < (fields line).length := by
        simpa [fields] using (List.getElem?_eq_some_iff.mp hraw).1
      have hcell := hequal ⟨row, column⟩ (Text.trim raw) context (textAt?_of_raw hline hraw) htrail
      have hkept := hkeeps ⟨row, column⟩ (Text.trim raw) context
      have hother : (evaluating ⟨row, column⟩ (Text.trim raw)).Keeps context := by
        show (outcome _ context).2 = context
        rw [hcell]
        exact hkept
      rw [outcome_evaluateFields_cons hline hcolumn rest hother,
        outcome_evaluateFields_cons hline hcolumn rest hkept, hcell]
      cases ((evaluate ⟨row, column⟩ (Text.trim raw)).outcome context).1 with
      | error fault => rfl
      | ok value => exact ih hnext (Context.trail_afterField.trans htrail)

/-- A pass over the last lines of a sheet, with two ways to evaluate its cells. -/
theorem passFrom_congr {rest : List Text} (hrest : sheet.lines.drop row = rest)
    (htrail : context.trail = []) :
    sheet.passFrom evaluating row rest context = sheet.passFrom evaluate row rest context := by
  induction rest generalizing row context with
  | nil => rfl
  | cons line rest ih =>
      obtain ⟨hline, hnext⟩ := getElem?_and_drop_of_drop_eq_cons hrest
      unfold passFrom
      split
      · exact ih hnext htrail
      · next hnonempty =>
        have hfields := outcome_evaluateFields_congr hkeeps hequal hline
          (List.drop_zero : (rawFields line).drop 0 = rawFields line) htrail
        have hrecord : (sheet.evaluateLine evaluating row line).outcome context =
            (sheet.evaluateLine evaluate row line).outcome context := by
          rw [evaluateLine, evaluateLine, outcome_bind, outcome_bind, hfields]
        rw [hrecord]
        have hspec := @evaluateLine_spec sheet evaluate ⟨row, 0, context⟩ line hkeeps hline rfl
          hnonempty
        dsimp only at hspec
        split at hspec
        · next record after hevaluated =>
          rw [hevaluated]
          have hafter : after.trail = [] := (trail_of_reaches hspec.1).trans htrail
          dsimp only
          rw [ih hnext hafter]
        · next fault after hevaluated =>
          rw [hevaluated]

end Congruence

/-- With enough budget for its sheet, a guarded evaluation that starts with an empty trail
ends. -/
theorem guarded_ends {cell : Cell} {text : Text} (htext : sheet.textAt? cell = some text)
    (htrail : context.trail = []) {budget : Nat} (hbudget : sheet.cellCount ≤ budget) :
    RelatedAt (RaisesOnly (· ≠ .endless)) context context (sheet.guarded budget cell text)
      (sheet.guarded budget cell text) := by
  refine guarded_raisesOnly_of_nil ?_ hbudget htext htrail ?_
  · rintro fault hplain rfl
    exact hplain
  · intro trail last _ _ hcycle
    have hcircular := Trail.cycle_isCircular trail last (last.row + 1)
    rw [hcycle] at hcircular
    exact hcircular

/-- With an empty trail, a value of the unguarded evaluation is found with or without the guard. -/
theorem cellValue_ok_of_unguarded {detectCycles : Bool} {cell : Cell} {text value : Text}
    (htext : sheet.textAt? cell = some text) (htrail : context.trail = [])
    (h : ((sheet.unguarded (sheet.cellCount + 1) cell text).outcome context).1 = .ok value) :
    (((Evaluator.ofSheet sheet detectCycles).cellValue cell text).outcome context).1 =
      .ok value := by
  cases detectCycles with
  | false => exact h
  | true =>
      have hagree : RelatedAt (Agree Fault.IsEndless Fault.IsEndless) context context
          (sheet.guarded (sheet.cellCount + 1) cell text)
          (sheet.unguarded (sheet.cellCount + 1) cell text) := by
        refine guarded_agree_of_unfinished _ _ rfl htext ?_
        intro entered hmem
        rw [htrail] at hmem
        exact absurd hmem List.not_mem_nil
      have hends := guarded_ends htext htrail (Nat.le_succ sheet.cellCount)
      refine (hagree.results.eq ?_ ?_).trans h
      · intro fault hfault
        exact hends.results fault hfault
      · intro fault hfault
        cases h.symm.trans hfault

/-- An evaluation of a text that watches its trail, and the one that does not. -/
theorem watched_textValue (sheet : Sheet) (snapshots : Snapshots) (alarm : Fault) (spare : Nat)
    (text : Text) (line : Int) :
    RelatedAt (Agree Fault.Never Fault.Never) ⟨snapshots, []⟩ ⟨snapshots, []⟩
      (Lookup.textValue (sheet.lookup (sheet.watched alarm (sheet.cellCount + 1 + spare))) text line)
      ((Evaluator.ofSheet sheet true).textValue text line) :=
  .sheetText (congruence_agree _ _) rfl fun _ _ _ hcontent _ =>
    watched_agree alarm (sheet.cellCount + 1) spare hcontent (.nil sheet) (by omega)

/-- The evaluation of a text ends. -/
theorem textValue_ends (sheet : Sheet) (snapshots : Snapshots) (text : Text) (line : Int) :
    RelatedAt (RaisesOnly (· ≠ .endless)) ⟨snapshots, []⟩ ⟨snapshots, []⟩
      ((Evaluator.ofSheet sheet true).textValue text line)
      ((Evaluator.ofSheet sheet true).textValue text line) := by
  refine .sheetText (congruence_raisesOnly ?_) rfl fun cell _ content hcontent _ =>
    guarded_ends hcontent rfl (Nat.le_succ _)
  rintro fault hplain rfl
  exact hplain

/-- A pass that watches its trail is the pass that does not. -/
theorem pass_watched (sheet : Sheet) (snapshots : Snapshots) (alarm : Fault) (spare : Nat) :
    sheet.pass (sheet.watched alarm (sheet.cellCount + 1 + spare)) ⟨snapshots, []⟩ =
      (Evaluator.ofSheet sheet true).pass ⟨snapshots, []⟩ := by
  refine passFrom_congr (fun cell text context => guarded_keeps _ cell text) ?_ List.drop_zero rfl
  intro cell text context htext htrail
  have hagree := watched_agree alarm (sheet.cellCount + 1) spare htext (htrail ▸ .nil sheet)
    (by omega : sheet.cellCount ≤ sheet.cellCount + 1 + context.trail.length)
  exact hagree.outcome_eq

/-- A pass ends. -/
theorem pass_ends (sheet : Sheet) (snapshots : Snapshots) :
    ((Evaluator.ofSheet sheet true).pass ⟨snapshots, []⟩).fault ≠ some .endless := by
  intro hendless
  obtain ⟨moment, hreach, line, raw, hline, hraw, hfault⟩ := fails_of_pass hendless
  have hends := guarded_ends (textAt?_of_visited hline hraw) (trail_of_reaches hreach)
    (Nat.le_succ sheet.cellCount)
  exact hends.results .endless hfault rfl

/-- Evaluation ends. With cycles detected, the evaluation of any text and the pass over the sheet
never run out of the budget of one more than the number of cells. At every moment the trail
holds different cells, all of them of the sheet: an evaluation that gives any alarm where it
is otherwise, with any larger budget, has the same outcome. -/
theorem evaluation_ends (sheet : Sheet) (snapshots : Snapshots) (alarm : Fault) (spare : Nat) :
    let evaluator := Evaluator.ofSheet sheet true
    let watched := sheet.watched alarm (sheet.cellCount + 1 + spare)
    let start : Context := ⟨snapshots, []⟩
    (∀ text line,
      (Lookup.textValue (sheet.lookup watched) text line).outcome start =
        (evaluator.textValue text line).outcome start ∧
      ((evaluator.textValue text line).outcome start).1 ≠ .error .endless) ∧
    sheet.pass watched start = evaluator.pass start ∧
    (evaluator.pass start).fault ≠ some .endless := by
  refine ⟨?_, ?_, ?_⟩
  · intro text line
    constructor
    · exact (watched_textValue sheet snapshots alarm spare text line).outcome_eq
    · intro hendless
      exact (textValue_ends sheet snapshots text line).results .endless hendless rfl
  · exact pass_watched sheet snapshots alarm spare
  · exact pass_ends sheet snapshots

end Sheet

end SheetCalc
