import Mathlib
import SheetCalc.Proofs.Evaluation.Trail

/-!
# The cycle guard is transparent

The guard is an observer: `guard_transparent` says that it changes no value and no other
fault, and that it reports a cycle exactly where the unguarded evaluation has no end. An
evaluation without an end is one that runs out of every budget.
-/

namespace SheetCalc

open Evaluation

/-- A guarded evaluation finds what the unguarded one finds with some budget, and a cycle where
the unguarded one runs out of all of them. -/
structure Transparent (guarded : Evaluation Text) (unguarded : Nat → Evaluation Text)
    (context : Context) : Prop where
  value : ∀ value, (guarded.outcome context).1 = .ok value ↔
    ∃ budget, ((unguarded budget).outcome context).1 = .ok value
  fault : ∀ fault : Fault, (∀ path line, fault ≠ .cycle path line) → fault ≠ .endless →
    ((guarded.outcome context).1 = .error fault ↔
      ∃ budget, ((unguarded budget).outcome context).1 = .error fault)
  cycle : (∃ path line, (guarded.outcome context).1 = .error (.cycle path line)) ↔
    ∀ budget, ((unguarded budget).outcome context).1 = .error .endless

/-- The fault is plain, or a cycle all of whose cells have names. -/
def Fault.IsPlainOrCycle (fault : Fault) : Prop :=
  fault.IsPlain ∨ ∃ path line, fault = .cycle path line

/-- What the comparisons of the two evaluations say: they agree up to cycles at one budget, and
up to unfinished evaluations at all of them. -/
structure Observed (guarded : Evaluation Text) (unguarded : Nat → Evaluation Text)
    (context : Context) (budget : Nat) : Prop where
  raises : RelatedAt (RaisesOnly Fault.IsPlainOrCycle) context context guarded guarded
  bounded : ∀ budget, RelatedAt (RaisesOnly fun fault => fault.IsPlain ∨ fault.IsEndless)
    context context (unguarded budget) (unguarded budget)
  circular : RelatedAt (Agree Fault.IsCircular Fault.Never) context context guarded
    (unguarded budget)
  endless : ∀ budget, RelatedAt (Agree Fault.IsEndless Fault.IsEndless) context context guarded
    (unguarded budget)

namespace Observed

variable {guarded : Evaluation Text} {unguarded : Nat → Evaluation Text} {context : Context}
  {budget : Nat} (h : Observed guarded unguarded context budget)
include h

/-- The guarded evaluation ends. -/
theorem ends : (guarded.outcome context).1 ≠ .error .endless := by
  intro hendless
  rcases h.raises.results _ hendless with hplain | ⟨path, line, hcycle⟩
  · exact hplain
  · cases hcycle

/-- The guarded evaluation has the result of a finished unguarded one. -/
theorem eq_of_unguarded {other : Nat}
    (hfinished : ((unguarded other).outcome context).1 ≠ .error .endless) :
    (guarded.outcome context).1 = ((unguarded other).outcome context).1 := by
  refine (h.endless other).results.eq ?_ ?_
  · rintro fault hfault rfl
    exact h.ends hfault
  · rintro fault hfault rfl
    exact hfinished hfault

/-- A guarded evaluation without a cycle has the result of the unguarded one. -/
theorem eq_of_guarded
    (hcycle : ∀ path line, (guarded.outcome context).1 ≠ .error (.cycle path line)) :
    ((unguarded budget).outcome context).1 = (guarded.outcome context).1 := by
  refine (h.circular.results.eq ?_ fun _ _ => id).symm
  intro fault hfault hcircular
  rcases h.raises.results _ hfault with hplain | ⟨path, line, rfl⟩
  · exact hplain.not_isCircular hcircular
  · exact hcycle path line hfault

/-- The unguarded evaluation reports no cycle. -/
theorem unguarded_ne_cycle (other : Nat) (path : List Text) (line : Int) :
    ((unguarded other).outcome context).1 ≠ .error (.cycle path line) := by
  intro hcycle
  rcases (h.bounded other).results _ hcycle with hplain | hunfinished
  · exact hplain
  · cases hunfinished

/-- So the guard is transparent. -/
theorem transparent : Transparent guarded unguarded context where
  value value := by
    constructor
    · intro hguarded
      refine ⟨budget, ?_⟩
      rw [← hguarded]
      refine h.eq_of_guarded ?_
      intro path line hcycle
      cases hguarded.symm.trans hcycle
    · rintro ⟨other, hvalue⟩
      rw [← hvalue]
      refine h.eq_of_unguarded ?_
      intro hunfinished
      cases hvalue.symm.trans hunfinished
  fault fault hcycle hendless := by
    constructor
    · intro hguarded
      refine ⟨budget, ?_⟩
      rw [← hguarded]
      refine h.eq_of_guarded ?_
      intro path line hreport
      exact hcycle path line (Except.error.inj (hguarded.symm.trans hreport))
    · rintro ⟨other, hfault⟩
      rw [← hfault]
      refine h.eq_of_unguarded ?_
      intro hunfinished
      exact hendless (Except.error.inj (hfault.symm.trans hunfinished))
  cycle := by
    constructor
    · rintro ⟨path, line, hcycle⟩ other
      by_contra hfinished
      exact h.unguarded_ne_cycle other path line
        ((h.eq_of_unguarded hfinished).symm.trans hcycle)
    · intro hunfinished
      by_contra hnone
      push Not at hnone
      exact h.ends ((h.eq_of_guarded hnone).symm.trans (hunfinished budget))

end Observed

namespace Sheet

variable {sheet : Sheet}

/-- With enough budget for a narrow sheet, a guarded evaluation raises plain faults and
cycles. -/
theorem IsNarrow.guarded_raisesOnly (h : sheet.IsNarrow) {cell : Cell} {text : Text}
    (htext : sheet.textAt? cell = some text) (snapshots : Snapshots) {budget : Nat}
    (hbudget : sheet.cellCount ≤ budget) :
    RelatedAt (RaisesOnly Fault.IsPlainOrCycle) ⟨snapshots, []⟩ ⟨snapshots, []⟩
      (sheet.guarded budget cell text) (sheet.guarded budget cell text) := by
  refine guarded_raisesOnly_of_nil (fun _ => .inl) hbudget htext rfl ?_
  intro trail last _ hcloses
  obtain ⟨path, hpath⟩ := h.cycle hcloses (last.row + 1)
  exact .inr ⟨path, last.row + 1, hpath⟩

/-- The guarded evaluation of a cell, observed. -/
theorem IsNarrow.observed_cell (h : sheet.IsNarrow) {cell : Cell} {text : Text}
    (htext : sheet.textAt? cell = some text) (snapshots : Snapshots) :
    Observed (sheet.guarded (sheet.cellCount + 1) cell text)
      (fun budget => sheet.unguarded budget cell text) ⟨snapshots, []⟩ (sheet.cellCount + 1) where
  raises := h.guarded_raisesOnly htext snapshots (Nat.le_succ _)
  bounded budget := unguarded_raisesOnly budget _ cell text
  circular := guarded_agree rfl _ cell text
  endless budget := guarded_agree_of_unfinished _ budget rfl htext fun _ hmem =>
    absurd hmem List.not_mem_nil

/-- The guarded evaluation of a text, observed. -/
theorem IsNarrow.observed_text (h : sheet.IsNarrow) (text : Text) (line : Int)
    (snapshots : Snapshots) :
    Observed ((Evaluator.ofSheet sheet true).textValue text line)
      (fun budget => (Evaluator.mk sheet false budget).textValue text line) ⟨snapshots, []⟩
      (sheet.cellCount + 1) where
  raises := .sheetText (congruence_raisesOnly fun _ => .inl) rfl fun _ _ _ hcontent _ =>
    h.guarded_raisesOnly hcontent snapshots (Nat.le_succ _)
  bounded budget := .sheetText (congruence_raisesOnly fun _ => .inl) rfl fun next _ content _ _ =>
    unguarded_raisesOnly budget _ next content
  circular := .sheetText (congruence_agree _ _) rfl fun next _ content _ _ =>
    guarded_agree rfl _ next content
  endless budget := .sheetText (congruence_agree _ _) rfl fun _ _ _ hcontent _ =>
    (h.observed_cell hcontent snapshots).endless budget

/-- In a narrow sheet the guard is transparent, for every text and for the cells of the sheet,
whatever the snapshots are. -/
theorem guard_transparent (sheet : Sheet) (hnarrow : sheet.IsNarrow) (snapshots : Snapshots) :
    (∀ text line, Transparent ((Evaluator.ofSheet sheet true).textValue text line)
      (fun budget => (Evaluator.mk sheet false budget).textValue text line) ⟨snapshots, []⟩) ∧
    ∀ cell text, sheet.textAt? cell = some text →
      Transparent ((Evaluator.ofSheet sheet true).cellValue cell text)
        (fun budget => (Evaluator.mk sheet false budget).cellValue cell text) ⟨snapshots, []⟩ :=
  ⟨fun text line => (hnarrow.observed_text text line snapshots).transparent,
    fun _ _ htext => (hnarrow.observed_cell htext snapshots).transparent⟩

/-- Two cells that need each other, and a cell that needs a third one twice. -/
def entangled : Sheet :=
  ⟨["x".toList, "=print(B1),=print(A1),=sum(D1;D1),1".toList]⟩

/-- In the sheet `entangled` the cells that need each other have no end, and the cell that
needs another one twice has its value, with and without the guard. -/
theorem guard_transparent_entangled :
    entangled.IsNarrow ∧
    (∀ budget, (((Evaluator.mk entangled false budget).cellValue ⟨1, 0⟩
      "=print(B1)".toList).outcome .fresh).1 = .error .endless) ∧
    (∃ budget, (((Evaluator.mk entangled false budget).cellValue ⟨1, 2⟩
      "=sum(D1;D1)".toList).outcome .fresh).1 = .ok "2".toList) := by
  have hnarrow : entangled.IsNarrow := by
    unfold IsNarrow
    decide
  have htransparent := (guard_transparent entangled hnarrow .empty).2
  refine ⟨hnarrow, ?_, ?_⟩
  · refine (htransparent ⟨1, 0⟩ _ (by cbv)).cycle.mp ⟨["A1".toList, "B1".toList, "A1".toList], 2, ?_⟩
    cbv
  · refine ((htransparent ⟨1, 2⟩ _ (by cbv)).value _).mp ?_
    cbv

end Sheet

end SheetCalc
