import Mathlib
import SheetCalc.Proofs.Pass.Frame

/-!
# Cycles and passes

A pass notices every cycle of references that its evaluations follow. A reference into a row
with a snapshot is not followed: the snapshot answers it, also with the text of a formula. So
a cycle can stay unnoticed, as `cycle_unnoticed` shows. Main theorem: `cycles_cut_of_pass`.
In a pass without a fault, every cycle is cut by a snapshot, and its cells in the topmost
of its rows have a changed field before them.
-/

namespace SheetCalc

open Evaluation Relation

namespace Sheet

variable {sheet : Sheet}

/-- A cell refers to another one that is in a given row or below it. -/
def RefersBelow (sheet : Sheet) (row : Int) (cell other : Cell) : Prop :=
  sheet.Refers cell other ∧ row ≤ other.row

/-- Where the rows from one on have no snapshots, references into them are followed. -/
theorem RefersBelow.follows {top : Int} {snapshots : Snapshots} {cell other : Cell}
    (hnone : ∀ row, top ≤ row → snapshots.get? row = none)
    (h : sheet.RefersBelow top cell other) : sheet.Follows snapshots cell other :=
  ⟨h.1, hnone other.row h.2⟩

/-- In a pass that completes with cycles detected, every field has a moment where its cell has a
value. Neither the cell nor any cell that its references lead to lies on a cycle of references
that are followed at this moment. So if the cell lies on any cycle through its row and the rows
below, an earlier field of its row was changed. -/
theorem cycles_cut_of_pass (sheet : Sheet)
    (hcompleted : ((Evaluator.ofSheet sheet true).pass .fresh).fault = none) {row column : Nat}
    {line raw : Text} (hline : sheet.lines[row]? = some line)
    (hraw : (visited line)[column]? = some raw) :
    let evaluate := (Evaluator.ofSheet sheet true).cellValue
    ∃ context value, sheet.Reaches evaluate ⟨0, 0, .fresh⟩ ⟨row, column, context⟩ ∧
      ((evaluate ⟨row, column⟩ (Text.trim raw)).outcome context).1 = .ok value ∧
      (∀ cell, ReflTransGen (sheet.Follows context.snapshots) ⟨row, column⟩ cell →
        ¬ TransGen (sheet.Follows context.snapshots) cell cell) ∧
      (TransGen (sheet.RefersBelow row) ⟨row, column⟩ ⟨row, column⟩ →
        ∃ earlier < column, sheet.Changes evaluate ⟨0, 0, .fresh⟩ row earlier) := by
  intro evaluate
  have hbefore : row < sheet.lines.length := (List.getElem?_eq_some_iff.mp hline).1
  obtain ⟨context, value, hreach, hvalue⟩ :=
    evaluated_of_reaches (reaches_of_pass hcompleted) (.inl hbefore) hline hraw
  have hwithin : sheet.HasValueWithin context (sheet.cellCount + 1) ⟨row, column⟩ :=
    ⟨Text.trim raw, value, textAt?_of_raw hline (raw_of_visited hraw).2,
      unguarded_ok_of_cellValue hvalue⟩
  refine ⟨context, value, hreach, hvalue, ?_, ?_⟩
  · intro cell hchain
    rcases reflTransGen_iff_eq_or_transGen.mp hchain with rfl | hchain
    · exact hwithin.not_transGen
    · obtain ⟨budget, -, hcell⟩ := hwithin.chain hchain
      exact hcell.not_transGen
  · intro hcycle
    by_contra hunchanged
    have hnone : ∀ below : Int, row ≤ below → context.snapshots.get? below = none := by
      intro below hbelow
      rcases Int.lt_or_eq_of_le hbelow with hlt | rfl
      · exact get?_of_reaches_of_gt hreach hlt
      · rw [Option.eq_none_iff_forall_ne_some]
        intro record hrecord
        exact hunchanged (changes_of_reaches hreach rfl hrecord)
    have hfollowed : TransGen (sheet.Follows context.snapshots) ⟨row, column⟩ ⟨row, column⟩ :=
      TransGen.mono (fun _ _ hrefers => RefersBelow.follows hnone hrefers) _ _ hcycle
    exact hwithin.not_transGen hfollowed

/-- The second field of row one refers to itself, and the blank before it is trimmed. -/
def spaced : Sheet :=
  ⟨["h".toList, " x,=print(B1)".toList]⟩

/-- In the sheet `spaced` the second field of row one refers to itself. -/
theorem refers_spaced : spaced.RefersBelow 1 ⟨1, 1⟩ ⟨1, 1⟩ := by
  have hcells : Formula.cellsIn 2 "=print(B1)".toList = [⟨1, 1⟩] := by cbv
  exact ⟨⟨"=print(B1)".toList, by cbv, hcells ▸ List.mem_singleton_self _⟩, Int.le_refl 1⟩

/-- A pass over `spaced` completes. -/
theorem pass_spaced : ((Evaluator.ofSheet spaced true).pass .fresh).fault = none := by
  cbv

/-- Before the field of `spaced` that refers to itself, a field was changed. -/
theorem cycles_cut_of_pass_spaced : ∃ earlier < 1,
    spaced.Changes (Evaluator.ofSheet spaced true).cellValue ⟨0, 0, .fresh⟩ 1 earlier := by
  have hline : spaced.lines[1]? = some " x,=print(B1)".toList := rfl
  have hraw : (visited " x,=print(B1)".toList)[1]? = some "=print(B1)".toList := by cbv
  obtain ⟨_, _, _, _, _, hchanged⟩ := cycles_cut_of_pass spaced pass_spaced hline hraw
  exact hchanged (.single refers_spaced)

/-- A pass can complete although a cell refers to itself. -/
theorem cycle_unnoticed : ¬ ∀ sheet : Sheet, sheet.IsNarrow →
    ((Evaluator.ofSheet sheet true).pass .fresh).fault = none →
    ∀ (row column : Nat) (line raw : Text), sheet.lines[row]? = some line →
      (visited line)[column]? = some raw → ¬ TransGen sheet.Refers ⟨row, column⟩ ⟨row, column⟩ := by
  intro hnever
  have hnarrow : spaced.IsNarrow := by
    unfold IsNarrow
    decide
  exact hnever spaced hnarrow pass_spaced 1 1 " x,=print(B1)".toList "=print(B1)".toList rfl (by cbv)
    (.single refers_spaced.1)

end Sheet

end SheetCalc
