import Mathlib
import SheetCalc.Proofs.Evaluation.Trail
import SheetCalc.Proofs.Pass.Steps
import SheetCalc.Proofs.Sheet.Names

/-!
# Reported cycles

The report of a cycle shows the trail of the evaluation and the cell that it met again. Main
theorem: `closesCycle_of_pass`. A cycle that a pass reports is a real one: it starts at the field
that the pass has come to, each of its cells refers to the next one, and its names are those of no
other cells.
-/

namespace SheetCalc

open Evaluation

/-- A cycle is reported by the names of its cells, with the line where it was noticed. -/
theorem Trail.cycle_eq_cycle_iff {trail : Trail} {cell : Cell} {line reported : Int}
    {path : List Text} :
    trail.cycle cell line = .cycle path reported ↔
      trail.names cell = .ok path ∧ line = reported := by
  unfold cycle
  cases trail.names cell <;> simp

namespace Sheet

variable {sheet : Sheet} {cell : Cell} {text : Text} {context : Context}

/-- The fault is plain, or reports a cycle of references to which a cell leads. -/
def PlainOrCircularFrom (sheet : Sheet) (cell : Cell) (fault : Fault) : Prop :=
  fault.IsPlain ∨ ∃ trail last, trail.head? = some cell ∧ sheet.ClosesCycle trail last ∧
    fault = trail.cycle last (last.row + 1)

/-- A cell that is evaluated first raises plain faults and reports the cycles to which it leads. -/
theorem cellValue_raisesFrom (htext : sheet.textAt? cell = some text)
    (htrail : context.trail = []) :
    RelatedAt (RaisesOnly (sheet.PlainOrCircularFrom cell)) context context
      ((Evaluator.ofSheet sheet true).cellValue cell text)
      ((Evaluator.ofSheet sheet true).cellValue cell text) := by
  refine guarded_raisesOnly_of_nil (fun _ => .inl) (Nat.le_succ sheet.cellCount) htext htrail ?_
  intro trail last hprefix hcloses
  refine .inr ⟨trail, last, ?_, hcloses, rfl⟩
  -- The cell that is met again is on the trail, so the trail has a first cell.
  obtain ⟨first, rest, rfl⟩ := List.exists_cons_of_ne_nil (List.ne_nil_of_mem hcloses.mem)
  obtain ⟨behind, hbehind⟩ := hprefix
  exact congrArg some (List.cons.inj hbehind).1.symm

/-- A reported cycle is a real one. When a pass in a fresh context reports a cycle, it has come to a
field whose evaluation reports it. The path of the report names a trail that starts at this field,
and then a cell that stands on the trail: the cells of the trail are different, and each one is a
formula that refers to the next. No other cells have these names. The line is that of the cell
named last. -/
theorem closesCycle_of_pass (sheet : Sheet) {path : List Text} {line : Int}
    (h : ((Evaluator.ofSheet sheet true).pass .fresh).fault = some (.cycle path line)) :
    let evaluate := (Evaluator.ofSheet sheet true).cellValue
    ∃ moment trail last, sheet.Reaches evaluate ⟨0, 0, .fresh⟩ moment ∧
      sheet.FailsAt evaluate moment (.cycle path line) ∧
      (∀ cells : List Cell, cells.mapM Cell.name = .ok path ↔ cells = trail ++ [last]) ∧
      trail.head? = some moment.cell ∧ trail.Nodup ∧ last ∈ trail ∧
      (trail ++ [last]).IsChain sheet.Refers ∧ line = last.row + 1 := by
  intro evaluate
  obtain ⟨moment, hreach, hfails⟩ := fails_of_pass h
  obtain ⟨content, raw, hline, hraw, hfault⟩ := id hfails
  have hraises := cellValue_raisesFrom (textAt?_of_visited hline hraw) (trail_of_reaches hreach)
  rcases hraises.results _ hfault with hplain | ⟨trail, last, hhead, hcloses, hcycle⟩
  · exact absurd hplain id
  · obtain ⟨hnames, hrow⟩ := Trail.cycle_eq_cycle_iff.mp hcycle.symm
    refine ⟨moment, trail, last, hreach, hfails, fun cells => ⟨fun hcells => ?_, ?_⟩, hhead,
      hcloses.isTrail.nodup, hcloses.mem, hcloses.chain, hrow.symm⟩
    · exact Cell.names_injective hcells hnames
    · rintro rfl
      exact hnames

/-- The first cell of row one leads to two cells that refer to each other. -/
def spiral : Sheet :=
  ⟨["h".toList, "=print(B1),=print(C1),=sum(1;[B1])".toList]⟩

/-- The cycle that is reported for `spiral` does not come back to the cell where it starts. -/
theorem closesCycle_of_pass_spiral :
    ((Evaluator.ofSheet spiral true).pass .fresh).fault =
      some (.cycle ["A1".toList, "B1".toList, "C1".toList, "B1".toList] 2) ∧
    ([⟨1, 0⟩, ⟨1, 1⟩, ⟨1, 2⟩, ⟨1, 1⟩] : List Cell).IsChain spiral.Refers := by
  have hreported : ((Evaluator.ofSheet spiral true).pass .fresh).fault =
      some (.cycle ["A1".toList, "B1".toList, "C1".toList, "B1".toList] 2) := by cbv
  obtain ⟨moment, trail, last, -, -, hnames, -, -, -, hchain, -⟩ :=
    closesCycle_of_pass spiral hreported
  have hcells : [⟨1, 0⟩, ⟨1, 1⟩, ⟨1, 2⟩, ⟨1, 1⟩] = trail ++ [last] := (hnames _).mp (by cbv)
  exact ⟨hreported, hcells ▸ hchain⟩

end Sheet

end SheetCalc
