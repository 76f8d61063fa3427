import Mathlib
import SheetCalc.Proofs.Evaluation.References
import SheetCalc.Proofs.Pass.Rows
import SheetCalc.Proofs.Pass.Termination

/-!
# Sheets with lines added at their end

A longer sheet gives every text the value that the shorter one gives it, unless the shorter one
misses a row. So the pass over the longer sheet goes through the moments of a completed pass over
the shorter one, and goes on from there. Main theorem: `rows_of_pass_extend`.
-/

namespace SheetCalc

open Evaluation

/-- The fault blames a row after the last one. -/
def Fault.IsRowBeyond (fault : Fault) : Prop :=
  ∃ row rows line, fault = .evaluation (.rowBeyond row rows) line

namespace Sheet

/-- A sheet with more lines at its end. -/
def extend (sheet : Sheet) (extra : List Text) : Sheet :=
  ⟨sheet.lines ++ extra⟩

variable {sheet : Sheet} {extra : List Text} {context : Context} {cell : Cell}
  {text value line : Text}

/-- The lines of a sheet are lines of the longer sheet. -/
theorem getElem?_extend {row : Nat} (h : sheet.lines[row]? = some line) :
    (sheet.extend extra).lines[row]? = some line := by
  have hrow := (List.getElem?_eq_some_iff.mp h).1
  rw [extend, List.getElem?_append_left hrow, h]

/-- The cells of a sheet are cells of the longer sheet. -/
theorem textAt?_extend (h : sheet.textAt? cell = some text) :
    (sheet.extend extra).textAt? cell = some text := by
  obtain ⟨row, column, rfl⟩ := exists_natCast_of_textAt? h
  rw [textAt?_natCast, Option.bind_eq_some_iff] at h ⊢
  obtain ⟨line, hline, hfield⟩ := h
  exact ⟨line, getElem?_extend hline, hfield⟩

/-- A longer sheet has no fewer cells. -/
theorem cellCount_le_extend (sheet : Sheet) (extra : List Text) :
    sheet.cellCount ≤ (sheet.extend extra).cellCount := by
  simp only [cellCount, extend, List.flatMap_append, List.length_append]
  omega

/-- A cell that a sheet misses stands in a row after the last one, or the longer sheet misses it
with the same fault. -/
theorem missing_extend (haddress : cell.Addressable) (h : sheet.textAt? cell = none) :
    (sheet.missing cell).IsRowBeyond ∨
      (sheet.extend extra).textAt? cell = none ∧
        (sheet.extend extra).missing cell = sheet.missing cell := by
  obtain ⟨row, column, rfl, hpos⟩ := haddress.exists_natCast
  cases hline : sheet.lines[row]? with
  | none =>
      left
      rw [missing, staticRecord_of_beyond hpos hline]
      exact ⟨_, _, _, rfl⟩
  | some line =>
      right
      have hlonger : (sheet.extend extra).lines[row]? = some line := getElem?_extend hline
      constructor
      · rw [textAt?_natCast, hline] at h
        rw [textAt?_natCast, hlonger]
        exact h
      · rw [missing, missing, staticRecord_of_line hline, staticRecord_of_line hlonger]

/-- More lines change a result only where the sheet misses a row. -/
theorem unguarded_extend (budget : Nat) (cell : Cell) (text : Text) :
    RelatedAt (Agree Fault.IsRowBeyond Fault.Never) context context
      (sheet.unguarded budget cell text) ((sheet.extend extra).unguarded budget cell text) := by
  have hagree : Congruence (Agree Fault.IsRowBeyond Fault.Never) := congruence_agree _ _
  induction budget generalizing cell text with
  | zero => exact ⟨rfl, rfl, .same _⟩
  | succ budget ih =>
      rw [unguarded_succ, unguarded_succ]
      refine .textValue hagree fun next hnext => ?_
      have haddress := Formula.addressable_of_mem_cellsIn hnext
      -- Both sheets evaluate a cell that the shorter one has. What it misses in a row of its own is
      -- missed by both, and any other row is after its last one.
      refine .lookup_between hagree haddress rfl (fun _ => textAt?_extend)
        (fun content _ _ => ih next content) ?_
      intro htext hsnapshot
      rcases missing_extend haddress htext with hbeyond | ⟨hlonger, hfault⟩
      · refine ⟨rfl, ?_, .left _ hbeyond⟩
        exact lookup_keeps (fun cell text => unguarded_keeps budget cell text) next _
      · refine .of_outcome_eq (.of_plain hagree (missing_isPlain haddress)) rfl ?_
        rw [outcome_lookup_of_missing hsnapshot haddress hlonger, hfault]
        rfl

/-- A value of a cell stays its value when lines are added, with or without the guard. -/
theorem cellValue_extend {detectCycles : Bool} (htext : sheet.textAt? cell = some text)
    (htrail : context.trail = [])
    (h : (((Evaluator.ofSheet sheet detectCycles).cellValue cell text).outcome context).1 =
      .ok value) :
    (((Evaluator.ofSheet (sheet.extend extra) detectCycles).cellValue cell text).outcome
      context).1 = .ok value := by
  -- The guard is taken off, the sheet is exchanged, the budget is raised, and the guard is put
  -- back: it can be, as the trail is empty.
  have hvalue := unguarded_ok_of_cellValue h
  have hlonger : (((sheet.extend extra).unguarded (sheet.cellCount + 1) cell text).outcome
      context).1 = .ok value :=
    (unguarded_extend _ cell text).results.ok_of_ok hvalue
  have hbudget : sheet.cellCount + 1 ≤ (sheet.extend extra).cellCount + 1 :=
    Nat.succ_le_succ (cellCount_le_extend sheet extra)
  exact cellValue_ok_of_unguarded (textAt?_extend htext) htrail
    ((unguarded_agree hbudget cell text).results.ok_of_ok hlonger)

variable {start moment finish : Moment}

/-- A step over a sheet is a step over the longer sheet. -/
theorem Step.extend {detectCycles : Bool} (htrail : moment.context.trail = [])
    (h : sheet.Step (Evaluator.ofSheet sheet detectCycles).cellValue moment finish) :
    (sheet.extend extra).Step (Evaluator.ofSheet (sheet.extend extra) detectCycles).cellValue
      moment finish := by
  cases h with
  | field hline hraw hvalue =>
      exact .field (getElem?_extend hline) hraw
        (cellValue_extend (textAt?_of_visited hline hraw) htrail hvalue)
  | line hline hcolumn => exact .line (getElem?_extend hline) hcolumn

variable (extra) in
/-- A pass over a longer sheet comes to the moments that the pass over the sheet comes to. -/
theorem reaches_extend {detectCycles : Bool} (htrail : start.context.trail = [])
    (h : sheet.Reaches (Evaluator.ofSheet sheet detectCycles).cellValue start finish) :
    (sheet.extend extra).Reaches (Evaluator.ofSheet (sheet.extend extra) detectCycles).cellValue
      start finish := by
  induction h with
  | refl => exact .refl
  | tail hreach hstep ih => exact ih.tail (hstep.extend ((trail_of_reaches hreach).trans htrail))

/-- Lines at the end of a sheet never change earlier results. Where a pass over a sheet has no
fault, the pass over the sheet with any lines at its end yields first the same rows with the same
records, and then only rows of the added lines. -/
theorem rows_of_pass_extend (sheet : Sheet) (extra : List Text) (detectCycles : Bool)
    (snapshots : Snapshots)
    (h : ((Evaluator.ofSheet sheet detectCycles).pass ⟨snapshots, []⟩).fault = none) :
    ∃ rest,
      ((Evaluator.ofSheet (sheet.extend extra) detectCycles).pass ⟨snapshots, []⟩).rows =
        ((Evaluator.ofSheet sheet detectCycles).pass ⟨snapshots, []⟩).rows ++ rest ∧
      ∀ entry ∈ rest, sheet.lines.length ≤ entry.1 := by
  have hmoment := reaches_extend extra rfl (reaches_of_pass h)
  obtain ⟨finish, hrun⟩ :=
    exists_isRun_pass (Evaluator.ofSheet (sheet.extend extra) detectCycles) ⟨snapshots, []⟩
  have hlength : sheet.lines.length ≤ (sheet.extend extra).lines.length :=
    (List.prefix_append sheet.lines extra).length_le
  obtain ⟨rest, hrows, hrest⟩ := hrun.exists_rows_eq_append hmoment hlength
  refine ⟨rest, ?_, hrest⟩
  rw [hrows, rows_of_pass h]
  show List.filterMap _ ((sheet.lines ++ extra).take sheet.lines.length).zipIdx ++ rest = _
  rw [List.take_left]
  rfl

/-- A header that refers to a formula in the last line. -/
def seed : Sheet :=
  ⟨["=mul(B1;3),i".toList, "2,=sum(A1;1)".toList]⟩

/-- A malformed formula and a cell that refers to itself, added to `seed`, leave its rows as they
are. -/
theorem rows_of_pass_extend_seed :
    ((Evaluator.ofSheet seed true).pass .fresh).fault = none ∧
    ∃ rest, ((Evaluator.ofSheet (seed.extend ["=print(A2),=mul(".toList]) true).pass .fresh).rows =
        [(0, ["9".toList, "i".toList]), (1, ["2".toList, "3".toList])] ++ rest ∧
      ∀ entry ∈ rest, 2 ≤ entry.1 := by
  have hfault : ((Evaluator.ofSheet seed true).pass .fresh).fault = none := by cbv
  have hrows : ((Evaluator.ofSheet seed true).pass .fresh).rows =
      [(0, ["9".toList, "i".toList]), (1, ["2".toList, "3".toList])] := by cbv
  obtain ⟨rest, heq, hrest⟩ := rows_of_pass_extend seed ["=print(A2),=mul(".toList] true _ hfault
  exact ⟨hfault, rest, hrows ▸ heq, hrest⟩

end Sheet

end SheetCalc
