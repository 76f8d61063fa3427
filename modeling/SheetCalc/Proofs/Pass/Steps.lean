import Mathlib.Logic.Relation
import SheetCalc.Proofs.Evaluation.Guard
import SheetCalc.Proofs.Pass.Fields

/-!
# A pass, step by step

A pass evaluates one field after another. `Sheet.Step` is one step of it: a field is
evaluated and edited, or the pass turns to the next line. Main theorem: `exists_isRun_pass`.
The pass of an evaluator is a run of steps from the first field to the end of the sheet, or
to a field whose evaluation fails, and its rows are read off the snapshots at that moment.
-/

namespace SheetCalc

open Evaluation Relation

/-- A moment of a pass: the next field, and the context in which it is evaluated. -/
structure Moment where
  row : Nat
  column : Nat
  context : Context

/-- The cell of the next field. -/
def Moment.cell (moment : Moment) : Cell :=
  ⟨moment.row, moment.column⟩

namespace Sheet

/-- The fields of a line that a pass evaluates; an empty line is left out. -/
def visited (line : Text) : Record :=
  if line = [] then [] else rawFields line

/-- The record of a row during a pass: its snapshot, or its fields as written. -/
def current (snapshot : Option Record) (line : Text) : Record :=
  snapshot.getD (rawFields line)

/-- What a pass yields for a line, from the snapshots at its end. -/
def yielded (snapshots : Snapshots) : Text × Nat → Option (Nat × Record)
  | (line, row) => if line = [] then none else some (row, current (snapshots.get? row) line)

/-- One step of a pass: a field that has a value is edited, or a line is at its end. -/
inductive Step (sheet : Sheet) (evaluate : Cell → Text → Evaluation Text) : Moment → Moment → Prop
  | field {moment : Moment} {line raw value : Text} :
      sheet.lines[moment.row]? = some line → (visited line)[moment.column]? = some raw →
      ((evaluate moment.cell (Text.trim raw)).outcome moment.context).1 = .ok value →
      Step sheet evaluate moment ⟨moment.row, moment.column + 1,
        moment.context.afterField (fields line) moment.row moment.column raw value⟩
  | line {moment : Moment} {line : Text} :
      sheet.lines[moment.row]? = some line → moment.column = (visited line).length →
      Step sheet evaluate moment ⟨moment.row + 1, 0, moment.context⟩

/-- A pass comes from one moment to another. -/
abbrev Reaches (sheet : Sheet) (evaluate : Cell → Text → Evaluation Text) :
    Moment → Moment → Prop :=
  ReflTransGen (sheet.Step evaluate)

/-- The evaluation of the next field has a fault. -/
def FailsAt (sheet : Sheet) (evaluate : Cell → Text → Evaluation Text) (moment : Moment)
    (fault : Fault) : Prop :=
  ∃ line raw, sheet.lines[moment.row]? = some line ∧ (visited line)[moment.column]? = some raw ∧
    ((evaluate moment.cell (Text.trim raw)).outcome moment.context).1 = .error fault

/-- A pass stops at a moment: behind the last line, or with the fault of a field. -/
def StopsAt (sheet : Sheet) (evaluate : Cell → Text → Evaluation Text) (moment : Moment) :
    Option Fault → Prop
  | none => moment.row = sheet.lines.length ∧ moment.column = 0
  | some fault => sheet.FailsAt evaluate moment fault

/-- A pass is a run of steps from one moment to another, and yields what the snapshots at its end
say about the rows that it has completed. -/
structure IsRun (sheet : Sheet) (evaluate : Cell → Text → Evaluation Text)
    (start finish : Moment) (pass : Pass) : Prop where
  reaches : sheet.Reaches evaluate start finish
  stops : sheet.StopsAt evaluate finish pass.fault
  context_eq : pass.context = finish.context
  rows_eq : pass.rows =
    (((sheet.lines.drop start.row).take (finish.row - start.row)).zipIdx start.row).filterMap
      (yielded finish.context.snapshots)

variable {sheet : Sheet} {evaluate : Cell → Text → Evaluation Text}
  {start moment finish : Moment} {line raw : Text}

/-- A visited field is a field of its line. -/
theorem raw_of_visited {column : Nat} (h : (visited line)[column]? = some raw) :
    line ≠ [] ∧ (rawFields line)[column]? = some raw := by
  unfold visited at h
  split at h
  · cases h
  · exact ⟨‹_›, h⟩

/-- A visited field is that of a cell of the sheet. -/
theorem textAt?_of_visited (hline : sheet.lines[moment.row]? = some line)
    (hraw : (visited line)[moment.column]? = some raw) :
    sheet.textAt? moment.cell = some (Text.trim raw) :=
  textAt?_of_raw hline (raw_of_visited hraw).2

/-- A step keeps the trail, and the snapshots of all rows but its own. -/
theorem Step.frame (h : sheet.Step evaluate moment finish) :
    finish.context.trail = moment.context.trail ∧
      ∀ row : Int, row ≠ moment.row →
        finish.context.snapshots.get? row = moment.context.snapshots.get? row := by
  cases h with
  | field hline hraw hvalue =>
      exact ⟨Context.trail_afterField, fun row hrow => Context.get?_afterField_of_ne hrow⟩
  | line hline hcolumn => exact ⟨rfl, fun _ _ => rfl⟩

/-- A step never goes back to an earlier row. -/
theorem Step.row_le (h : sheet.Step evaluate moment finish) : moment.row ≤ finish.row := by
  cases h with
  | field => exact Nat.le_refl _
  | line => exact Nat.le_succ _

/-- The number of fields of a row that a pass has evaluated at a moment. -/
def evaluatedAt (moment : Moment) (row : Nat) (line : Text) : Nat :=
  if row < moment.row then (visited line).length
  else if row = moment.row then moment.column else 0

/-- Before the first field, no field is evaluated. -/
theorem evaluatedAt_start (context : Context) (row : Nat) (line : Text) :
    evaluatedAt ⟨0, 0, context⟩ row line = 0 := by
  simp [evaluatedAt]

/-- Turning to the next line evaluates no field. -/
theorem evaluatedAt_nextLine (hline : sheet.lines[moment.row]? = some line)
    (hcolumn : moment.column = (visited line).length) {row : Nat} {other : Text}
    (hother : sheet.lines[row]? = some other) :
    evaluatedAt ⟨moment.row + 1, 0, moment.context⟩ row other = evaluatedAt moment row other := by
  rcases Nat.lt_trichotomy row moment.row with hlt | rfl | hgt
  · simp [evaluatedAt, hlt, Nat.lt_succ_of_lt hlt]
  · obtain rfl := Option.some.inj (hline.symm.trans hother)
    simp [evaluatedAt, hcolumn]
  · simp [evaluatedAt, Nat.not_lt_of_gt hgt, Nat.ne_of_gt hgt, Nat.not_lt.mpr hgt]

/-- A pass keeps its trail. -/
theorem trail_of_reaches (h : sheet.Reaches evaluate start finish) :
    finish.context.trail = start.context.trail := by
  induction h with
  | refl => rfl
  | tail _ hstep ih => exact hstep.frame.1.trans ih

/-- A pass never goes back to an earlier row. -/
theorem row_le_of_reaches (h : sheet.Reaches evaluate start finish) : start.row ≤ finish.row := by
  induction h with
  | refl => exact Nat.le_refl _
  | tail _ hstep ih => exact Nat.le_trans ih hstep.row_le

/-- The rows before the one where a pass starts keep their snapshots. -/
theorem get?_of_reaches_of_lt (h : sheet.Reaches evaluate start finish) {row : Int}
    (hrow : row < start.row) :
    finish.context.snapshots.get? row = start.context.snapshots.get? row := by
  induction h with
  | refl => rfl
  | tail hreach hstep ih =>
      have hle := row_le_of_reaches hreach
      exact (hstep.frame.2 row (by omega)).trans ih

/-- The rows after the one that a pass comes to have the snapshots that they had at its
start. -/
theorem get?_of_reaches_of_gt (h : sheet.Reaches evaluate start finish) {row : Int}
    (hrow : (finish.row : Int) < row) :
    finish.context.snapshots.get? row = start.context.snapshots.get? row := by
  induction h with
  | refl => rfl
  | tail _ hstep ih =>
      have hle := hstep.row_le
      exact (hstep.frame.2 row (by omega)).trans (ih (by omega))

/-- Every field before the one that a pass comes to was evaluated, and had a value. -/
theorem evaluated_of_reaches {context : Context}
    (h : sheet.Reaches evaluate ⟨0, 0, context⟩ finish) {row column : Nat}
    (hbefore : row < finish.row ∨ row = finish.row ∧ column < finish.column)
    (hline : sheet.lines[row]? = some line) (hraw : (visited line)[column]? = some raw) :
    ∃ after value, sheet.Reaches evaluate ⟨0, 0, context⟩ ⟨row, column, after⟩ ∧
      ((evaluate ⟨row, column⟩ (Text.trim raw)).outcome after).1 = .ok value := by
  induction h with
  | refl =>
      rcases hbefore with hrow | ⟨-, hcolumn⟩
      · exact absurd hrow (Nat.not_lt_zero row)
      · exact absurd hcolumn (Nat.not_lt_zero column)
  | @tail moment _ hreach hstep ih =>
      cases hstep with
      | @field other _ value hother hfield hvalue =>
          by_cases hhere : row = moment.row ∧ column = moment.column
          · obtain ⟨rfl, rfl⟩ := hhere
            obtain rfl := Option.some.inj (hother.symm.trans hline)
            obtain rfl := Option.some.inj (hfield.symm.trans hraw)
            exact ⟨moment.context, value, hreach, hvalue⟩
          · dsimp only at hbefore
            exact ih (by omega)
      | @line other hother hcolumn =>
          refine ih ?_
          by_cases hhere : row = moment.row
          · obtain rfl := hhere
            obtain rfl := Option.some.inj (hother.symm.trans hline)
            exact .inr ⟨rfl, hcolumn ▸ (List.getElem?_eq_some_iff.mp hraw).1⟩
          · dsimp only at hbefore
            exact .inl (by omega)

/-- A pass changes a field: it comes to the field, whose value differs from what is written. -/
def Changes (sheet : Sheet) (evaluate : Cell → Text → Evaluation Text) (start : Moment)
    (row column : Nat) : Prop :=
  ∃ context line raw value, sheet.Reaches evaluate start ⟨row, column, context⟩ ∧
    sheet.lines[row]? = some line ∧ (visited line)[column]? = some raw ∧
    ((evaluate ⟨row, column⟩ (Text.trim raw)).outcome context).1 = .ok value ∧ value ≠ raw

/-- A run goes on from the moment after a line, and yields the record of the line first. -/
theorem IsRun.cons (rows : List (Nat × Record)) {pass : Pass}
    (hline : sheet.lines[start.row]? = some line) (hrow : moment.row = start.row + 1)
    (hreach : sheet.Reaches evaluate start moment)
    (hrows : ∀ snapshots : Snapshots,
      snapshots.get? start.row = moment.context.snapshots.get? start.row →
      (yielded snapshots (line, start.row)).toList = rows)
    (hrun : sheet.IsRun evaluate moment finish pass) :
    sheet.IsRun evaluate start finish { pass with rows := rows ++ pass.rows } := by
  refine ⟨hreach.trans hrun.reaches, hrun.stops, hrun.context_eq, ?_⟩
  have hle := row_le_of_reaches hrun.reaches
  have hdrop : sheet.lines.drop start.row = line :: sheet.lines.drop (start.row + 1) := by
    rw [List.drop_eq_getElem?_toList_append, hline]
    rfl
  have hcount : finish.row - start.row = finish.row - (start.row + 1) + 1 := by omega
  have hfirst := hrows finish.context.snapshots
    (get?_of_reaches_of_lt hrun.reaches (by omega))
  have hrest := hrun.rows_eq
  rw [hrow] at hrest
  show rows ++ pass.rows = _
  rw [hdrop, hcount, List.take_succ_cons, List.zipIdx_cons, List.filterMap_cons, hrest, ← hfirst]
  cases yielded finish.context.snapshots (line, start.row) <;> rfl

variable (hkeeps : ∀ cell text context, (evaluate cell text).Keeps context)
include hkeeps

/-- The fields of a line from one on: the pass comes to the end of them, or one of them fails. -/
theorem evaluateFields_spec (hline : sheet.lines[moment.row]? = some line) {rest : List Text}
    (hrest : (visited line).drop moment.column = rest) :
    match (sheet.evaluateFields evaluate moment.row moment.column rest).outcome moment.context with
    | (.ok (), after) =>
        sheet.Reaches evaluate moment ⟨moment.row, moment.column + rest.length, after⟩
    | (.error fault, after) => ∃ column,
        sheet.Reaches evaluate moment ⟨moment.row, column, after⟩ ∧
          sheet.FailsAt evaluate ⟨moment.row, column, after⟩ fault := by
  induction rest generalizing moment with
  | nil => exact .refl
  | cons raw rest ih =>
      obtain ⟨hraw, hnext⟩ := getElem?_and_drop_of_drop_eq_cons hrest
      have hcolumn : moment.column < (fields line).length := by
        simpa [fields] using (List.getElem?_eq_some_iff.mp (raw_of_visited hraw).2).1
      rw [outcome_evaluateFields_cons hline hcolumn rest (hkeeps _ _ _)]
      cases hvalue : ((evaluate ⟨moment.row, moment.column⟩ (Text.trim raw)).outcome
          moment.context).1 with
      | error fault => exact ⟨moment.column, .refl, line, raw, hline, hraw, hvalue⟩
      | ok value =>
          have hstep := Step.field hline hraw hvalue
          have hfollowing := @ih ⟨moment.row, moment.column + 1, moment.context.afterField
            (fields line) moment.row moment.column raw value⟩ hline hnext
          have hlength : moment.column + (raw :: rest).length =
              moment.column + 1 + rest.length := by
            rw [List.length_cons]
            omega
          rw [hlength]
          dsimp only at hfollowing ⊢
          split at hfollowing
          · next hrun =>
            rw [hrun]
            exact .head hstep hfollowing
          · next hrun =>
            obtain ⟨column, hreach, hfails⟩ := hfollowing
            rw [hrun]
            exact ⟨column, .head hstep hreach, hfails⟩

/-- A line evaluated from its first field on gives the record of its snapshot. -/
theorem evaluateLine_spec (hline : sheet.lines[moment.row]? = some line)
    (hcolumn : moment.column = 0) (hnonempty : line ≠ []) :
    match (sheet.evaluateLine evaluate moment.row line).outcome moment.context with
    | (.ok record, after) =>
        sheet.Reaches evaluate moment ⟨moment.row + 1, 0, after⟩ ∧
          yielded after.snapshots (line, moment.row) = some (moment.row, record)
    | (.error fault, after) => ∃ column,
        sheet.Reaches evaluate moment ⟨moment.row, column, after⟩ ∧
          sheet.FailsAt evaluate ⟨moment.row, column, after⟩ fault := by
  have hvisited : visited line = rawFields line := if_neg hnonempty
  have hrest : (visited line).drop moment.column = rawFields line := by
    rw [hcolumn, hvisited, List.drop_zero]
  have hfields := evaluateFields_spec hkeeps hline hrest
  rw [hcolumn, Nat.zero_add] at hfields
  rw [evaluateLine, outcome_bind]
  split at hfields
  · next after hrun =>
    rw [hrun]
    refine ⟨hfields.tail (.line hline ?_), ?_⟩
    · show (rawFields line).length = (visited line).length
      rw [hvisited]
    · exact if_neg hnonempty
  · next hrun =>
    rw [hrun]
    exact hfields

/-- A pass over the lines from a row on is a run of steps. -/
theorem exists_isRun_passFrom {rest : List Text} (hrest : sheet.lines.drop moment.row = rest)
    (hrow : moment.row ≤ sheet.lines.length) (hcolumn : moment.column = 0) :
    ∃ finish, sheet.IsRun evaluate moment finish
      (sheet.passFrom evaluate moment.row rest moment.context) := by
  induction rest generalizing moment with
  | nil =>
      have hend : moment.row = sheet.lines.length :=
        Nat.le_antisymm hrow (List.drop_eq_nil_iff.mp hrest)
      refine ⟨moment, .refl, ⟨hend, hcolumn⟩, rfl, ?_⟩
      rw [Nat.sub_self]
      rfl
  | cons line rest ih =>
      obtain ⟨hline, hnext⟩ := getElem?_and_drop_of_drop_eq_cons hrest
      have hlast : moment.row + 1 ≤ sheet.lines.length := (List.getElem?_eq_some_iff.mp hline).1
      unfold passFrom
      split
      · next hempty =>
        obtain ⟨finish, hrun⟩ := @ih ⟨moment.row + 1, 0, moment.context⟩ hnext hlast rfl
        have hstep : sheet.Step evaluate moment ⟨moment.row + 1, 0, moment.context⟩ :=
          .line hline (by rw [hcolumn, visited, if_pos hempty, List.length_nil])
        refine ⟨finish, .cons [] hline rfl (.single hstep) (fun snapshots _ => ?_) hrun⟩
        rw [yielded, if_pos hempty, Option.toList_none]
      · next hnonempty =>
        have hspec := evaluateLine_spec hkeeps hline hcolumn hnonempty
        split at hspec
        · next record after hevaluated =>
          obtain ⟨hreach, hrecord⟩ := hspec
          obtain ⟨finish, hrun⟩ := @ih ⟨moment.row + 1, 0, after⟩ hnext hlast rfl
          rw [hevaluated]
          refine ⟨finish, .cons [(moment.row, record)] hline rfl hreach (fun snapshots hsnapshots => ?_)
            hrun⟩
          rw [yielded, if_neg hnonempty] at hrecord ⊢
          rw [hsnapshots, hrecord, Option.toList_some]
        · next fault after hevaluated =>
          obtain ⟨column, hreach, hfails⟩ := hspec
          rw [hevaluated]
          refine ⟨⟨moment.row, column, after⟩, hreach, hfails, rfl, ?_⟩
          rw [Nat.sub_self]
          rfl

omit hkeeps in
/-- The pass of an evaluator is a run of steps from the first field. -/
theorem exists_isRun_pass (evaluator : Evaluator) (context : Context) :
    ∃ finish, evaluator.sheet.IsRun evaluator.cellValue ⟨0, 0, context⟩ finish
      (evaluator.pass context) :=
  @exists_isRun_passFrom evaluator.sheet evaluator.cellValue ⟨0, 0, context⟩
    (cellValue_keeps evaluator) evaluator.sheet.lines rfl (Nat.zero_le _) rfl

omit hkeeps in
/-- The fault of a pass is that of a field that the pass has come to. -/
theorem fails_of_pass {evaluator : Evaluator} {context : Context} {fault : Fault}
    (h : (evaluator.pass context).fault = some fault) :
    ∃ finish, evaluator.sheet.Reaches evaluator.cellValue ⟨0, 0, context⟩ finish ∧
      evaluator.sheet.FailsAt evaluator.cellValue finish fault := by
  obtain ⟨finish, hrun⟩ := exists_isRun_pass evaluator context
  have hstops := hrun.stops
  rw [h] at hstops
  exact ⟨finish, hrun.reaches, hstops⟩

omit hkeeps in
/-- A pass without a fault comes to the end of its sheet. -/
theorem reaches_of_pass {evaluator : Evaluator} {context : Context}
    (h : (evaluator.pass context).fault = none) :
    evaluator.sheet.Reaches evaluator.cellValue ⟨0, 0, context⟩
      ⟨evaluator.sheet.lines.length, 0, (evaluator.pass context).context⟩ := by
  obtain ⟨⟨row, column, after⟩, hrun⟩ := exists_isRun_pass evaluator context
  have hstops := hrun.stops
  rw [h] at hstops
  obtain ⟨rfl, rfl⟩ : row = _ ∧ column = 0 := hstops
  rw [hrun.context_eq]
  exact hrun.reaches

omit hkeeps in
/-- A pass without a fault yields what its last snapshots say. -/
theorem rows_of_pass {evaluator : Evaluator} {context : Context}
    (h : (evaluator.pass context).fault = none) :
    (evaluator.pass context).rows =
      evaluator.sheet.lines.zipIdx.filterMap (yielded (evaluator.pass context).context.snapshots) := by
  obtain ⟨finish, hrun⟩ := exists_isRun_pass evaluator context
  have hstops := hrun.stops
  rw [h] at hstops
  rw [hrun.rows_eq, hrun.context_eq]
  show List.filterMap _ (((evaluator.sheet.lines.drop 0).take (finish.row - 0)).zipIdx 0) = _
  rw [List.drop_zero, Nat.sub_zero, hstops.1, List.take_length]

end Sheet

end SheetCalc
