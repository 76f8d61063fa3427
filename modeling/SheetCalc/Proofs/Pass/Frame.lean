import SheetCalc.Proofs.Evaluation.References
import SheetCalc.Proofs.Pass.Steps

/-!
# What evaluation leaves as it is

Evaluating a cell, a text or a formula leaves the context as it is, also when it fails. An edit
changes the snapshot of its row, and a pass those of the rows in which it has changed a field.
`Context.DiffersOnly` says which snapshots have changed between two contexts. Main theorem:
`context_undisturbed`.
-/

namespace SheetCalc

open Evaluation

/-- Between two contexts the trail is the same, and only the snapshots of some rows have changed. -/
structure Context.DiffersOnly (before after : Context) (rows : Int → Prop) : Prop where
  trail : after.trail = before.trail
  snapshots : ∀ row, ¬ rows row → after.snapshots.get? row = before.snapshots.get? row

namespace Context.DiffersOnly

variable {first second third : Context} {rows others : Int → Prop}

/-- A context differs nowhere from itself. -/
theorem refl (context : Context) (rows : Int → Prop) : context.DiffersOnly context rows :=
  ⟨rfl, fun _ _ => rfl⟩

/-- Two changes in a row differ where one of them does. -/
theorem trans (h : first.DiffersOnly second rows) (hnext : second.DiffersOnly third rows) :
    first.DiffersOnly third rows :=
  ⟨hnext.trail.trans h.trail, fun row hrow =>
    (hnext.snapshots row hrow).trans (h.snapshots row hrow)⟩

/-- More rows can be allowed to differ. -/
theorem mono (h : first.DiffersOnly second rows) (hrows : ∀ row, rows row → others row) :
    first.DiffersOnly second others :=
  ⟨h.trail, fun row hrow => h.snapshots row fun hallowed => hrow (hrows row hallowed)⟩

end Context.DiffersOnly

namespace Sheet

variable {sheet : Sheet} {evaluate : Cell → Text → Evaluation Text} {start moment finish : Moment}

/-- A step of a pass changes the snapshot of its row at most, and only with a field whose value
differs from what is written. -/
theorem Step.differsOnly (h : sheet.Step evaluate moment finish) :
    moment.context.DiffersOnly finish.context fun row => row = moment.row ∧
      finish.row = moment.row ∧ finish.column = moment.column + 1 ∧
      ∃ line raw value, sheet.lines[moment.row]? = some line ∧
        (visited line)[moment.column]? = some raw ∧
        ((evaluate moment.cell (Text.trim raw)).outcome moment.context).1 = .ok value ∧
        value ≠ raw := by
  obtain ⟨htrail, hother⟩ := h.frame
  refine ⟨htrail, ?_⟩
  intro row hrow
  by_cases hhere : row = moment.row
  · cases h with
    | @field line raw value hline hraw hvalue =>
        by_cases hsame : value = raw
        · obtain rfl := hsame
          rw [Context.afterField_of_unchanged]
        · exact absurd ⟨hhere, rfl, rfl, line, raw, value, hline, hraw, hvalue, hsame⟩ hrow
    | line => rfl
  · exact hother row hhere

/-- Between two moments, a pass changes the snapshots of the rows in which it changes a field. -/
theorem differsOnly_of_reaches (h : sheet.Reaches evaluate start finish) :
    start.context.DiffersOnly finish.context fun row => ∃ place column : Nat, row = place ∧
      (place < finish.row ∨ place = finish.row ∧ column < finish.column) ∧
      sheet.Changes evaluate start place column := by
  induction h with
  | refl => exact .refl _ _
  | @tail moment finish hreach hstep ih =>
      refine (ih.mono ?_).trans (hstep.differsOnly.mono ?_)
      · rintro row ⟨place, column, hrow, hbefore, hchanges⟩
        refine ⟨place, column, hrow, ?_, hchanges⟩
        cases hstep with
        | field =>
            show place < moment.row ∨ place = moment.row ∧ column < moment.column + 1
            omega
        | line =>
            show place < moment.row + 1 ∨ place = moment.row + 1 ∧ column < 0
            omega
      · rintro row ⟨hrow, hsame, hnext, line, raw, value, hline, hraw, hvalue, hchanged⟩
        exact ⟨moment.row, moment.column, hrow, .inr ⟨hsame.symm, by omega⟩, moment.context, line,
          raw, value, hreach, hline, hraw, hvalue, hchanged⟩

/-- A row that has a snapshot in the middle of its evaluation has a changed field, if it had no
snapshot at the start of the pass. -/
theorem changes_of_reaches (h : sheet.Reaches evaluate start finish)
    (hstart : start.context.snapshots.get? finish.row = none) {record : Record}
    (hsnapshot : finish.context.snapshots.get? finish.row = some record) :
    ∃ column < finish.column, sheet.Changes evaluate start finish.row column := by
  by_contra hnone
  have hsame := (differsOnly_of_reaches h).snapshots finish.row ?_
  · cases hsnapshot.symm.trans (hsame.trans hstart)
  · rintro ⟨place, column, hplace, hbefore, hchanges⟩
    obtain rfl : finish.row = place := Int.ofNat.inj hplace
    exact hnone ⟨column, by omega, hchanges⟩

/-- An edit that fails changes nothing, and any other edit changes the snapshot of its row alone. -/
theorem outcome_edit_frame (sheet : Sheet) (cell : Cell) (value : Text) (line : Int)
    (context : Context) :
    match (sheet.edit cell value line).outcome context with
    | (.ok _, after) => context.DiffersOnly after (· = cell.row)
    | (.error _, after) => after = context := by
  rw [edit, outcome_bind, outcome_ofExcept]
  cases sheet.staticRecord cell.row with
  | error fault => rfl
  | ok base =>
      dsimp only
      by_cases hwidth : (base.length : Int) ≤ cell.column
      · simp [hwidth]
      · simp only [hwidth, if_false, outcome_bind, outcome_ofExcept]
        cases signedSet base cell.column value with
        | error cause => rfl
        | ok edited =>
            simp only [mapError_ok, outcome_modify]
            refine ⟨rfl, ?_⟩
            intro row hrow
            exact (Snapshots.get?_set _ _ _ _).trans (if_neg hrow)

end Sheet

/-- Evaluation does not disturb its context. In any context, with any trail and any snapshots,
reading a record, looking up a cell, evaluating a cell or a text, filling a formula and computing it
leave the context as it is, whether they have a result or a fault. An edit that fails changes
nothing, and one that succeeds changes the snapshot of its row alone. A pass keeps the trail, and
changes the snapshots of rows with a changed field before the field where it stops. -/
theorem Evaluator.context_undisturbed (evaluator : Evaluator) (context : Context) :
    (∀ row, (Evaluation.ofExcept (evaluator.sheet.staticRecord row)).Keeps context) ∧
    (∀ cell line, (evaluator.lookup cell line).Keeps context) ∧
    (∀ cell text, (evaluator.cellValue cell text).Keeps context) ∧
    (∀ text line, (evaluator.textValue text line).Keeps context) ∧
    (∀ formula line, (evaluator.fill formula line).Keeps context) ∧
    (∀ formula : Formula Literal, (Evaluation.ofExcept formula.value).Keeps context) ∧
    (∀ cell value line,
      match (evaluator.sheet.edit cell value line).outcome context with
      | (.ok _, after) => context.DiffersOnly after (· = cell.row)
      | (.error _, after) => after = context) ∧
    ∃ stop, evaluator.sheet.Reaches evaluator.cellValue ⟨0, 0, context⟩ stop ∧
      evaluator.sheet.StopsAt evaluator.cellValue stop (evaluator.pass context).fault ∧
      context.DiffersOnly (evaluator.pass context).context fun row =>
        ∃ place column : Nat, row = place ∧
          (place < stop.row ∨ place = stop.row ∧ column < stop.column) ∧
          evaluator.sheet.Changes evaluator.cellValue ⟨0, 0, context⟩ place column := by
  have hlookup (cell : Cell) (line : Int) := evaluator.lookup_keeps cell line context
  refine ⟨fun row => keeps_ofExcept _ context, hlookup, ?_, ?_, ?_, ?_, ?_, ?_⟩
  · intro cell text
    exact Sheet.cellValue_keeps evaluator cell text context
  · intro text line
    exact Lookup.textValue_keeps hlookup text line
  · intro formula line
    exact Formula.fill_keeps hlookup formula
  · intro formula
    exact keeps_ofExcept formula.value context
  · intro cell value line
    exact Sheet.outcome_edit_frame evaluator.sheet cell value line context
  · obtain ⟨stop, hrun⟩ := Sheet.exists_isRun_pass evaluator context
    refine ⟨stop, hrun.reaches, hrun.stops, ?_⟩
    rw [hrun.context_eq]
    exact Sheet.differsOnly_of_reaches hrun.reaches

end SheetCalc
