import SheetCalc.Proofs.Evaluation.Characters
import SheetCalc.Proofs.Pass.Steps

/-!
# The characters of a pass

A character that stands nowhere in a sheet and that values are not written with stands in no
snapshot of a pass over the sheet: a step brings in the value of one field, and the others come from
the line (`Evaluator.lacks_of_step`). Main theorem: `Evaluator.lacks_of_pass`. Such a character
stands in no record that the pass yields.
-/

namespace SheetCalc

open Relation

variable {c : Char}

/-- No row is edited, so nothing stands in a snapshot. -/
theorem Context.lacks_fresh : Context.fresh.snapshots.Lacks c :=
  nofun

/-- A changed field brings the characters of its value into the snapshots. -/
theorem Context.lacks_afterField {context : Context} {base : Record} {row column : Nat}
    {raw value : Text} (h : context.snapshots.Lacks c) (hbase : base.Lacks c) (hvalue : c ∉ value) :
    (context.afterField base row column raw value).snapshots.Lacks c := by
  intro place record hrecord
  by_cases hplace : place = row
  · subst hplace
    by_cases hchanged : value = raw
    · subst hchanged
      rw [afterField_of_unchanged] at hrecord
      exact h _ record hrecord
    · rw [get?_afterField_of_changed hchanged] at hrecord
      obtain rfl := Option.some.inj hrecord
      exact hbase.editedBy (fun earlier hearlier => h _ earlier hearlier) hvalue
  · rw [get?_afterField_of_ne hplace] at hrecord
    exact h place record hrecord

namespace Evaluator

variable {evaluator : Evaluator} (hglyph : c ∉ Value.glyphs) (hsheet : evaluator.sheet.Lacks c)
include hglyph hsheet

/-- A step of a pass keeps the character out of the snapshots. -/
theorem lacks_of_step {moment next : Moment}
    (h : evaluator.sheet.Step evaluator.cellValue moment next)
    (hmoment : moment.context.snapshots.Lacks c) : next.context.snapshots.Lacks c := by
  cases h with
  | line => exact hmoment
  | @field line raw value hline hraw hvalue =>
      have hnone : c ∉ line := hsheet line (List.mem_of_getElem? hline)
      have htext : c ∉ Text.trim raw := by
        have hfield := List.mem_of_getElem? (Sheet.raw_of_visited hraw).2
        exact fun hmem => Record.lacks_rawFields hnone raw hfield (Text.mem_of_mem_trim hmem)
      exact Context.lacks_afterField hmoment (Record.lacks_fields hnone)
        (not_mem_cellValue hglyph hsheet hmoment htext hvalue)

/-- A pass keeps the character out of the snapshots. -/
theorem lacks_of_reaches {start finish : Moment}
    (h : evaluator.sheet.Reaches evaluator.cellValue start finish)
    (hstart : start.context.snapshots.Lacks c) : finish.context.snapshots.Lacks c := by
  induction h with
  | refl => exact hstart
  | tail _ hstep ih => exact lacks_of_step hglyph hsheet hstep ih

/-- A character that stands neither in the sheet nor in the snapshots at the start of a pass, and
that values are not written with, stands in no record that the pass yields. -/
theorem lacks_of_pass {context : Context} (hcontext : context.snapshots.Lacks c)
    {entry : Nat × Record} (hentry : entry ∈ (evaluator.pass context).rows) : entry.2.Lacks c := by
  obtain ⟨finish, hrun⟩ := Sheet.exists_isRun_pass evaluator context
  have hsnapshots : finish.context.snapshots.Lacks c :=
    lacks_of_reaches hglyph hsheet hrun.reaches hcontext
  rw [hrun.rows_eq] at hentry
  obtain ⟨⟨line, row⟩, hplace, hyielded⟩ := List.mem_filterMap.mp hentry
  have hline : line ∈ evaluator.sheet.lines := by
    have htaken := List.mem_of_getElem? (List.mem_zipIdx_iff_getElem?.mp hplace)
    exact List.mem_of_mem_drop (List.mem_of_mem_take htaken)
  unfold Sheet.yielded at hyielded
  dsimp only at hyielded
  split at hyielded
  · cases hyielded
  · obtain rfl := Option.some.inj hyielded
    unfold Sheet.current
    cases hsnapshot : finish.context.snapshots.get? row with
    | some record => exact hsnapshots row record hsnapshot
    | none => exact Record.lacks_rawFields (hsheet line hline)

end Evaluator

end SheetCalc
