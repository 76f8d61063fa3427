import Mathlib
import SheetCalc.Proofs.Pass.Fields
import SheetCalc.Proofs.Sheet.Changes

/-!
# Histories of edits

`Sheet.history` makes edits one after another, to any rows and in any order, and goes on after
one that fails. Main theorem: `snapshots_of_history`. The snapshot of a row is what the
successful edits of that row leave of its record, and edits of different cells commute.
-/

namespace SheetCalc

open Evaluation

/-- An edit of a cell; it is reported with `line` when it fails. -/
structure Edit extends Change where
  row : Nat
  line : Int

namespace Edit

/-- The cell that is edited. -/
def cell (edit : Edit) : Cell :=
  ⟨edit.row, edit.column⟩

/-- The changes that edits make to one row. -/
def changesTo (row : Int) (edits : List Edit) : List Change :=
  (edits.filter fun edit => (edit.row : Int) = row).map Edit.toChange

/-- Edits of another row make no change. -/
theorem changesTo_append_of_ne {row : Int} {edit : Edit} (h : (edit.row : Int) ≠ row)
    (edits : List Edit) : changesTo row (edits ++ [edit]) = changesTo row edits := by
  simp [changesTo, h]

/-- An edit of the row makes one change more. -/
theorem changesTo_append_self (edit : Edit) (edits : List Edit) :
    changesTo edit.row (edits ++ [edit]) = changesTo edit.row edits ++ [edit.toChange] := by
  simp [changesTo]

end Edit

namespace Snapshots

/-- Entries in the order of their rows are found again, so they are equal when they answer
alike. -/
theorem eq_of_lookup_eq {entries others : List (Int × Record)}
    (hentries : entries.Pairwise fun earlier later => earlier.1 < later.1)
    (hothers : others.Pairwise fun earlier later => earlier.1 < later.1)
    (h : ∀ row, entries.lookup row = others.lookup row) : entries = others := by
  have hbefore {row : Int} {later : List (Int × Record)} (hlater : ∀ entry ∈ later, row < entry.1) :
      later.lookup row = none := by
    refine List.lookup_eq_none_iff.mpr fun entry hmem => ?_
    simpa using (Int.ne_of_lt (hlater entry hmem))
  induction entries generalizing others with
  | nil =>
      cases others with
      | nil => rfl
      | cons other others =>
          have hfound := h other.1
          rw [List.lookup_cons_self] at hfound
          cases hfound
  | cons entry entries ih =>
      obtain ⟨hfirst, hrest⟩ := List.pairwise_cons.mp hentries
      cases others with
      | nil =>
          have hfound := h entry.1
          rw [List.lookup_cons_self] at hfound
          cases hfound
      | cons other others =>
          obtain ⟨hother, hremaining⟩ := List.pairwise_cons.mp hothers
          obtain ⟨row, record⟩ := entry
          obtain ⟨place, snapshot⟩ := other
          rcases Int.lt_trichotomy row place with hlt | rfl | hgt
          · have hnone : ((place, snapshot) :: others).lookup row = none := by
              refine hbefore fun entry hmem => ?_
              rcases List.mem_cons.mp hmem with rfl | hmem
              · exact hlt
              · exact Int.lt_trans hlt (hother entry hmem)
            have hfound := h row
            rw [hnone, List.lookup_cons_self] at hfound
            cases hfound
          · have hsame := h row
            rw [List.lookup_cons_self, List.lookup_cons_self, Option.some.injEq] at hsame
            rw [hsame, ih hrest hremaining fun next => ?_]
            by_cases hnext : next = row
            · rw [hnext, hbefore hfirst, hbefore hother]
            · have hskip : (next == row) = false := by simpa using hnext
              have hfound := h next
              simpa only [List.lookup_cons, hskip] using hfound
          · have hnone : ((row, record) :: entries).lookup place = none := by
              refine hbefore fun entry hmem => ?_
              rcases List.mem_cons.mp hmem with rfl | hmem
              · exact hgt
              · exact Int.lt_trans hgt (hfirst entry hmem)
            have hfound := h place
            rw [hnone, List.lookup_cons_self] at hfound
            cases hfound

/-- Snapshots that answer alike are equal. -/
theorem ext_get? {snapshots others : Snapshots}
    (h : ∀ row, snapshots.get? row = others.get? row) : snapshots = others := by
  obtain ⟨entries, hentries⟩ := snapshots
  obtain ⟨others, hothers⟩ := others
  obtain rfl := eq_of_lookup_eq hentries hothers h
  rfl

end Snapshots

namespace Sheet

variable {sheet : Sheet} {edit : Edit} {context : Context} {row : Int}

/-- Makes edits one after another, also after one that has failed. It gives the edits that
succeeded, and the context after all of them. -/
def history (sheet : Sheet) (context : Context) : List Edit → List Edit × Context
  | [] => ([], context)
  | edit :: edits =>
    match (sheet.edit edit.cell edit.value edit.line).outcome context with
    | (.ok _, after) =>
      let (made, last) := sheet.history after edits
      (edit :: made, last)
    | (.error _, after) => sheet.history after edits

/-- The record of a row as it stands in the sheet; a row that the sheet does not have has no
fields. -/
def base (sheet : Sheet) (row : Int) : Record :=
  (sheet.staticRecord row).toOption.getD []

/-- The sheet has the cell of an edit. -/
def accepts (sheet : Sheet) (edit : Edit) : Bool :=
  edit.column < (sheet.base edit.row).length

/-- The records of a sheet have no blanks around their fields. -/
theorem isTrimmed_base (sheet : Sheet) (row : Int) : (sheet.base row).IsTrimmed := by
  intro field hmem
  unfold base at hmem
  cases hrecord : sheet.staticRecord row with
  | error fault =>
      rw [hrecord] at hmem
      cases hmem
  | ok record =>
      rw [hrecord] at hmem
      obtain ⟨line, -, rfl⟩ := exists_line_of_staticRecord hrecord
      exact isTrimmed_fields line field hmem

/-- An edit of a cell of the sheet changes the snapshot of its row. -/
theorem outcome_edit_of_accepts (h : sheet.accepts edit) (context : Context) :
    (sheet.edit edit.cell edit.value edit.line).outcome context =
      (.ok (), { context with
        snapshots := context.snapshots.set edit.row
          ((sheet.base edit.row).editedBy (context.snapshots.get? edit.row) edit.column
            edit.value) }) := by
  have hcolumn : edit.column < (sheet.base edit.row).length := of_decide_eq_true h
  cases hrecord : sheet.staticRecord edit.row with
  | error fault =>
      rw [base, hrecord] at hcolumn
      exact absurd hcolumn (Nat.not_lt_zero edit.column)
  | ok record =>
      have hbase : sheet.base edit.row = record := by rw [base, hrecord]; rfl
      rw [hbase] at hcolumn ⊢
      exact outcome_edit_of_record hrecord hcolumn edit.value edit.line

/-- Any other edit fails, and leaves the context. -/
theorem outcome_edit_of_not_accepts (h : ¬ sheet.accepts edit) (context : Context) :
    ∃ fault, (sheet.edit edit.cell edit.value edit.line).outcome context =
      (.error fault, context) := by
  cases hrecord : sheet.staticRecord edit.row with
  | error fault => exact ⟨fault, by simp [Edit.cell, Sheet.edit, hrecord, outcome_bind]⟩
  | ok record =>
      have hbase : sheet.base edit.row = record := by rw [base, hrecord]; rfl
      have hwidth : record.length ≤ edit.column := by
        rw [accepts, hbase, decide_eq_true_eq] at h
        exact Nat.not_lt.mp h
      exact ⟨.evaluation (.editBeyond edit.row record.length edit.column) edit.line, by
        simp [Edit.cell, Sheet.edit, hrecord, outcome_bind, hwidth]⟩

/-- The edits that succeed are those of the cells of the sheet. -/
theorem made_of_history (sheet : Sheet) (context : Context) (edits : List Edit) :
    (sheet.history context edits).1 = edits.filter sheet.accepts := by
  induction edits generalizing context with
  | nil => rfl
  | cons edit edits ih =>
      unfold history
      by_cases haccepts : sheet.accepts edit
      · rw [outcome_edit_of_accepts haccepts, List.filter_cons_of_pos haccepts]
        exact congrArg (edit :: ·) (ih _)
      · obtain ⟨fault, hfails⟩ := outcome_edit_of_not_accepts haccepts context
        rw [hfails, List.filter_cons_of_neg haccepts]
        exact ih context

/-- A history keeps the trail. -/
theorem trail_of_history (sheet : Sheet) (context : Context) (edits : List Edit) :
    (sheet.history context edits).2.trail = context.trail := by
  induction edits generalizing context with
  | nil => rfl
  | cons edit edits ih =>
      unfold history
      by_cases haccepts : sheet.accepts edit
      · rw [outcome_edit_of_accepts haccepts]
        exact ih _
      · obtain ⟨fault, hfails⟩ := outcome_edit_of_not_accepts haccepts context
        rw [hfails]
        exact ih context

/-- The snapshots are what some edits have left of the records. -/
def Reflects (sheet : Sheet) (snapshots : Snapshots) (edits : List Edit) : Prop :=
  ∀ row, snapshots.get? row = (sheet.base row).afterChanges (Edit.changesTo row edits)

/-- The snapshots go on reflecting the edits when one more is made. -/
theorem Reflects.set {snapshots : Snapshots} {made : List Edit} (h : sheet.Reflects snapshots made)
    (edit : Edit) :
    sheet.Reflects (snapshots.set edit.row ((sheet.base edit.row).editedBy
      (snapshots.get? edit.row) edit.column edit.value)) (made ++ [edit]) := by
  intro row
  rw [Snapshots.get?_set]
  by_cases hrow : row = edit.row
  · rw [if_pos hrow, hrow, h edit.row, Edit.changesTo_append_self,
      Record.afterChanges_append (sheet.isTrimmed_base edit.row)]
  · rw [if_neg hrow, Edit.changesTo_append_of_ne (Ne.symm hrow), h row]

/-- After a history, the snapshots reflect the edits that succeeded, those before it included. -/
theorem reflects_of_history (context : Context) {made : List Edit} (edits : List Edit)
    (h : sheet.Reflects context.snapshots made) :
    sheet.Reflects (sheet.history context edits).2.snapshots
      (made ++ (sheet.history context edits).1) := by
  induction edits generalizing context made with
  | nil => simpa [history] using h
  | cons edit edits ih =>
      unfold history
      by_cases haccepts : sheet.accepts edit
      · rw [outcome_edit_of_accepts haccepts]
        have hrest := ih { context with snapshots := _ } (h.set edit)
        rwa [List.append_assoc] at hrest
      · obtain ⟨fault, hfails⟩ := outcome_edit_of_not_accepts haccepts context
        rw [hfails]
        exact ih context h

/-- Two edits can be swapped when they are not both relevant, or change different columns. -/
theorem afterChanges_filter_swap (base : Record) (relevant : Edit → Bool) {first second : Edit}
    (h : relevant first → relevant second → first.column ≠ second.column)
    (before rest : List Edit) :
    base.afterChanges (((before ++ first :: second :: rest).filter relevant).map Edit.toChange) =
      base.afterChanges
        (((before ++ second :: first :: rest).filter relevant).map Edit.toChange) := by
  simp only [List.filter_append, List.filter_cons, List.map_append]
  by_cases hfirst : relevant first
  · by_cases hsecond : relevant second
    · simp only [hfirst, hsecond, if_true, List.map_cons]
      exact Record.afterChanges_swap (h hfirst hsecond) _ _
    · simp [hsecond]
  · simp [hfirst]

/-- A history that starts without snapshots leaves what its successful edits make of the records. -/
theorem get?_of_history (sheet : Sheet) (trail : Trail) (edits : List Edit) (row : Int) :
    (sheet.history ⟨.empty, trail⟩ edits).2.snapshots.get? row =
      (sheet.base row).afterChanges (Edit.changesTo row (edits.filter sheet.accepts)) := by
  have hstart : sheet.Reflects Snapshots.empty [] := fun _ => rfl
  have hreflects := reflects_of_history ⟨.empty, trail⟩ edits hstart row
  rwa [List.nil_append, made_of_history] at hreflects

/-- Two edits of different cells leave the same context in either order. -/
theorem history_swap (sheet : Sheet) (trail : Trail) {first second : Edit}
    (hcells : first.cell ≠ second.cell) (before rest : List Edit) :
    (sheet.history ⟨.empty, trail⟩ (before ++ first :: second :: rest)).2 =
      (sheet.history ⟨.empty, trail⟩ (before ++ second :: first :: rest)).2 := by
  have hsnapshots : (sheet.history ⟨.empty, trail⟩ (before ++ first :: second :: rest)).2.snapshots =
      (sheet.history ⟨.empty, trail⟩ (before ++ second :: first :: rest)).2.snapshots := by
    refine Snapshots.ext_get? fun row => ?_
    rw [get?_of_history, get?_of_history, Edit.changesTo, Edit.changesTo, List.filter_filter,
      List.filter_filter]
    refine afterChanges_filter_swap _ _ (fun hfirst hsecond hcolumn => hcells ?_) before rest
    have hrows : (first.row : Int) = second.row :=
      (of_decide_eq_true (Bool.and_eq_true_iff.mp hfirst).1).trans
        (of_decide_eq_true (Bool.and_eq_true_iff.mp hsecond).1).symm
    rw [Edit.cell, Edit.cell, hcolumn, hrows]
  have htrail := (trail_of_history sheet ⟨.empty, trail⟩ (before ++ first :: second :: rest)).trans
    (trail_of_history sheet ⟨.empty, trail⟩ (before ++ second :: first :: rest)).symm
  exact congrArg₂ Context.mk hsnapshots htrail

/-- The meaning of any history of edits that starts without snapshots. An edit succeeds exactly
when the sheet has its cell. The snapshot of a row is what the successful edits of the row leave
of its record: a single one keeps its value as it is; after more, each field is the last new value
that differs from the field of the sheet, trimmed. So two edits of different cells, one after the
other, leave the same context in either order. -/
theorem snapshots_of_history (sheet : Sheet) (trail : Trail) (edits : List Edit) :
    let start : Context := ⟨.empty, trail⟩
    let (made, after) := sheet.history start edits
    made = edits.filter sheet.accepts ∧
    (∀ row, after.snapshots.get? row =
      (sheet.base row).afterChanges (Edit.changesTo row made)) ∧
    (∀ before first second rest, edits = before ++ first :: second :: rest →
      first.cell ≠ second.cell →
      (sheet.history start (before ++ second :: first :: rest)).2 = after) := by
  refine ⟨made_of_history sheet _ edits, ?_, ?_⟩
  · intro row
    rw [made_of_history]
    exact get?_of_history sheet trail edits row
  · rintro before first second rest rfl hcells
    exact (history_swap sheet trail hcells before rest).symm

/-- A header and a row of three fields. -/
def inventory : Sheet :=
  ⟨["item,count,note".toList, "nut , =sum(1;2),".toList]⟩

/-- Edits of the row of `inventory`: a value with blanks around it, a column that the row does not
have, a field that is written back as it is in the sheet, and a row that the sheet does not
have. -/
def restocking : List Edit :=
  [⟨⟨0, " bolt ".toList⟩, 1, 2⟩, ⟨⟨3, "lost".toList⟩, 1, 2⟩, ⟨⟨1, "4".toList⟩, 1, 2⟩,
    ⟨⟨0, "nut".toList⟩, 1, 2⟩, ⟨⟨1, "x".toList⟩, 7, 8⟩, ⟨⟨1, " 5".toList⟩, 1, 2⟩]

/-- The row of `inventory` after `restocking`, where the third and the fourth edit can be
swapped. -/
theorem snapshots_of_history_inventory :
    (restocking[2].cell ≠ restocking[3].cell ∧
      (inventory.history .fresh (restocking.take 2 ++ restocking[3] :: restocking[2] ::
        restocking.drop 4)).2 = (inventory.history .fresh restocking).2) ∧
    (inventory.history .fresh restocking).2.snapshots.get? 1 =
      some ["bolt".toList, "5".toList, []] := by
  obtain ⟨hmade, hsnapshots, hswap⟩ := snapshots_of_history inventory [] restocking
  have hcells : restocking[2].cell ≠ restocking[3].cell := by decide
  refine ⟨⟨hcells, hswap (restocking.take 2) restocking[2] restocking[3] (restocking.drop 4) rfl
    hcells⟩, ?_⟩
  rw [show (inventory.history .fresh restocking).2.snapshots.get? 1 = _ from hsnapshots 1, hmade]
  cbv

end Sheet

end SheetCalc
