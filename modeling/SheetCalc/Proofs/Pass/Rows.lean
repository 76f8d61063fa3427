import Mathlib
import SheetCalc.Proofs.Pass.Steps
import SheetCalc.Proofs.Sheet.Changes

/-!
# The rows of a pass

Main theorem: `records_of_pass`. A pass yields the lines that are not empty, in their order, up
to the first field that fails. The record of a line is determined by the values that the pass
found in its fields: no later edit of the row undoes an earlier one.
-/

namespace SheetCalc

open Evaluation Relation

namespace Record

/-- The changes that put values in the place of the fields as written. -/
def changes (raws values : Record) : List Change :=
  values.zipIdx.filterMap fun (value, column) =>
    if raws[column]? = some value then none else some ⟨column, value⟩

/-- The record of a line in whose fields some values were found. A line without a change stays as
it is written; a single change keeps its value as it is; after more, all values are trimmed. -/
def settled (raws values : Record) : Record :=
  match changes raws values with
  | [] => raws
  | [change] => (raws.map Text.trim).set change.column change.value
  | _ => values.map Text.trim

variable {raws values : Record} {column : Nat} {value : Text}

/-- One more value is a change when it differs from what is written. -/
theorem changes_append (raws values : Record) (value : Text) :
    changes raws (values ++ [value]) =
      if raws[values.length]? = some value then changes raws values
      else changes raws values ++ [⟨values.length, value⟩] := by
  unfold changes
  rw [List.zipIdx_append, List.filterMap_append]
  by_cases h : raws[values.length]? = some value <;> simp [h]

/-- The only change of a column is that of its value. -/
theorem filter_changes (raws values : Record) (column : Nat) :
    (changes raws values).filter (·.column = column) =
      match values[column]? with
      | some value => if raws[column]? = some value then [] else [⟨column, value⟩]
      | none => [] := by
  induction values using List.reverseRecOn with
  | nil => rfl
  | append_singleton values value ih =>
      rw [changes_append]
      rcases Nat.lt_trichotomy column values.length with hlt | rfl | hgt
      · have hne : values.length ≠ column := Nat.ne_of_gt hlt
        rw [List.getElem?_append_left hlt, ← ih]
        split <;> simp [hne]
      · rw [List.getElem?_eq_none (Nat.le_refl _)] at ih
        rw [List.getElem?_concat_length]
        split <;> simp [*]
      · have hne : values.length ≠ column := Nat.ne_of_lt hgt
        have hbeyond : (values ++ [value]).length ≤ column := by
          rw [List.length_append]
          exact hgt
        rw [List.getElem?_eq_none (Nat.le_of_lt hgt)] at ih
        rw [List.getElem?_eq_none hbeyond]
        split <;> simp [hne, ih]

/-- The changes leave the value of a field, trimmed. -/
theorem fieldAfter_changes (hvalue : values[column]? = some value) {raw : Text}
    (hraw : raws[column]? = some raw) :
    fieldAfter (Text.trim raw) column (changes raws values) = Text.trim value := by
  rw [fieldAfter, newValues, filter_changes, hvalue, hraw]
  by_cases hsame : raw = value
  · simp [hsame]
  · by_cases htrim : Text.trim value = Text.trim raw <;> simp [hsame, htrim]

/-- What the changes leave of the fields of a line is the record that is settled by the values. -/
theorem current_afterChanges {line : Text} (h : values.length = (Sheet.rawFields line).length) :
    Sheet.current ((Sheet.fields line).afterChanges (changes (Sheet.rawFields line) values)) line =
      settled (Sheet.rawFields line) values := by
  unfold settled
  split
  · next hchanges => rw [hchanges]; rfl
  · next change hchanges => rw [hchanges]; rfl
  · next hnone hone =>
    have hmany : 2 ≤ (changes (Sheet.rawFields line) values).length := by
      match hchanges : changes (Sheet.rawFields line) values with
      | [] => exact absurd hchanges hnone
      | [change] => exact absurd hchanges (hone change)
      | _ :: _ :: _ => simp
    rw [afterChanges_of_two_le _ hmany, Sheet.current, Option.getD_some]
    refine List.ext_getElem? fun column => ?_
    rw [List.getElem?_mapIdx, Sheet.fields, List.getElem?_map, List.getElem?_map]
    cases hvalue : values[column]? with
    | none =>
        have hraw : (Sheet.rawFields line)[column]? = none := by
          rw [List.getElem?_eq_none_iff] at hvalue ⊢
          exact h ▸ hvalue
        rw [hraw]
        rfl
    | some value =>
        have hcolumn : column < (Sheet.rawFields line).length :=
          h ▸ (List.getElem?_eq_some_iff.mp hvalue).1
        have hraw := List.getElem?_eq_getElem hcolumn
        rw [hraw, Option.map_some, Option.map_some, Option.map_some, fieldAfter_changes hvalue hraw]

/-- A settled record has one entry for each field. -/
theorem length_settled (h : values.length = raws.length) :
    (settled raws values).length = raws.length := by
  unfold settled
  split
  · rfl
  · rw [List.length_set, List.length_map]
  · rw [List.length_map, h]

end Record

/-- A moment comes before another one: in an earlier row, or further to the left. -/
def Moment.Before (moment other : Moment) : Prop :=
  moment.row < other.row ∨ moment.row = other.row ∧ moment.column < other.column

/-- A moment before a moment before another one is before it. -/
theorem Moment.Before.trans {first second third : Moment} (h : first.Before second)
    (hnext : second.Before third) : first.Before third := by
  unfold Before at *
  omega

namespace Sheet

variable {sheet : Sheet} {evaluate : Cell → Text → Evaluation Text}
  {start moment other finish : Moment} {line raw value : Text} {row column : Nat}

/-- A step goes on to a later moment. -/
theorem Step.before (h : sheet.Step evaluate moment finish) : moment.Before finish := by
  cases h with
  | field => exact .inr ⟨rfl, Nat.lt_succ_self _⟩
  | line => exact .inl (Nat.lt_succ_self _)

/-- At a field, a pass is not at the end of the line. -/
theorem column_ne_of_visited (hline : sheet.lines[moment.row]? = some line)
    (hraw : (visited line)[moment.column]? = some raw) {same : Text}
    (hsame : sheet.lines[moment.row]? = some same) : moment.column ≠ (visited same).length := by
  obtain rfl := Option.some.inj (hline.symm.trans hsame)
  exact Nat.ne_of_lt (List.getElem?_eq_some_iff.mp hraw).1

/-- A moment has one next moment at most. -/
theorem Step.unique (h : sheet.Step evaluate moment finish)
    (hother : sheet.Step evaluate moment other) : finish = other := by
  cases h with
  | field hline hraw hvalue =>
      cases hother with
      | field hline' hraw' hvalue' =>
          obtain rfl := Option.some.inj (hline.symm.trans hline')
          obtain rfl := Option.some.inj (hraw.symm.trans hraw')
          obtain rfl := Except.ok.inj (hvalue.symm.trans hvalue')
          rfl
      | line hline' hcolumn => exact absurd hcolumn (column_ne_of_visited hline hraw hline')
  | line hline hcolumn =>
      cases hother with
      | field hline' hraw _ => exact absurd hcolumn (column_ne_of_visited hline' hraw hline)
      | line => rfl

/-- Of two moments that a pass comes to, one is before the other. -/
theorem reaches_total (h : sheet.Reaches evaluate start moment)
    (hother : sheet.Reaches evaluate start other) :
    sheet.Reaches evaluate moment other ∨ sheet.Reaches evaluate other moment :=
  ReflTransGen.total_of_right_unique (fun _ _ _ => Step.unique) h hother

/-- A pass that goes on comes to a later moment. -/
theorem before_of_transGen (h : TransGen (sheet.Step evaluate) moment finish) :
    moment.Before finish := by
  induction h with
  | single hstep => exact hstep.before
  | tail _ hstep ih => exact ih.trans hstep.before

/-- A pass comes to a field once. -/
theorem moment_unique (h : sheet.Reaches evaluate start moment)
    (hother : sheet.Reaches evaluate start other) (hrow : moment.row = other.row)
    (hcolumn : moment.column = other.column) : moment = other := by
  have hsame {first second : Moment} (hrow : first.row = second.row)
      (hcolumn : first.column = second.column) (h : sheet.Reaches evaluate first second) :
      first = second := by
    rcases reflTransGen_iff_eq_or_transGen.mp h with heq | hlater
    · exact heq.symm
    · have hbefore := before_of_transGen hlater
      unfold Moment.Before at hbefore
      omega
  rcases reaches_total h hother with hlater | hlater
  · exact hsame hrow hcolumn hlater
  · exact (hsame hrow.symm hcolumn.symm hlater).symm

/-- A pass does not go on from where it stops. -/
theorem StopsAt.not_step {fault : Option Fault} (h : sheet.StopsAt evaluate moment fault) :
    ¬ sheet.Step evaluate moment finish := by
  intro hstep
  cases fault with
  | none =>
      have hend : sheet.lines[moment.row]? = none :=
        List.getElem?_eq_none_iff.mpr (Nat.le_of_eq h.1.symm)
      cases hstep with
      | field hline => cases hend.symm.trans hline
      | line hline => cases hend.symm.trans hline
  | some fault =>
      obtain ⟨line, raw, hline, hraw, hfault⟩ := h
      cases hstep with
      | field hline' hraw' hvalue =>
          obtain rfl := Option.some.inj (hline.symm.trans hline')
          obtain rfl := Option.some.inj (hraw.symm.trans hraw')
          cases hfault.symm.trans hvalue
      | line hline' hcolumn => exact absurd hcolumn (column_ne_of_visited hline hraw hline')

/-- A run goes on to its end from every moment that it comes to. -/
theorem IsRun.reaches_finish {pass : Pass} (h : sheet.IsRun evaluate start finish pass)
    (hmoment : sheet.Reaches evaluate start moment) : sheet.Reaches evaluate moment finish := by
  rcases reaches_total hmoment h.reaches with hlater | hearlier
  · exact hlater
  · rcases hearlier.cases_head with rfl | ⟨next, hstep, -⟩
    · exact .refl
    · exact absurd hstep h.stops.not_step

/-- A pass finds a value in a field when it comes to the field. -/
def Finds (sheet : Sheet) (evaluate : Cell → Text → Evaluation Text) (start : Moment)
    (row column : Nat) (value : Text) : Prop :=
  ∃ context line raw, sheet.Reaches evaluate start ⟨row, column, context⟩ ∧
    sheet.lines[row]? = some line ∧ (visited line)[column]? = some raw ∧
    ((evaluate ⟨row, column⟩ (Text.trim raw)).outcome context).1 = .ok value

/-- A pass finds one value in a field at most. -/
theorem Finds.unique {found : Text} (h : sheet.Finds evaluate start row column value)
    (hfound : sheet.Finds evaluate start row column found) : value = found := by
  obtain ⟨context, line, raw, hreach, hline, hraw, hvalue⟩ := h
  obtain ⟨context', line', raw', hreach', hline', hraw', hvalue'⟩ := hfound
  obtain ⟨-, -, rfl⟩ := Moment.mk.inj (moment_unique hreach hreach' rfl rfl)
  obtain rfl := Option.some.inj (hline.symm.trans hline')
  obtain rfl := Option.some.inj (hraw.symm.trans hraw')
  exact Except.ok.inj (hvalue.symm.trans hvalue')

/-- The values that a pass has found in a row up to a moment, and the snapshot that they have
left. -/
structure Found (sheet : Sheet) (evaluate : Cell → Text → Evaluation Text) (start moment : Moment)
    (row : Nat) (line : Text) (values : Record) : Prop where
  length : values.length = evaluatedAt moment row line
  finds : ∀ column value, values[column]? = some value →
    sheet.Finds evaluate start row column value
  snapshot : moment.context.snapshots.get? row =
    (fields line).afterChanges (Record.changes (rawFields line) values)

/-- The snapshot of a row after one more field. -/
theorem get?_afterField_changes {context : Context} {values : Record}
    (hsnapshot : context.snapshots.get? row =
      (fields line).afterChanges (Record.changes (rawFields line) values))
    (hraw : (rawFields line)[values.length]? = some raw) (value : Text) :
    (context.afterField (fields line) row values.length raw value).snapshots.get? row =
      (fields line).afterChanges (Record.changes (rawFields line) (values ++ [value])) := by
  rw [Record.changes_append, hraw]
  by_cases hsame : value = raw
  · obtain rfl := hsame
    rw [if_pos rfl, Context.afterField_of_unchanged, hsnapshot]
  · have hchanged : ¬ some raw = some value := fun h => hsame (Option.some.inj h).symm
    rw [if_neg hchanged, Context.get?_afterField_of_changed hsame, hsnapshot,
      Record.afterChanges_append (isTrimmed_fields line)]

/-- Evaluating a field finds one more value in its row. -/
theorem Found.field {values : Record} (hreach : sheet.Reaches evaluate start moment)
    (h : sheet.Found evaluate start moment moment.row line values)
    (hline : sheet.lines[moment.row]? = some line)
    (hraw : (visited line)[moment.column]? = some raw)
    (hvalue : ((evaluate moment.cell (Text.trim raw)).outcome moment.context).1 = .ok value) :
    sheet.Found evaluate start ⟨moment.row, moment.column + 1,
      moment.context.afterField (fields line) moment.row moment.column raw value⟩ moment.row line
      (values ++ [value]) := by
  have hlength : values.length = moment.column := by simpa [evaluatedAt] using h.length
  refine ⟨?_, ?_, ?_⟩
  · simp [evaluatedAt, hlength]
  · intro column found hfound
    rcases Nat.lt_or_ge column values.length with hlt | hge
    · rw [List.getElem?_append_left hlt] at hfound
      exact h.finds column found hfound
    · rw [List.getElem?_append_right hge, List.getElem?_singleton] at hfound
      split at hfound
      · next hzero =>
        obtain rfl := Option.some.inj hfound
        obtain rfl : column = moment.column := by omega
        exact ⟨moment.context, line, raw, hreach, hline, hraw, hvalue⟩
      · cases hfound
  · have hfield := (raw_of_visited hraw).2
    rw [← hlength] at hfield ⊢
    exact get?_afterField_changes h.snapshot hfield value

/-- At every moment of a pass, the values found so far have left the snapshots. -/
theorem exists_found_of_reaches (h : sheet.Reaches evaluate ⟨0, 0, .fresh⟩ moment)
    (hline : sheet.lines[row]? = some line) :
    ∃ values, sheet.Found evaluate ⟨0, 0, .fresh⟩ moment row line values := by
  induction h generalizing row line with
  | refl =>
      refine ⟨[], ?_, fun column value hvalue => ?_, rfl⟩
      · rw [evaluatedAt_start, List.length_nil]
      · cases hvalue
  | @tail moment _ hreach hstep ih =>
      cases hstep with
      | @field other raw value hother hraw hvalue =>
          -- A field of another row leaves both the values and the snapshot of this one.
          by_cases hhere : row = moment.row
          · obtain rfl := hhere
            obtain rfl := Option.some.inj (hother.symm.trans hline)
            obtain ⟨values, hfound⟩ := ih hother
            exact ⟨values ++ [value], hfound.field hreach hother hraw hvalue⟩
          · obtain ⟨values, hfound⟩ := ih hline
            refine ⟨values, ?_, hfound.finds, ?_⟩
            · simpa only [evaluatedAt, hhere, if_false] using hfound.length
            · have hne : ((row : Nat) : Int) ≠ moment.row := by omega
              exact (Context.get?_afterField_of_ne hne).trans hfound.snapshot
      | line hother hcolumn =>
          obtain ⟨values, hfound⟩ := ih hline
          refine ⟨values, ?_, hfound.finds, hfound.snapshot⟩
          rw [evaluatedAt_nextLine hother hcolumn hline]
          exact hfound.length

/-- What is yielded for a line is yielded with the row of the line. -/
theorem row_of_yielded {snapshots : Snapshots} {source : Text × Nat} {entry : Nat × Record}
    (h : yielded snapshots source = some entry) : entry.1 = source.2 := by
  unfold yielded at h
  dsimp only at h
  split at h
  · cases h
  · rw [← Option.some.inj h]

/-- The rows that a run yields are the lines that are not empty, before the line where it stops. -/
theorem IsRun.mem_rows {pass : Pass} {record : Record}
    (h : sheet.IsRun evaluate ⟨0, 0, .fresh⟩ finish pass) :
    (row, record) ∈ pass.rows ↔ row < finish.row ∧ ∃ line, sheet.lines[row]? = some line ∧
      line ≠ [] ∧ record = current (finish.context.snapshots.get? row) line := by
  have hrows := h.rows_eq
  rw [List.drop_zero, Nat.sub_zero] at hrows
  rw [hrows, List.mem_filterMap]
  constructor
  · rintro ⟨⟨line, place⟩, hmem, hyielded⟩
    have hline := List.mem_zipIdx_iff_getElem?.mp hmem
    have hplace : place < finish.row := by
      have hlt := (List.getElem?_eq_some_iff.mp hline).1
      rw [List.length_take] at hlt
      exact Nat.lt_of_lt_of_le hlt (Nat.min_le_left _ _)
    rw [List.getElem?_take_of_lt hplace] at hline
    rw [yielded] at hyielded
    split at hyielded
    · cases hyielded
    · next hnonempty =>
      obtain ⟨rfl, rfl⟩ := Prod.mk.inj (Option.some.inj hyielded)
      exact ⟨hplace, line, hline, hnonempty, rfl⟩
  · rintro ⟨hrow, line, hline, hnonempty, rfl⟩
    refine ⟨(line, row), ?_, if_neg hnonempty⟩
    rw [List.mem_zipIdx_iff_getElem?, List.getElem?_take_of_lt hrow]
    exact hline

/-- The rows that a run yields are in increasing order. -/
theorem IsRun.rows_increasing {pass : Pass} (h : sheet.IsRun evaluate start finish pass) :
    (pass.rows.map Prod.fst).Pairwise (· < ·) := by
  have hindices : (((sheet.lines.drop start.row).take (finish.row - start.row)).zipIdx
      start.row).Pairwise fun earlier later => earlier.2 < later.2 := by
    rw [← List.pairwise_map (f := Prod.snd) (R := (· < ·)), List.zipIdx_map_snd]
    exact List.pairwise_lt_range'
  rw [h.rows_eq, List.map_filterMap]
  refine hindices.filterMap _ fun earlier later hlt place hplace other hother => ?_
  obtain ⟨first, hfirst, rfl⟩ := Option.map_eq_some_iff.mp hplace
  obtain ⟨second, hsecond, rfl⟩ := Option.map_eq_some_iff.mp hother
  rw [row_of_yielded hfirst, row_of_yielded hsecond]
  exact hlt

/-- The rows that a run yields begin with those that it has completed at a moment. -/
theorem IsRun.exists_rows_eq_append {pass : Pass} {context : Context}
    (h : sheet.IsRun evaluate ⟨0, 0, context⟩ finish pass)
    (hmoment : sheet.Reaches evaluate ⟨0, 0, context⟩ moment)
    (hrow : moment.row ≤ sheet.lines.length) :
    ∃ rest, pass.rows =
        (sheet.lines.take moment.row).zipIdx.filterMap (yielded moment.context.snapshots) ++ rest ∧
      ∀ entry ∈ rest, moment.row ≤ entry.1 := by
  have hlater := h.reaches_finish hmoment
  have hle := row_le_of_reaches hlater
  obtain ⟨count, hcount⟩ := Nat.exists_eq_add_of_le hle
  have hrows := h.rows_eq
  rw [List.drop_zero, Nat.sub_zero, hcount, List.take_add, List.zipIdx_append,
    List.filterMap_append, List.length_take_of_le hrow, Nat.zero_add] at hrows
  -- The rows are read off the snapshots at the end of the run; those of the completed rows have
  -- not changed since.
  have hcompleted : (sheet.lines.take moment.row).zipIdx.filterMap
        (yielded finish.context.snapshots) =
      (sheet.lines.take moment.row).zipIdx.filterMap (yielded moment.context.snapshots) := by
    refine List.filterMap_congr fun entry hentry => ?_
    have hplace := List.snd_lt_of_mem_zipIdx hentry
    rw [List.length_take_of_le hrow, Nat.add_zero] at hplace
    have hsnapshot := get?_of_reaches_of_lt hlater (Int.ofNat_lt.mpr hplace)
    obtain ⟨line, row⟩ := entry
    rw [yielded, yielded, hsnapshot]
  refine ⟨_, hcompleted ▸ hrows, ?_⟩
  intro entry hentry
  obtain ⟨source, hsource, hyielded⟩ := List.mem_filterMap.mp hentry
  rw [row_of_yielded hyielded]
  exact List.le_snd_of_mem_zipIdx hsource

/-- No update is lost in a row. A pass yields exactly the lines that are not empty, in increasing
order, up to the first field that fails. The record of a line is settled by the values that the
pass found in its fields, one for each field. -/
theorem records_of_pass (sheet : Sheet) (detectCycles : Bool) :
    let evaluate := (Evaluator.ofSheet sheet detectCycles).cellValue
    let pass := (Evaluator.ofSheet sheet detectCycles).pass .fresh
    let start : Moment := ⟨0, 0, .fresh⟩
    (pass.rows.map Prod.fst).Pairwise (· < ·) ∧
    (∃ stop, sheet.Reaches evaluate start stop ∧ sheet.StopsAt evaluate stop pass.fault ∧
      ∀ row, row ∈ pass.rows.map Prod.fst ↔
        row < stop.row ∧ ∃ line, sheet.lines[row]? = some line ∧ line ≠ []) ∧
    ∀ row record, (row, record) ∈ pass.rows → ∃ line values, sheet.lines[row]? = some line ∧
      (∀ column value, values[column]? = some value ↔ sheet.Finds evaluate start row column value) ∧
      values.length = (rawFields line).length ∧ record.length = (rawFields line).length ∧
      record = Record.settled (rawFields line) values := by
  intro evaluate pass start
  obtain ⟨finish, hrun⟩ := exists_isRun_pass (Evaluator.ofSheet sheet detectCycles) .fresh
  refine ⟨hrun.rows_increasing, ⟨finish, hrun.reaches, hrun.stops, fun row => ?_⟩, ?_⟩
  · rw [List.mem_map]
    constructor
    · rintro ⟨⟨place, record⟩, hmem, rfl⟩
      obtain ⟨hrow, line, hline, hnonempty, -⟩ := hrun.mem_rows.mp hmem
      exact ⟨hrow, line, hline, hnonempty⟩
    · rintro ⟨hrow, line, hline, hnonempty⟩
      exact ⟨(row, _), hrun.mem_rows.mpr ⟨hrow, line, hline, hnonempty, rfl⟩, rfl⟩
  · intro row record hmem
    obtain ⟨hrow, line, hline, hnonempty, rfl⟩ := hrun.mem_rows.mp hmem
    obtain ⟨values, hfound⟩ := exists_found_of_reaches hrun.reaches hline
    have hvisited : visited line = rawFields line := if_neg hnonempty
    have hlength : values.length = (rawFields line).length := by
      rw [hfound.length, evaluatedAt, if_pos hrow, hvisited]
    have hrecord : current (finish.context.snapshots.get? row) line =
        Record.settled (rawFields line) values := by
      rw [hfound.snapshot, Record.current_afterChanges hlength]
    refine ⟨line, values, hline, fun column value => ⟨hfound.finds column value, fun hfinds => ?_⟩,
      hlength, ?_, hrecord⟩
    · obtain ⟨-, other, raw, -, hother, hraw, -⟩ := id hfinds
      obtain rfl := Option.some.inj (hline.symm.trans hother)
      rw [hvisited] at hraw
      have hcolumn : column < values.length := hlength ▸ (List.getElem?_eq_some_iff.mp hraw).1
      have hheld := List.getElem?_eq_getElem hcolumn
      rw [hfinds.unique (hfound.finds column _ hheld), hheld]
    · rw [hrecord, Record.length_settled hlength]

/-- Two changes in one row, an empty line, and a single change with blanks in its value. -/
def shelf : Sheet :=
  ⟨[" bolt , 3".toList, [], "nut,=print(\" m \")".toList]⟩

/-- The rows that a pass yields for `shelf`. -/
theorem rows_of_shelf : ((Evaluator.ofSheet shelf true).pass .fresh).rows =
    [(0, ["bolt".toList, "3".toList]), (2, ["nut".toList, " m ".toList])] := by
  cbv

/-- The last row of `shelf` is settled by its values, and keeps the blanks of its only change. -/
theorem records_of_pass_shelf :
    (2, ["nut".toList, " m ".toList]) ∈ ((Evaluator.ofSheet shelf true).pass .fresh).rows ∧
    ∃ line values, shelf.lines[2]? = some line ∧
      (∀ column value, values[column]? = some value ↔
        shelf.Finds (Evaluator.ofSheet shelf true).cellValue ⟨0, 0, .fresh⟩ 2 column value) ∧
      values.length = (rawFields line).length ∧
      ["nut".toList, " m ".toList] = Record.settled (rawFields line) values := by
  have hmem : (2, ["nut".toList, " m ".toList]) ∈
      ((Evaluator.ofSheet shelf true).pass .fresh).rows := by
    rw [rows_of_shelf]
    exact .tail _ (.head _)
  obtain ⟨-, -, hrecords⟩ := records_of_pass shelf true
  obtain ⟨line, values, hline, hfinds, hlength, -, hrecord⟩ := hrecords 2 _ hmem
  exact ⟨hmem, line, values, hline, hfinds, hlength, hrecord⟩

end Sheet

end SheetCalc
