import Mathlib
import SheetCalc.Proofs.Evaluation.References
import SheetCalc.Proofs.Pass.Termination

/-!
# The values of a whole pass

Main theorem: `pass_eq_freshRows`. A pass answers references from the snapshots that it has
made so far, and yet its rows hold what each cell gives when it is evaluated on its own in a
fresh context. The invariant is `RowState`: a field that was evaluated holds its value, and
the fields ahead of it their texts.
-/

namespace SheetCalc

open Evaluation Relation

/-- The result of a cell that is evaluated on its own. -/
def Evaluator.freshValue (evaluator : Evaluator) (cell : Cell) (text : Text) :
    Except Fault Text :=
  ((evaluator.cellValue cell text).outcome .fresh).1

/-- The rows of a sheet, each of their cells evaluated on its own. -/
def Evaluator.freshRows (evaluator : Evaluator) : List (Nat × List (Except Fault Text)) :=
  evaluator.sheet.lines.zipIdx.filterMap fun (line, row) =>
    if line = [] then none
    else some (row, (Sheet.fields line).mapIdx fun column text =>
      evaluator.freshValue ⟨row, column⟩ text)

namespace Sheet

variable {sheet : Sheet} {cell other : Cell} {text value : Text} {context : Context}

/-- The text of a cell is a formula, well formed or not. -/
def IsFormula (sheet : Sheet) (cell : Cell) : Prop :=
  ∃ text, sheet.textAt? cell = some text ∧ (Formula.body? text).isSome

/-- The evaluation of a cell on its own ends with a value, within some budget. -/
def HasValue (sheet : Sheet) (cell : Cell) (value : Text) : Prop :=
  ∃ budget text, sheet.textAt? cell = some text ∧
    ((sheet.unguarded budget cell text).outcome .fresh).1 = .ok value

/-- A cell has at most one value. -/
theorem HasValue.unique {another : Text} (h : sheet.HasValue cell value)
    (hother : sheet.HasValue cell another) : value = another := by
  obtain ⟨budget, text, htext, hvalue⟩ := h
  obtain ⟨spent, same, hsame, hanother⟩ := hother
  obtain rfl := Option.some.inj (htext.symm.trans hsame)
  have hlarge {small : Nat} {result : Text} (hle : small ≤ max budget spent)
      (hresult : ((sheet.unguarded small cell text).outcome .fresh).1 = .ok result) :
      ((sheet.unguarded (max budget spent) cell text).outcome .fresh).1 = .ok result := by
    refine (unguarded_eq_of_le hle ?_).trans hresult
    intro hendless
    cases hresult.symm.trans hendless
  have hfirst := hlarge (Nat.le_max_left budget spent) hvalue
  have hsecond := hlarge (Nat.le_max_right budget spent) hanother
  exact Except.ok.inj (hfirst.symm.trans hsecond)

/-- A text that is no formula is its own value. -/
theorem HasValue.eq_text (h : sheet.HasValue cell value) (htext : sheet.textAt? cell = some text)
    (hformula : ¬ sheet.IsFormula cell) : value = text := by
  obtain ⟨budget, same, hsame, hvalue⟩ := h
  obtain rfl := Option.some.inj (htext.symm.trans hsame)
  have hbody : Formula.body? text = none := by
    rw [Option.eq_none_iff_forall_ne_some]
    intro body hbody
    exact hformula ⟨text, htext, by rw [hbody, Option.isSome_some]⟩
  cases budget with
  | zero => cases hvalue
  | succ budget =>
      rw [unguarded_succ, Lookup.textValue, hbody] at hvalue
      exact (Except.ok.inj hvalue).symm

/-- A cell with a value does not depend on itself. -/
theorem HasValue.not_transGen (h : sheet.HasValue cell value) :
    ¬ TransGen sheet.Refers cell cell := by
  intro hcycle
  obtain ⟨budget, text, htext, hvalue⟩ := h
  have hwithin : sheet.HasValueWithin .fresh budget cell := ⟨text, value, htext, hvalue⟩
  exact hwithin.not_transGen
    (TransGen.mono (fun _ _ hrefers => ⟨hrefers, rfl⟩) cell cell hcycle)

/-- A cell that is evaluated on its own, with or without the guard. -/
theorem hasValue_of_freshValue {detectCycles : Bool} (htext : sheet.textAt? cell = some text)
    (h : (Evaluator.ofSheet sheet detectCycles).freshValue cell text = .ok value) :
    sheet.HasValue cell value :=
  ⟨sheet.cellCount + 1, text, htext, unguarded_ok_of_cellValue h⟩

/-- The snapshots answer for the cells that a cell depends on with their values. -/
def Faithful (sheet : Sheet) (snapshots : Snapshots) (cell : Cell) : Prop :=
  ∀ other record value line, TransGen sheet.Refers cell other →
    snapshots.get? other.row = some record → sheet.HasValue other value →
    record.fieldAt other line = .ok value

/-- A reference that a snapshot answers with the value of its cell, if the cell has one. -/
theorem answered_agree {budget : Nat} {record : Record} {line : Int}
    (hsnapshot : context.snapshots.get? cell.row = some record) (haddress : cell.Addressable)
    (h : ∀ value, sheet.HasValue cell value → record.fieldAt cell line = .ok value) :
    RelatedAt (Agree (fun _ => True) Fault.Never) .fresh context
      (sheet.lookup (sheet.unguarded budget) cell line)
      (sheet.lookup (sheet.unguarded budget) cell line) := by
  cases htext : sheet.textAt? cell with
  | none =>
      have hmissing : RelatedAt (Agree (fun _ => True) Fault.Never) .fresh context
          (throw (sheet.missing cell) : Evaluation Text) (.ofExcept (record.fieldAt cell line)) :=
        ⟨rfl, rfl, .left _ trivial⟩
      exact hmissing.of_outcome_eq (outcome_lookup_of_missing rfl haddress htext)
        (outcome_lookup_of_snapshot hsnapshot)
  | some text =>
      have hvalue : RelatedAt (Agree (fun _ => True) Fault.Never) .fresh context
          (sheet.unguarded budget cell text) (.ofExcept (record.fieldAt cell line)) := by
        refine ⟨unguarded_keeps budget cell text, rfl, ?_⟩
        cases hresult : ((sheet.unguarded budget cell text).outcome .fresh).1 with
        | error fault => exact .left _ trivial
        | ok value =>
            rw [outcome_ofExcept, h value ⟨budget, text, htext, hresult⟩]
            exact .same _
      exact hvalue.of_outcome_eq (outcome_lookup_of_text rfl htext)
        (outcome_lookup_of_snapshot hsnapshot)

/-- With faithful snapshots, a cell has the value that it has in a fresh context. -/
theorem unguarded_agree_of_faithful (budget : Nat) (hfaithful : sheet.Faithful context.snapshots cell)
    (htext : sheet.textAt? cell = some text) :
    RelatedAt (Agree (fun _ => True) Fault.Never) .fresh context
      (sheet.unguarded budget cell text) (sheet.unguarded budget cell text) := by
  induction budget generalizing cell text with
  | zero => exact ⟨rfl, rfl, .same _⟩
  | succ budget ih =>
      rw [unguarded_succ]
      refine .textValue (congruence_agree _ _) ?_
      intro next hnext
      have hrefers : sheet.Refers cell next := ⟨text, htext, hnext⟩
      have haddress := Formula.addressable_of_mem_cellsIn hnext
      have hlater : sheet.Faithful context.snapshots next := fun other record value line hchain =>
        hfaithful other record value line (.head hrefers hchain)
      cases hsnapshot : context.snapshots.get? next.row with
      | none =>
          refine .lookup (congruence_agree _ _) haddress hsnapshot fun content hcontent _ => ?_
          exact ih hlater hcontent
      | some record =>
          refine answered_agree hsnapshot haddress fun result hvalue => ?_
          exact hfaithful next record result _ (.single hrefers) hsnapshot hvalue

/-- With faithful snapshots and an empty trail, an evaluator finds the value of a cell. -/
theorem cellValue_of_faithful {detectCycles : Bool} (htext : sheet.textAt? cell = some text)
    (hfaithful : sheet.Faithful context.snapshots cell) (htrail : context.trail = [])
    (hvalue : (Evaluator.ofSheet sheet detectCycles).freshValue cell text = .ok value) :
    (((Evaluator.ofSheet sheet detectCycles).cellValue cell text).outcome context).1 =
      .ok value := by
  have hfresh := unguarded_ok_of_cellValue hvalue
  have hagree := unguarded_agree_of_faithful (sheet.cellCount + 1) hfaithful htext
  exact cellValue_ok_of_unguarded htext htrail (hagree.results.ok_of_ok hfresh)

/-- The state of a row of which a pass has evaluated the first `column` fields. -/
structure RowState (sheet : Sheet) (snapshot : Option Record) (row column : Nat) (line : Text) :
    Prop where
  width : (current snapshot line).length = (rawFields line).length
  evaluated : ∀ place < column, ∀ field, (current snapshot line)[place]? = some field →
    sheet.HasValue ⟨row, place⟩ field
  ahead : ∀ record, snapshot = some record → ∀ place, column ≤ place →
    record[place]? = (fields line)[place]?

namespace RowState

variable {snapshot : Option Record} {row column : Nat} {line raw : Text}

/-- Before its first field, a row without a snapshot is as written. -/
theorem initial (sheet : Sheet) (row : Nat) (line : Text) : sheet.RowState none row 0 line where
  width := rfl
  evaluated place hplace := absurd hplace (Nat.not_lt_zero place)
  ahead _ hrecord := nomatch hrecord

/-- A snapshot is as long as its line. -/
theorem length_eq (h : sheet.RowState snapshot row column line) :
    ∀ record, snapshot = some record → record.length = (fields line).length := by
  rintro record rfl
  rw [fields, List.length_map]
  exact h.width

/-- A field whose value is what is written leaves its row as it is. -/
theorem unchanged (h : sheet.RowState snapshot row column line)
    (hraw : (rawFields line)[column]? = some raw) (hvalue : sheet.HasValue ⟨row, column⟩ raw)
    (htrim : Text.trim raw = raw) : sheet.RowState snapshot row (column + 1) line := by
  refine ⟨h.width, ?_, ?_⟩
  · intro place hplace field hfield
    rcases Nat.lt_succ_iff_lt_or_eq.mp hplace with hbefore | rfl
    · exact h.evaluated place hbefore field hfield
    · have hfound : (current snapshot line)[place]? = some raw := by
        cases snapshot with
        | none => exact hraw
        | some record =>
            have hfield : (fields line)[place]? = some (Text.trim raw) := by simp [fields, hraw]
            exact ((h.ahead record rfl place (Nat.le_refl place)).trans hfield).trans
              (congrArg some htrim)
      obtain rfl := Option.some.inj (hfield.symm.trans hfound)
      exact hvalue
  · intro record hrecord place hplace
    exact h.ahead record hrecord place (Nat.le_of_succ_le hplace)

/-- Before an edit, a field holds a text that the edit trims at most. -/
theorem exists_of_editedBy (h : sheet.RowState snapshot row column line) {value field : Text}
    {place : Nat} (hplace : place ≠ column)
    (hfield : ((fields line).editedBy snapshot column value)[place]? = some field) :
    ∃ former, (current snapshot line)[place]? = some former ∧ Text.trim former = field := by
  rw [Record.getElem?_editedBy_of_ne h.length_eq hplace] at hfield
  cases snapshot with
  | none => exact Option.map_eq_some_iff.mp (List.getElem?_map ▸ hfield)
  | some record => exact Option.map_eq_some_iff.mp hfield

/-- A field whose value differs from what is written is edited in its row. -/
theorem changed (h : sheet.RowState snapshot row column line) {value : Text}
    (hraw : (rawFields line)[column]? = some raw) (hvalue : sheet.HasValue ⟨row, column⟩ value)
    (htrim : ∀ (place : Nat) (value : Text), sheet.HasValue ⟨row, place⟩ value →
      Text.trim value = value) :
    sheet.RowState (some ((fields line).editedBy snapshot column value)) row (column + 1) line := by
  have hcolumn : column < (fields line).length := by
    simpa [fields] using (List.getElem?_eq_some_iff.mp hraw).1
  refine ⟨?_, ?_, ?_⟩
  · rw [current, Option.getD_some, Record.length_editedBy h.length_eq, fields, List.length_map]
  · intro place hplace field hfield
    rcases Nat.lt_succ_iff_lt_or_eq.mp hplace with hbefore | rfl
    · obtain ⟨former, hformer, rfl⟩ := h.exists_of_editedBy (Nat.ne_of_lt hbefore) hfield
      have hheld := h.evaluated place hbefore former hformer
      rwa [htrim place former hheld]
    · have hedited := Record.getElem?_editedBy_self hcolumn value fun record hrecord =>
        h.ahead record hrecord place (Nat.le_refl place)
      have hsame : field = value := by
        cases snapshot with
        | none => exact Option.some.inj (hfield.symm.trans hedited)
        | some record =>
            exact (Option.some.inj (hfield.symm.trans hedited)).trans (htrim place value hvalue)
      rwa [hsame]
  · rintro record hrecord place hplace
    obtain rfl := Option.some.inj hrecord
    have hne : place ≠ column := by omega
    rw [Record.getElem?_editedBy_of_ne h.length_eq hne]
    cases snapshot with
    | none => rfl
    | some record =>
        dsimp only
        rw [h.ahead record rfl place (Nat.le_of_succ_le hplace), map_trim_getElem?_fields]

end RowState

/-- The state of all rows at a moment of a pass. -/
def PassState (sheet : Sheet) (moment : Moment) : Prop :=
  ∀ (row : Nat) (line : Text), sheet.lines[row]? = some line →
    sheet.RowState (moment.context.snapshots.get? row) row (evaluatedAt moment row line) line

/-- Every cell of a line that is not empty has a value of its own, with no blanks around it, and no
formula depends on a formula to its right in its own row. -/
structure IsOrderly (sheet : Sheet) (detectCycles : Bool) : Prop where
  values : ∀ (row column : Nat) (line text : Text), sheet.lines[row]? = some line → line ≠ [] →
    (fields line)[column]? = some text →
    ∃ value, (Evaluator.ofSheet sheet detectCycles).freshValue ⟨row, column⟩ text = .ok value
  leftward : ∀ cell other, TransGen sheet.Refers cell other → other.row = cell.row →
    cell.column < other.column → ¬ sheet.IsFormula other
  trimmed : ∀ (row column : Nat) (line text value : Text), sheet.lines[row]? = some line → line ≠ [] →
    (fields line)[column]? = some text →
    (Evaluator.ofSheet sheet detectCycles).freshValue ⟨row, column⟩ text = .ok value →
    Text.trim value = value

section Orderly

variable {detectCycles : Bool} (h : sheet.IsOrderly detectCycles)
include h

/-- The value of a cell in a line that is not empty has no blanks around it. -/
theorem IsOrderly.trim_eq {row column : Nat} {line : Text} (hline : sheet.lines[row]? = some line)
    (hnonempty : line ≠ []) (hvalue : sheet.HasValue ⟨row, column⟩ value) :
    Text.trim value = value := by
  have ⟨_, text, htext, _⟩ := hvalue
  have hfield : (fields line)[column]? = some text := by simpa [hline] using htext
  obtain ⟨fresh, hfresh⟩ := h.values row column line text hline hnonempty hfield
  obtain rfl := hvalue.unique (hasValue_of_freshValue htext hfresh)
  exact h.trimmed row column line text value hline hnonempty hfield hfresh

omit h in
/-- A snapshot answers for a cell of its row with the value of the cell: it was evaluated, or it is
no formula. -/
theorem RowState.fieldAt_eq {record : Record} {row column evaluated : Nat} {line : Text}
    (hstate : sheet.RowState (some record) row evaluated line)
    (hline : sheet.lines[row]? = some line) (hvalue : sheet.HasValue ⟨row, column⟩ value)
    (hahead : evaluated ≤ column → ¬ sheet.IsFormula ⟨row, column⟩) (number : Int) :
    record.fieldAt ⟨row, column⟩ number = .ok value := by
  have ⟨_, text, htext, _⟩ := hvalue
  have hfield : (fields line)[column]? = some text := by simpa [hline] using htext
  have hfound : record[column]? = some value := by
    rcases Nat.lt_or_ge column evaluated with hbefore | hafter
    · have hcolumn : column < record.length := by
        rw [hstate.length_eq record rfl]
        exact (List.getElem?_eq_some_iff.mp hfield).1
      have hheld := hstate.evaluated column hbefore record[column] (List.getElem?_eq_getElem hcolumn)
      rw [hvalue.unique hheld]
      exact List.getElem?_eq_getElem hcolumn
    · rw [hstate.ahead record rfl column hafter, hfield, hvalue.eq_text htext (hahead hafter)]
  rw [Record.fieldAt_natCast, hfound]

omit h in
/-- A cell that a pass leaves out is no formula. -/
theorem not_isFormula_of_length_visited_le {row column : Nat} {line : Text}
    (hline : sheet.lines[row]? = some line) (hcolumn : (visited line).length ≤ column) :
    ¬ sheet.IsFormula ⟨row, column⟩ := by
  rintro ⟨text, htext, hbody⟩
  have hfield : (fields line)[column]? = some text := by simpa [hline] using htext
  by_cases hempty : line = []
  · obtain rfl := hempty
    have hmem : text ∈ fields [] := List.mem_of_getElem? hfield
    have hnil : fields [] = [[]] := rfl
    rw [hnil, List.mem_singleton] at hmem
    rw [hmem] at hbody
    cases hbody
  · have hlength : (fields line).length = (visited line).length := by
      rw [visited, if_neg hempty, fields, List.length_map]
    have hlt := (List.getElem?_eq_some_iff.mp hfield).1
    omega

/-- At every moment the snapshots are faithful for the next cell. -/
theorem IsOrderly.faithful {moment : Moment} (hstate : sheet.PassState moment)
    (hlater : ∀ row : Int, moment.row < row → moment.context.snapshots.get? row = none)
    (hvalue : sheet.HasValue moment.cell value) :
    sheet.Faithful moment.context.snapshots moment.cell := by
  intro other record result number hchain hsnapshot hresult
  have ⟨_, text, htext, _⟩ := hresult
  obtain ⟨row, column, rfl⟩ := exists_natCast_of_textAt? htext
  have hfield := (textAt?_natCast sheet row column).symm.trans htext
  obtain ⟨line, hline, -⟩ := Option.bind_eq_some_iff.mp hfield
  have hrow := hstate row line hline
  rw [show moment.context.snapshots.get? row = some record from hsnapshot] at hrow
  refine hrow.fieldAt_eq hline hresult (fun hahead => ?_) number
  unfold evaluatedAt at hahead
  split at hahead
  · exact not_isFormula_of_length_visited_le hline hahead
  · next hnotBefore =>
    split at hahead
    · next hhere =>
      obtain rfl := hhere
      refine h.leftward moment.cell _ hchain rfl ?_
      rcases Nat.lt_or_eq_of_le hahead with hlt | rfl
      · exact Int.ofNat_lt.mpr hlt
      · exact absurd hchain hvalue.not_transGen
    · next hnotHere =>
      have hnone := hlater row (by omega)
      cases hnone.symm.trans hsnapshot

/-- At every moment the evaluation of the next cell finds its value. -/
theorem IsOrderly.evaluates {moment : Moment} {line raw : Text}
    (hreach : sheet.Reaches (Evaluator.ofSheet sheet detectCycles).cellValue ⟨0, 0, .fresh⟩ moment)
    (hstate : sheet.PassState moment) (hline : sheet.lines[moment.row]? = some line)
    (hraw : (visited line)[moment.column]? = some raw) :
    ∃ value, sheet.HasValue moment.cell value ∧
      (((Evaluator.ofSheet sheet detectCycles).cellValue moment.cell (Text.trim raw)).outcome
        moment.context).1 = .ok value := by
  obtain ⟨hnonempty, hfield⟩ := raw_of_visited hraw
  have htext := textAt?_of_visited hline hraw
  have htrimmed : (fields line)[moment.column]? = some (Text.trim raw) := by simp [fields, hfield]
  obtain ⟨value, hvalue⟩ := h.values _ _ line _ hline hnonempty htrimmed
  have hfresh : sheet.HasValue moment.cell value := hasValue_of_freshValue htext hvalue
  have hlater : ∀ row : Int, moment.row < row → moment.context.snapshots.get? row = none :=
    fun row hrow => get?_of_reaches_of_gt hreach hrow
  have hfaithful := h.faithful hstate hlater hfresh
  exact ⟨value, hfresh, cellValue_of_faithful htext hfaithful (trail_of_reaches hreach) hvalue⟩

/-- Evaluating a field keeps the rows in their states. -/
theorem IsOrderly.passState_field {moment : Moment} {line raw : Text}
    (hstate : sheet.PassState moment) (hline : sheet.lines[moment.row]? = some line)
    (hraw : (visited line)[moment.column]? = some raw) (hvalue : sheet.HasValue moment.cell value) :
    sheet.PassState ⟨moment.row, moment.column + 1,
      moment.context.afterField (fields line) moment.row moment.column raw value⟩ := by
  intro row other hother
  obtain ⟨hnonempty, hfield⟩ := raw_of_visited hraw
  have htrim (place : Nat) (held : Text) (hheld : sheet.HasValue ⟨moment.row, place⟩ held) :=
    h.trim_eq hline hnonempty hheld
  have hrow := hstate row other hother
  by_cases hhere : row = moment.row
  · obtain rfl := hhere
    obtain rfl := Option.some.inj (hline.symm.trans hother)
    simp only [evaluatedAt, Nat.lt_irrefl, if_false, if_true] at hrow ⊢
    by_cases hsame : value = raw
    · obtain rfl := hsame
      rw [Context.afterField_of_unchanged]
      exact hrow.unchanged hfield hvalue (htrim _ value hvalue)
    · rw [Context.get?_afterField_of_changed hsame]
      exact hrow.changed hfield hvalue htrim
  · have hother : ((row : Nat) : Int) ≠ moment.row := by omega
    rw [Context.get?_afterField_of_ne hother]
    simpa only [evaluatedAt, hhere, if_false] using hrow

omit h in
/-- Turning to the next line keeps the rows in their states. -/
theorem PassState.nextLine {moment : Moment} {line : Text} (hstate : sheet.PassState moment)
    (hline : sheet.lines[moment.row]? = some line) (hcolumn : moment.column = (visited line).length) :
    sheet.PassState ⟨moment.row + 1, 0, moment.context⟩ := by
  intro row other hother
  rw [evaluatedAt_nextLine hline hcolumn hother]
  exact hstate row other hother

/-- The rows are in their states at every moment of a pass. -/
theorem IsOrderly.passState {moment : Moment}
    (hreach : sheet.Reaches (Evaluator.ofSheet sheet detectCycles).cellValue ⟨0, 0, .fresh⟩
      moment) : sheet.PassState moment := by
  induction hreach with
  | refl =>
      intro row line _
      rw [evaluatedAt_start]
      exact .initial sheet row line
  | tail hreach hstep ih =>
      cases hstep with
      | field hline hraw hvalue =>
          obtain ⟨value, hfresh, hfound⟩ := h.evaluates hreach ih hline hraw
          obtain rfl := Except.ok.inj (hvalue.symm.trans hfound)
          exact h.passState_field ih hline hraw hfresh
      | line hline hcolumn => exact ih.nextLine hline hcolumn

/-- A row at the end of a pass holds the values of its cells. -/
theorem IsOrderly.map_current {snapshot : Option Record} {row : Nat} {line : Text}
    (hline : sheet.lines[row]? = some line) (hnonempty : line ≠ [])
    (hrow : sheet.RowState snapshot row (visited line).length line) :
    (current snapshot line).map Except.ok = (fields line).mapIdx fun column text =>
      (Evaluator.ofSheet sheet detectCycles).freshValue ⟨row, column⟩ text := by
  have hlength : (visited line).length = (rawFields line).length := by rw [visited, if_neg hnonempty]
  refine List.ext_getElem ?_ fun column hcurrent hfields => ?_
  · rw [List.length_map, List.length_mapIdx, hrow.width, fields, List.length_map]
  · rw [List.length_map] at hcurrent
    rw [List.length_mapIdx] at hfields
    have hfield := List.getElem?_eq_getElem hfields
    have htext : sheet.textAt? ⟨row, column⟩ = some (fields line)[column] := by
      rw [textAt?_natCast, hline, Option.bind_some, hfield]
    have hbefore : column < (visited line).length := by
      rw [hlength, ← hrow.width]
      exact hcurrent
    have hheld := hrow.evaluated column hbefore _ (List.getElem?_eq_getElem hcurrent)
    obtain ⟨value, hvalue⟩ := h.values row column line _ hline hnonempty hfield
    rw [List.getElem_map, List.getElem_mapIdx, hvalue,
      hheld.unique (hasValue_of_freshValue htext hvalue)]

/-- A pass over an orderly sheet has no fault. -/
theorem IsOrderly.fault_eq_none :
    ((Evaluator.ofSheet sheet detectCycles).pass .fresh).fault = none := by
  rw [Option.eq_none_iff_forall_ne_some]
  intro fault hfault
  obtain ⟨moment, hreach, line, raw, hline, hraw, hfails⟩ := fails_of_pass hfault
  obtain ⟨value, -, hvalue⟩ := h.evaluates hreach (h.passState hreach) hline hraw
  cases hfails.symm.trans hvalue

end Orderly

/-- A pass over an orderly sheet completes, and its rows hold what every cell gives when it is
evaluated on its own. -/
theorem pass_eq_freshRows (sheet : Sheet) (detectCycles : Bool)
    (horderly : sheet.IsOrderly detectCycles) :
    let evaluator := Evaluator.ofSheet sheet detectCycles
    let pass := evaluator.pass .fresh
    pass.fault = none ∧
      (pass.rows.map fun (row, record) => (row, record.map Except.ok)) = evaluator.freshRows := by
  intro evaluator pass
  have hfault : pass.fault = none := horderly.fault_eq_none
  have hend : sheet.Reaches evaluator.cellValue ⟨0, 0, .fresh⟩
      ⟨sheet.lines.length, 0, pass.context⟩ := reaches_of_pass hfault
  have hstate := horderly.passState hend
  refine ⟨hfault, ?_⟩
  rw [rows_of_pass hfault, List.map_filterMap, Evaluator.freshRows]
  refine List.filterMap_congr fun (line, row) hmem => ?_
  have hline : sheet.lines[row]? = some line := List.mem_zipIdx_iff_getElem?.mp hmem
  dsimp only [yielded]
  by_cases hempty : line = []
  · rw [if_pos hempty, if_pos hempty, Option.map_none]
  · have hrow := hstate row line hline
    have hbefore : row < sheet.lines.length := (List.getElem?_eq_some_iff.mp hline).1
    simp only [evaluatedAt, hbefore, if_true] at hrow
    rw [if_neg hempty, if_neg hempty, Option.map_some]
    dsimp only
    rw [horderly.map_current hline hempty hrow]

/-- A blank to trim, and references to a row above, to the row itself and to a row below. -/
def ledger : Sheet :=
  ⟨["a,b".toList, " 2,=sum(A1;A3)".toList, [], "=mul(A1;3),=print(B1)".toList]⟩

/-- In `ledger` no reference leads to the right. -/
theorem leftward_ledger (h : ledger.Refers cell other) : other.column ≤ cell.column := by
  have hcheck : (ledger.cells.all fun cell => (ledger.textAt? cell).all fun text =>
      (Formula.cellsIn (cell.row + 1) text).all fun other =>
        decide (other.column ≤ cell.column)) = true := by cbv
  obtain ⟨text, htext, hmem⟩ := h
  have hcell := List.all_eq_true.mp hcheck cell (mem_cells_of_textAt? htext)
  rw [htext, Option.all_some] at hcell
  exact of_decide_eq_true (List.all_eq_true.mp hcell other hmem)

/-- In `ledger` no cell depends on one to its right. -/
theorem column_le_ledger (h : TransGen ledger.Refers cell other) : other.column ≤ cell.column := by
  induction h with
  | single hrefers => exact leftward_ledger hrefers
  | tail _ hrefers ih => exact Int.le_trans (leftward_ledger hrefers) ih

/-- The cells of `ledger` have values without blanks around them. -/
theorem values_ledger {row column : Nat} {line : Text} (hline : ledger.lines[row]? = some line)
    (htext : (fields line)[column]? = some text) :
    ∃ value, (Evaluator.ofSheet ledger true).freshValue ⟨row, column⟩ text = .ok value ∧
      Text.trim value = value := by
  have hcheck : (ledger.lines.zipIdx.all fun (line, row) => (fields line).zipIdx.all
      fun (text, column) =>
        ((Evaluator.ofSheet ledger true).freshValue ⟨row, column⟩ text).toOption.any
          fun value => decide (Text.trim value = value)) = true := by cbv
  have hrow := List.all_eq_true.mp hcheck (line, row) (List.mem_zipIdx_iff_getElem?.mpr hline)
  have hcell := List.all_eq_true.mp hrow (text, column) (List.mem_zipIdx_iff_getElem?.mpr htext)
  dsimp only at hcell
  cases hvalue : (Evaluator.ofSheet ledger true).freshValue ⟨row, column⟩ text with
  | error fault =>
      rw [hvalue] at hcell
      cases hcell
  | ok value =>
      rw [hvalue] at hcell
      exact ⟨value, rfl, of_decide_eq_true hcell⟩

/-- The sheet `ledger` is orderly. -/
theorem isOrderly_ledger : ledger.IsOrderly true where
  values row column line text hline _ htext := by
    obtain ⟨value, hvalue, -⟩ := values_ledger hline htext
    exact ⟨value, hvalue⟩
  leftward cell other hchain _ hright :=
    absurd hright (Int.not_lt.mpr (column_le_ledger hchain))
  trimmed row column line text value hline _ htext hvalue := by
    obtain ⟨other, hother, htrim⟩ := values_ledger hline htext
    obtain rfl := Except.ok.inj (hvalue.symm.trans hother)
    exact htrim

/-- The rows of `ledger` hold the values of its cells. -/
theorem pass_eq_freshRows_ledger :
    ledger.IsOrderly true ∧ ((Evaluator.ofSheet ledger true).pass .fresh).fault = none ∧
    (((Evaluator.ofSheet ledger true).pass .fresh).rows.map fun (row, record) =>
      (row, record.map Except.ok)) = (Evaluator.ofSheet ledger true).freshRows ∧
    (Evaluator.ofSheet ledger true).freshRows =
      [(0, [.ok "a".toList, .ok "b".toList]), (1, [.ok "2".toList, .ok "8".toList]),
        (3, [.ok "6".toList, .ok "8".toList])] := by
  obtain ⟨hfault, hrows⟩ := pass_eq_freshRows ledger true isOrderly_ledger
  exact ⟨isOrderly_ledger, hfault, hrows, by cbv⟩

end Sheet

end SheetCalc
