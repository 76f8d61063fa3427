import Mathlib.Data.List.Perm.Subperm
import SheetCalc.Evaluation.Cell
import SheetCalc.Proofs.Formula.Cells

/-!
# The cells of a sheet

`Sheet.textAt?` is the trimmed text of a cell that the sheet has, and `Sheet.cells` lists
these cells. A reference to an addressable cell meets one of three cases: its row has a
snapshot, the sheet has the cell, or the cell is missing. Each case has its own equation
for `Sheet.lookup`, and the index failures of signed lists occur in none.
-/

namespace SheetCalc

/-- The fault blames what stands in a cell, or a cell that is not there. It is neither a cycle
nor a failure of the machinery, but for a row in a cell that has too many digits. -/
def Fault.IsPlain : Fault → Prop
  | .lexical .. | .grammar .. | .evaluation .. | .conversion _ => True
  | .cycle .. | .column _ | .outOfRange _ | .access _ | .endless => False

/-- The last column with a label is `ZZZ`. -/
theorem Column.lastPosition_eq : lastPosition = 18278 := by
  decide

/-- A cell has a name if its column is one of those up to `ZZZ`. -/
theorem Cell.exists_name_iff {cell : Cell} (h : 0 ≤ cell.column) :
    (∃ name, cell.name = .ok name) ↔ cell.column < 18278 := by
  have hlast := Column.lastPosition_eq
  unfold Cell.name Column.label
  split
  · next hlabel =>
    have hcolumn : cell.column < 18278 := by omega
    exact ⟨fun _ => hcolumn, fun _ => ⟨_, rfl⟩⟩
  · next hlabel =>
    have hcolumn : ¬ cell.column < 18278 := by omega
    exact ⟨nofun, fun hlt => absurd hlt hcolumn⟩

namespace Sheet

variable {sheet : Sheet} {cell : Cell} {text : Text}

/-- The trimmed text of a cell, if the sheet has the cell. -/
def textAt? (sheet : Sheet) (cell : Cell) : Option Text :=
  if 0 ≤ cell.row ∧ 0 ≤ cell.column then
    sheet.lines[cell.row.toNat]?.bind fun line => (fields line)[cell.column.toNat]?
  else none

/-- The cells of a sheet, row by row. -/
def cells (sheet : Sheet) : List Cell :=
  sheet.lines.zipIdx.flatMap fun (line, row) =>
    (List.range (rawFields line).length).map fun column : Nat => ⟨row, column⟩

@[simp]
theorem textAt?_natCast (sheet : Sheet) (row column : Nat) :
    sheet.textAt? ⟨row, column⟩ = sheet.lines[row]?.bind fun line => (fields line)[column]? := by
  simp [textAt?]

/-- A cell of the sheet has natural coordinates. -/
theorem exists_natCast_of_textAt? (h : sheet.textAt? cell = some text) :
    ∃ row column : Nat, cell = ⟨row, column⟩ := by
  unfold textAt? at h
  split at h
  · next hnonneg =>
    refine ⟨cell.row.toNat, cell.column.toNat, ?_⟩
    rw [Int.toNat_of_nonneg hnonneg.1, Int.toNat_of_nonneg hnonneg.2]
  · cases h

/-- A sheet lists as many cells as it counts. -/
theorem length_cells (sheet : Sheet) : sheet.cells.length = sheet.cellCount := by
  simp only [cells, cellCount, List.length_flatMap, List.length_map, List.length_range]
  conv_rhs => rw [← List.zipIdx_map_fst 0 sheet.lines, List.map_map]
  rfl

/-- The cells with a text are the cells of the sheet. -/
theorem mem_cells_of_textAt? (h : sheet.textAt? cell = some text) : cell ∈ sheet.cells := by
  obtain ⟨row, column, rfl⟩ := exists_natCast_of_textAt? h
  rw [textAt?_natCast, Option.bind_eq_some_iff] at h
  obtain ⟨line, hline, hfield⟩ := h
  have hcolumn : column < (rawFields line).length := by
    simpa [fields] using (List.getElem?_eq_some_iff.mp hfield).1
  refine List.mem_flatMap.mpr ⟨(line, row), ?_, ?_⟩
  · exact List.mem_zipIdx_iff_getElem?.mpr hline
  · exact List.mem_map.mpr ⟨column, List.mem_range.mpr hcolumn, rfl⟩

/-- Different cells of a sheet are at most as many as the sheet has. -/
theorem length_le_cellCount {trail : Trail} (hnodup : trail.Nodup)
    (hcells : ∀ cell ∈ trail, cell ∈ sheet.cells) : trail.length ≤ sheet.cellCount := by
  rw [← length_cells]
  exact (hnodup.subperm hcells).length_le

/-- Every line has at most as many fields as there are column names. -/
def IsNarrow (sheet : Sheet) : Prop :=
  ∀ line ∈ sheet.lines, (rawFields line).length ≤ 18278

/-- A cell of the sheet stands in a line that is long enough. -/
theorem exists_line_of_mem_cells (h : cell ∈ sheet.cells) :
    ∃ line ∈ sheet.lines, 0 ≤ cell.column ∧ cell.column < (rawFields line).length := by
  obtain ⟨⟨line, row⟩, hline, hmem⟩ := List.mem_flatMap.mp h
  obtain ⟨column, hcolumn, rfl⟩ := List.mem_map.mp hmem
  have hlt := List.mem_range.mp hcolumn
  refine ⟨line, List.mem_of_getElem? (List.mem_zipIdx_iff_getElem?.mp hline), ?_⟩
  show (0 : Int) ≤ column ∧ (column : Int) < (rawFields line).length
  omega

/-- The columns of a narrow sheet have names. -/
theorem IsNarrow.column_lt (h : sheet.IsNarrow) (hcell : cell ∈ sheet.cells) :
    cell.column < 18278 := by
  obtain ⟨line, hline, -, hlt⟩ := exists_line_of_mem_cells hcell
  have hwidth := h line hline
  omega

/-- The fault of a cell that the sheet does not have. -/
def missing (sheet : Sheet) (cell : Cell) : Fault :=
  match sheet.staticRecord cell.row with
  | .error fault => fault
  | .ok record => .evaluation (.columnBeyond cell.row record.length cell.column) (cell.row + 1)

/-- The record of a row that the sheet has. -/
theorem staticRecord_of_line {row : Nat} {line : Text} (h : sheet.lines[row]? = some line) :
    sheet.staticRecord row = .ok (fields line) := by
  have hrow : ¬ (sheet.lastRow : Int) < row := by
    have := (List.getElem?_eq_some_iff.mp h).1
    simp only [lastRow]
    omega
  simp [staticRecord, hrow, record, signedGet_natCast, h, Except.map]

/-- A record of the sheet holds the fields of one of its lines. -/
theorem exists_line_of_staticRecord {row : Int} {record : Record}
    (h : sheet.staticRecord row = .ok record) : ∃ line ∈ sheet.lines, record = fields line := by
  unfold staticRecord at h
  split at h
  · cases h
  · have hrecord := of_mapError_eq_ok h
    unfold Sheet.record at hrecord
    cases hline : signedGet sheet.lines row with
    | error cause =>
        rw [hline] at hrecord
        cases hrecord
    | ok line =>
        rw [hline] at hrecord
        exact ⟨line, mem_of_signedGet hline, (Except.ok.inj hrecord).symm⟩

/-- A row that the sheet does not have is after the last one; row zero is taken to be there. -/
theorem staticRecord_of_beyond {row : Nat} (hpos : 1 ≤ row) (h : sheet.lines[row]? = none) :
    sheet.staticRecord row = .error (.evaluation (.rowBeyond row sheet.lastRow) (row + 1)) := by
  have hrow : (sheet.lastRow : Int) < row := by
    have := List.getElem?_eq_none_iff.mp h
    simp only [lastRow]
    omega
  simp [staticRecord, hrow]

end Sheet

/-- The field of a record at a column counted from zero. -/
theorem Record.fieldAt_natCast (record : Record) (row line : Int) (column : Nat) :
    record.fieldAt ⟨row, column⟩ line =
      match record[column]? with
      | some field => .ok field
      | none => .error (.evaluation (.columnBeyond row record.length column) line) := by
  unfold Record.fieldAt
  by_cases h : column < record.length
  · have hle : ¬ (record.length : Int) ≤ column := by omega
    simp [hle, signedGet_natCast, h]
  · have hle : (record.length : Int) ≤ column := by omega
    simp [hle, List.getElem?_eq_none (Nat.not_lt.mp h)]

namespace Sheet

variable {sheet : Sheet} {cell : Cell} {text : Text}

/-- A missing cell is reported as such. -/
theorem missing_isPlain (h : cell.Addressable) : (sheet.missing cell).IsPlain := by
  obtain ⟨row, column, rfl, hpos⟩ := h.exists_natCast
  unfold missing
  cases hline : sheet.lines[row]? with
  | some line =>
      rw [staticRecord_of_line hline]
      trivial
  | none =>
      rw [staticRecord_of_beyond hpos hline]
      trivial

variable {evaluate : Cell → Text → Evaluation Text} {context : Context} {line : Int}

/-- A row with a snapshot answers from it. -/
theorem outcome_lookup_of_snapshot {record : Record}
    (h : context.snapshots.get? cell.row = some record) :
    (sheet.lookup evaluate cell line).outcome context = (record.fieldAt cell line, context) := by
  simp [lookup, Evaluation.outcome_bind, h]

/-- A cell of a row without a snapshot is evaluated. -/
theorem outcome_lookup_of_text (h : context.snapshots.get? cell.row = none)
    (htext : sheet.textAt? cell = some text) :
    (sheet.lookup evaluate cell line).outcome context = (evaluate cell text).outcome context := by
  obtain ⟨row, column, rfl⟩ := exists_natCast_of_textAt? htext
  rw [textAt?_natCast, Option.bind_eq_some_iff] at htext
  obtain ⟨content, hcontent, hfield⟩ := htext
  simp [lookup, Evaluation.outcome_bind, h, staticRecord_of_line hcontent,
    Record.fieldAt_natCast, hfield]

/-- A missing cell of a row without a snapshot is reported, if its row is not that of a header
which is taken to be there. -/
theorem outcome_lookup_of_missing_natCast {row column : Nat} {number : Int}
    (h : context.snapshots.get? row = none) (hpos : sheet.lines[row]? = none → 1 ≤ row)
    (htext : sheet.textAt? ⟨row, column⟩ = none) :
    (sheet.lookup evaluate ⟨row, column⟩ number).outcome context =
      (.error (sheet.missing ⟨row, column⟩), context) := by
  rw [textAt?_natCast] at htext
  cases hline : sheet.lines[row]? with
  | some content =>
      have hfield : (fields content)[column]? = none := by simpa [hline] using htext
      simp [lookup, Evaluation.outcome_bind, h, missing, staticRecord_of_line hline,
        Record.fieldAt_natCast, hfield]
  | none =>
      simp [lookup, Evaluation.outcome_bind, h, missing, staticRecord_of_beyond (hpos hline) hline]

/-- A missing cell that a formula can refer to, of a row without a snapshot, is reported. -/
theorem outcome_lookup_of_missing (h : context.snapshots.get? cell.row = none)
    (haddress : cell.Addressable) (htext : sheet.textAt? cell = none) :
    (sheet.lookup evaluate cell line).outcome context = (.error (sheet.missing cell), context) := by
  obtain ⟨row, column, rfl, hpos⟩ := haddress.exists_natCast
  exact outcome_lookup_of_missing_natCast h (fun _ => hpos) htext

end Sheet

end SheetCalc
