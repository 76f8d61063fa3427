import SheetCalc.Proofs.Files.Export
import SheetCalc.Table

/-!
# Tables and exported sheets

The records of a pass go into a table or into a file. Main theorem: `ofSheet_shows_exported`. The
table of a sheet fails exactly when the export of the sheet ends with a fault of the pass, with the
same fault; otherwise the table shows the records that are in the file. `Shows` says what this means
for records of different lengths: the table is as wide as the longest one, and an entry is missing
exactly where its record has no field.
-/

namespace SheetCalc

namespace Table

variable {table : Table} {header record : Record} {rest : List Record} {row column width : Nat}

/-- The entry of a table in a row and a column: no entry outside the table, and an entry that holds
nothing where a field is missing. -/
def at? (table : Table) (row column : Nat) : Option (Option Text) :=
  table.rows[row]?.bind (·[column]?)

/-- A table shows a header and the records after it. -/
structure IsHeadedBy (table : Table) (header : Record) (rest : List Record) : Prop where
  /-- There are as many columns as the longest record has fields. -/
  width : ((header :: rest).map List.length).max? = some table.columns.length
  /-- The header names the first columns. -/
  named : ∀ column < header.length, table.columns[column]? = header[column]?
  /-- The columns behind the header are named by their number. -/
  numbered : ∀ column, header.length ≤ column → column < table.columns.length →
    table.columns[column]? = some (columnName column)
  /-- There are as many rows as records after the header. -/
  height : table.rows.length = rest.length
  /-- An entry holds the field of its record, and nothing where the record has no field. -/
  entries : ∀ row record, rest[row]? = some record → ∀ column < table.columns.length,
    table.at? row column = some record[column]?
  /-- There are no entries outside the columns. -/
  bounded : ∀ row column, table.columns.length ≤ column → table.at? row column = none

/-- A table shows records, of which the first is the header. Without records it has no columns and
no rows. -/
def Shows (table : Table) : List Record → Prop
  | [] => table.columns = [] ∧ table.rows = []
  | header :: rest => table.IsHeadedBy header rest

/-- The width of a table is the length of the longest record. -/
theorem max?_lengths (header : Record) (rest : List Record) :
    ((header :: rest).map List.length).max? = some (widthOf (header :: rest)) := by
  rw [List.map_cons, List.max?_cons', List.foldl_map, widthOf, List.foldl_cons, Nat.zero_max]

/-- No record is longer than the table is wide. -/
theorem length_le_widthOf {records : List Record} (h : record ∈ records) :
    record.length ≤ widthOf records := by
  cases records with
  | nil => cases h
  | cons header rest =>
      exact (List.max?_eq_some_iff.mp (max?_lengths header rest)).2 _ (List.mem_map_of_mem h)

/-- The columns of a table that is as wide as its header or wider. -/
theorem length_columnsOf (h : header.length ≤ width) : (columnsOf header width).length = width := by
  rw [columnsOf, List.length_append, List.length_map, List.length_range']
  omega

/-- The header names the first columns. -/
theorem getElem?_columnsOf_of_lt (h : column < header.length) :
    (columnsOf header width)[column]? = header[column]? :=
  List.getElem?_append_left h

/-- The columns behind the header are named by their number. -/
theorem getElem?_columnsOf_of_le (h : header.length ≤ column) (hcolumn : column < width) :
    (columnsOf header width)[column]? = some (columnName column) := by
  have hnumber : header.length + 1 * (column - header.length) = column := by omega
  rw [columnsOf, List.getElem?_append_right h, List.getElem?_map,
    List.getElem?_range' (by omega), hnumber]
  rfl

/-- A row has as many entries as the table has columns. -/
theorem length_rowOf (h : record.length ≤ width) : (rowOf width record).length = width := by
  rw [rowOf, List.length_append, List.length_map, List.length_replicate]
  omega

/-- An entry of a row holds the field of the record, and nothing behind the record. -/
theorem getElem?_rowOf (hcolumn : column < width) :
    (rowOf width record)[column]? = some record[column]? := by
  have hmap : (record.map some).length = record.length := List.length_map _
  rw [rowOf]
  by_cases h : column < record.length
  · rw [List.getElem?_append_left (hmap ▸ h), List.getElem?_map, List.getElem?_eq_getElem h]
    rfl
  · have hfilled : column - record.length < width - record.length := by omega
    rw [List.getElem?_append_right (hmap ▸ Nat.le_of_not_lt h), hmap,
      List.getElem?_replicate_of_lt hfilled, List.getElem?_eq_none (Nat.le_of_not_lt h)]

/-- The table of a header and records shows them. -/
theorem isHeadedBy_ofRecords (header : Record) (rest : List Record) :
    (ofRecords (header :: rest)).IsHeadedBy header rest := by
  let records := header :: rest
  have hheader : header.length ≤ widthOf records := length_le_widthOf List.mem_cons_self
  have hwidth : (ofRecords records).columns.length = widthOf records := length_columnsOf hheader
  have hrow (row : Nat) : (ofRecords records).rows[row]? = rest[row]?.map (rowOf (widthOf records)) :=
    List.getElem?_map
  refine ⟨?_, ?_, ?_, List.length_map _, ?_, ?_⟩
  · rw [hwidth]
    exact max?_lengths header rest
  · exact fun column hcolumn => getElem?_columnsOf_of_lt hcolumn
  · exact fun column hbehind hcolumn => getElem?_columnsOf_of_le hbehind (hwidth ▸ hcolumn)
  · intro row record hrecord column hcolumn
    rw [at?, hrow, hrecord]
    exact getElem?_rowOf (hwidth ▸ hcolumn)
  · intro row column hcolumn
    rw [at?, hrow]
    cases hrecord : rest[row]? with
    | none => rfl
    | some record =>
        have hmem : record ∈ records := List.mem_cons_of_mem _ (List.mem_of_getElem? hrecord)
        have hlength : (rowOf (widthOf records) record).length ≤ column :=
          (length_rowOf (length_le_widthOf hmem)).symm ▸ hwidth ▸ hcolumn
        exact List.getElem?_eq_none hlength

/-- The table of records shows them. -/
theorem shows_ofRecords (records : List Record) : (ofRecords records).Shows records := by
  cases records with
  | nil => exact ⟨rfl, rfl⟩
  | cons header rest => exact isHeadedBy_ofRecords header rest

/-- A table and a file hold the same data. For every sheet and every name under which a file can be
written, the file holds after the export the encodings of the records that the pass yields. The table
of the sheet fails exactly when the export ends with a fault, and with the same fault. Otherwise it
shows these records. -/
theorem ofSheet_shows_exported {tree : FileTree} {name : Text} {location : Location}
    (hopened : tree.writable name = .ok location) (sheet : Sheet) (flushEvery : Int) :
    let exported := (Evaluator.ofSheet sheet true).exportTo flushEvery tree name
    let records := ((Evaluator.ofSheet sheet true).pass .fresh).rows.map Prod.snd
    exported.2.read name = .ok (Utf8.encode (Csv.encode records)) ∧
    (∀ fault, ofSheet sheet = .error fault ↔ exported.1 = some fault) ∧
    (exported.1 = none → ∃ table, ofSheet sheet = .ok table ∧ table.Shows records) := by
  intro exported records
  have hexported : exported = (((Evaluator.ofSheet sheet true).pass .fresh).fault,
      tree.put location (.file (Utf8.encode (Csv.encode records)))) :=
    Evaluator.exportTo_of_writable _ hopened flushEvery
  rw [hexported]
  refine ⟨FileTree.read_put hopened _, ?_⟩
  rw [ofSheet]
  cases ((Evaluator.ofSheet sheet true).pass .fresh).fault with
  | some fault => exact ⟨fun other => by simp, nofun⟩
  | none => exact ⟨fun fault => by simp, fun _ => ⟨_, rfl, shows_ofRecords records⟩⟩

/-- A sheet with a row that is shorter than the header, an empty line, and a row that is longer. -/
def ragged : Sheet :=
  ⟨["a,b".toList, "=sum(1;2)".toList, [], "2,3,4".toList]⟩

/-- The table of `ragged` has three columns, the last one without a name of its own, and two rows,
the first one with two entries that hold nothing. -/
theorem ofSheet_shows_exported_ragged :
    Evaluator.emptyHome.writable "out.csv".toList = .ok ["home".toList, "out.csv".toList] ∧
    ∃ table, ofSheet ragged = .ok table ∧ table.shape = (2, 3) ∧
      table.columns[2]? = some "column_2".toList ∧
      table.at? 0 0 = some (some "3".toList) ∧ table.at? 0 2 = some none ∧
      table.at? 1 2 = some (some "4".toList) := by
  have hopened : Evaluator.emptyHome.writable "out.csv".toList =
      .ok ["home".toList, "out.csv".toList] := by cbv
  have hfault : ((Evaluator.ofSheet ragged true).pass .fresh).fault = none := by cbv
  have hrecords : ((Evaluator.ofSheet ragged true).pass .fresh).rows.map Prod.snd =
      [["a".toList, "b".toList], ["3".toList], ["2".toList, "3".toList, "4".toList]] := by cbv
  obtain ⟨-, -, hshows⟩ := ofSheet_shows_exported hopened ragged 100
  rw [Evaluator.exportTo_of_writable _ hopened, hfault, hrecords] at hshows
  obtain ⟨table, htable, hheaded⟩ := hshows rfl
  have hwidth : table.columns.length = 3 := (Option.some.inj hheaded.width).symm
  refine ⟨hopened, table, htable, Prod.ext hheaded.height hwidth, ?_, ?_, ?_, ?_⟩
  · exact hheaded.numbered 2 (by decide) (by omega)
  · exact hheaded.entries 0 _ rfl 0 (by omega)
  · exact hheaded.entries 0 _ rfl 2 (by omega)
  · exact hheaded.entries 1 _ rfl 2 (by omega)

end Table

end SheetCalc
