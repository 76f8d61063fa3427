import SheetCalc.Evaluation.Pass

/-!
# Tables

An evaluated sheet as a table: the first record names the columns, and the records
after it are the rows. The table is as wide as the longest record; columns beyond the
header are named by their number, and rows are filled up with missing entries.
-/

namespace SheetCalc

/-- Named columns, and rows with one entry or none for each of them. -/
structure Table where
  columns : List Text
  rows : List (List (Option Text))
  deriving DecidableEq

namespace Table

/-- The numbers of rows and columns. -/
def shape (table : Table) : Nat × Nat :=
  (table.rows.length, table.columns.length)

/-- A table without rows or without columns. -/
def isEmpty (table : Table) : Bool :=
  table.rows.length = 0 || table.columns.length = 0

/-- The name of a column beyond the header. -/
def columnName (index : Nat) : Text :=
  "column_".toList ++ Text.ofNat index

/-- The names of `width` columns, of which the header names the first. -/
def columnsOf (header : Record) (width : Nat) : List Text :=
  header ++ (List.range' header.length (width - header.length)).map columnName

/-- A record as a row of `width` entries. -/
def rowOf (width : Nat) (record : Record) : List (Option Text) :=
  record.map some ++ List.replicate (width - record.length) none

/-- The number of fields of the longest record. -/
def widthOf (records : List Record) : Nat :=
  records.foldl (fun width record => max width record.length) 0

/-- The table of records, the first of which is the header. -/
def ofRecords (records : List Record) : Table :=
  match records with
  | [] => ⟨[], []⟩
  | header :: rest =>
    ⟨columnsOf header (widthOf records), rest.map (rowOf (widthOf records))⟩

/-- The table of an evaluated sheet. -/
def ofSheet (sheet : Sheet) : Except Fault Table :=
  let pass := (Evaluator.ofSheet sheet true).pass .fresh
  match pass.fault with
  | some fault => .error fault
  | none => .ok (ofRecords (pass.rows.map Prod.snd))

end Table

end SheetCalc
