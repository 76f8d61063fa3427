import SheetCalc.SignedIndex
import SheetCalc.Text.Blank

/-!
# Sheets

A sheet is a list of lines; a line is a record of fields between commas. Line zero is
the header, so the row of a reference is the index of its line. Records are read with
their fields trimmed; the raw fields keep their blanks.
-/

namespace SheetCalc

/-- The fields of one line. -/
abbrev Record := List Text

/-- A sheet: its lines, without their ends. -/
structure Sheet where
  lines : List Text
  deriving DecidableEq

namespace Sheet

/-- A line without the carriage return at its end. -/
def dropReturn (line : Text) : Text :=
  if line.getLast? = some '\r' then line.dropLast else line

/-- The lines of a text. What follows the last line end is a line unless it is empty. -/
def linesOf (text : Text) : List Text :=
  let lines := text.splitOn '\n'
  (if lines.getLast? = some [] then lines.dropLast else lines).map dropReturn

/-- The sheet that a text holds. -/
def ofText (text : Text) : Sheet :=
  ⟨linesOf text⟩

/-- The index of the last row; a sheet without lines is taken to have a header. -/
def lastRow (sheet : Sheet) : Nat :=
  sheet.lines.length - 1

/-- The fields of a line with their blanks. -/
def rawFields (line : Text) : Record :=
  line.splitOn ','

/-- The fields of a line, trimmed. -/
def fields (line : Text) : Record :=
  (rawFields line).map Text.trim

/-- The trimmed record at a signed row. -/
def record (sheet : Sheet) (row : Int) : Except OutOfRange Record :=
  (signedGet sheet.lines row).map fields

/-- The record at a signed row with its blanks. -/
def untrimmedRecord (sheet : Sheet) (row : Int) : Except OutOfRange Record :=
  (signedGet sheet.lines row).map rawFields

/-- The number of cells of a sheet. -/
def cellCount (sheet : Sheet) : Nat :=
  (sheet.lines.flatMap rawFields).length

end Sheet

end SheetCalc
