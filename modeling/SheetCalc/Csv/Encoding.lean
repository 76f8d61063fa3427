import SheetCalc.Sheet

/-!
# Written records

A record is written as its fields between commas, with a line end after it. A field is
quoted only where it has to be: when it holds a comma, a quote or a line end, or when
it is empty and the only one, since an empty line stands for the empty record. Inside
quotes a quote is written twice.
-/

namespace SheetCalc.Csv

/-- A field that is written in quotes. A carriage return alone is no line end of a record, and
stands as it is. -/
def needsQuotes (field : Text) : Bool :=
  field.any fun c => c = ',' || c = '"' || c = '\n'

/-- A text with every quote written twice. -/
def doubleQuotes (text : Text) : Text :=
  text.flatMap fun c => if c = '"' then ['"', '"'] else [c]

/-- A text in quotes. -/
def quote (text : Text) : Text :=
  '"' :: doubleQuotes text ++ ['"']

/-- A field as it is written beside others. -/
def encodeField (field : Text) : Text :=
  if needsQuotes field then quote field else field

/-- A record as it is written, with its line end. -/
def encodeRecord (record : Record) : Text :=
  (if record = [[]] then quote [] else [','].intercalate (record.map encodeField)) ++ ['\n']

/-- Records as they are written one after another. -/
def encode (records : List Record) : Text :=
  records.flatMap encodeRecord

end SheetCalc.Csv
