import SheetCalc.Builtin.Call
import SheetCalc.Column
import SheetCalc.Files.Tree
import SheetCalc.Formula.Reference
import SheetCalc.SignedIndex

/-!
# Faults

Everything that can stop the evaluation of a sheet. Most faults are reported with the
line of the cell that caused them; the others say that the machinery itself met a
column without a name, an index without an entry, an integer with too many digits, or
an evaluation without an end.
-/

namespace SheetCalc

/-- Why a cell has no value, or a sheet cannot be read or written. -/
inductive EvaluationError where
  /-- The input file cannot be read. -/
  | unreadable (reason : String)
  /-- A row after the last one. -/
  | rowBeyond (row : Int) (rows : Nat)
  /-- A column after the last one of a record. -/
  | columnBeyond (row : Int) (width : Nat) (column : Int)
  /-- A column to be edited after the last one of a record. -/
  | editBeyond (row : Int) (width : Nat) (column : Int)
  /-- A reference whose column is no label. -/
  | invalidColumn (column reference : Text)
  /-- A builtin function that has no result. -/
  | builtin (cause : CallError)
  /-- A function that there is not, and a builtin function of a similar name. -/
  | unknownFunction (name : Text) (suggestion : Option Text)
  /-- The output file cannot be opened. -/
  | notOpened (reason : String)
  /-- A record was not written. -/
  | notWritten (reason : String)
  /-- The records written so far were not flushed. -/
  | notFlushed (reason : String)
  deriving DecidableEq

/-- The wording of an evaluation error. Columns to be edited are counted from one. -/
def EvaluationError.message : EvaluationError → String
  | .unreadable reason => "IO error: Cannot read the input file `" ++ reason ++ "`"
  | .rowBeyond row rows =>
    "Invalid row number " ++ toString row ++ ", the rows is " ++ toString rows
  | .columnBeyond row width column =>
    "CSV error: Record " ++ toString row ++ " has only " ++ toString width ++
      " columns, cannot get column " ++ toString column
  | .editBeyond row width column =>
    "CSV error: Record " ++ toString row ++ " has only " ++ toString width ++
      " columns, cannot update column " ++ toString (column + 1)
  | .invalidColumn column reference =>
    "Invalid column `" ++ String.ofList column ++ "` in field `" ++ String.ofList reference ++ "`"
  | .builtin cause => "Builtin function error: " ++ cause.message
  | .unknownFunction name none => "Unknown function " ++ String.ofList name
  | .unknownFunction name (some suggestion) =>
    "Unknown function " ++ String.ofList name ++ ", did you mean `" ++
      String.ofList suggestion ++ "`?"
  | .notOpened reason => "Write CSV file error `" ++ reason ++ "`"
  | .notWritten reason => "Write CSV record error `" ++ reason ++ "`"
  | .notFlushed reason => "Flush CSV file error `" ++ reason ++ "`"

/-- What stops an evaluation. -/
inductive Fault where
  /-- The text of a formula is no list of tokens. -/
  | lexical (cause : LexicalError) (line : Int)
  /-- The tokens of a formula are no call. -/
  | grammar (cause : GrammarError) (line : Int)
  /-- A cell has no value. -/
  | evaluation (cause : EvaluationError) (line : Int)
  /-- A cell needs its own value, through the cells of the path in turn. -/
  | cycle (path : List Text) (line : Int)
  /-- A column has no name. -/
  | column (cause : ColumnError)
  /-- A list has no entry at an index. -/
  | outOfRange (cause : OutOfRange)
  /-- A file name cannot be used. -/
  | access (error : AccessError)
  /-- An integer has too many digits to be read or written. -/
  | conversion (cause : DigitLimit)
  /-- The evaluation does not end. -/
  | endless
  deriving DecidableEq

/-- A message with the kind of its fault in front and its line behind. -/
def reported (kind message : String) (line : Int) : String :=
  kind ++ "Error: \"" ++ message ++ "\" at line: " ++ toString line

/-- A result is no fault of any kind. -/
@[simp]
theorem mapError_ok {ε δ α : Type} (kind : ε → δ) (result : α) :
    (Except.ok result).mapError kind = .ok result :=
  rfl

/-- A cause becomes a fault of a kind. -/
@[simp]
theorem mapError_error {ε δ α : Type} (kind : ε → δ) (cause : ε) :
    (Except.error cause : Except ε α).mapError kind = .error (kind cause) :=
  rfl

/-- A result after the cause became a fault is the same result before. -/
theorem of_mapError_eq_ok {ε δ α : Type} {kind : ε → δ} {first : Except ε α} {result : α}
    (h : first.mapError kind = .ok result) : first = .ok result := by
  cases first with
  | error cause => cases h
  | ok other => exact congrArg Except.ok (Except.ok.inj h)

/-- The wording of a fault. -/
def Fault.message : Fault → String
  | .lexical cause line => reported "Tokenizer" cause.message line
  | .grammar cause line => reported "Parse" cause.message line
  | .evaluation cause line => reported "Engine" cause.message line
  | .cycle path line =>
    reported "Engine"
      ("Circular reference detected: " ++ String.ofList (Text.join " -> " path)) line
  | .column cause => cause.message
  | .outOfRange cause => cause.message
  | .access error => error.message
  | .conversion cause => cause.message
  | .endless => ""

/-- The fault is one that a formula, a file or a circular reference is to blame for, and is
reported with a line. -/
def Fault.isReported : Fault → Bool
  | .lexical .. | .grammar .. | .evaluation .. | .cycle .. => true
  | .column _ | .outOfRange _ | .access _ | .conversion _ | .endless => false

/-- The line that a fault is reported with. -/
def Fault.line? : Fault → Option Int
  | .lexical _ line | .grammar _ line | .evaluation _ line | .cycle _ line => some line
  | .column _ | .outOfRange _ | .access _ | .conversion _ | .endless => none

/-- The message that a fault is reported with, or the fault that comes in its place: a fault that is
not reported stays, and a line with too many digits is not written. -/
def Fault.report (fault : Fault) : Except Fault String :=
  match fault.line? with
  | none => .error fault
  | some line =>
    match Text.writeInt line with
    | .ok _ => .ok fault.message
    | .error cause => .error (.conversion cause)

/-- The fault of tokens that are not parsed. That they are no formula is reported with `line`. -/
def ParseFailure.fault (line : Int) : ParseFailure → Fault
  | .grammar cause => .grammar cause line
  | .conversion cause => .conversion cause

end SheetCalc
