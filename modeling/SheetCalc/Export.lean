import SheetCalc.Csv.Sink
import SheetCalc.Evaluation.Pass
import SheetCalc.Files.Path

/-!
# Sheets in files

A sheet is read from a file, and its evaluated records are written to a file while the
pass goes on. The records that were yielded before a fault stay in the file, since the
stream is flushed and closed at any end.
-/

namespace SheetCalc

/-- The fault of an input file that cannot be read. -/
def AccessError.readFault (error : AccessError) : Fault :=
  if error.reason = .nullCharacter then .access error
  else .evaluation (.unreadable error.message) 0

/-- The fault of an output file that cannot be opened. -/
def AccessError.writeFault (error : AccessError) : Fault :=
  if error.reason = .nullCharacter then .access error
  else .evaluation (.notOpened error.message) 0

/-- The sheet in a file. Every line end counts as `\n`. -/
def Sheet.read (tree : FileTree) (path : Path) : Except Fault Sheet :=
  match tree.read path.text with
  | .error error => .error error.readFault
  | .ok content =>
    match Utf8.decode content with
    | .error error => .error (.evaluation (.unreadable error.message) 0)
    | .ok text => .ok (.ofText (Text.unifyLineEnds text))

namespace Evaluator

/-- Writes the rows of a pass over the sheet to a stream and closes it. Gives the fault that
ended the writing, and the stream. -/
def writeTo (evaluator : Evaluator) (sink : Csv.Sink) (stream : Csv.Stream) :
    Option Fault × Csv.Stream :=
  let pass := evaluator.pass .fresh
  let (written, stream) := (sink.writeRows pass.rows).outcome stream
  let fault :=
    match written with
    | .error fault => some fault
    | .ok _ => pass.fault
  match sink.close.outcome stream with
  | (.error fault, stream) => (some fault, stream)
  | (.ok _, stream) => (fault, stream)

/-- Writes the rows of a pass over the sheet to the file with this name. Gives the fault that
ended the writing, and the tree afterwards. -/
def exportTo (evaluator : Evaluator) (flushEvery : Int) (tree : FileTree) (name : Text) :
    Option Fault × FileTree :=
  match tree.writable name with
  | .error error => (some error.writeFault, tree)
  | .ok location =>
    let (fault, stream) := evaluator.writeTo ⟨.reliable, flushEvery⟩ .fresh
    (fault, tree.put location (.file (Utf8.encode stream.content)))

end Evaluator

end SheetCalc
