import SheetCalc.Csv.Encoding
import SheetCalc.Fault

/-!
# Writing records to a stream

A sink writes records to a stream, each with one write, and flushes the stream at every
row whose number is a multiple of `flushEvery`. Any write and any flush can fail. A
failed write leaves the stream as it was, and a record that was written stays written
when the flush after it fails. Closing flushes once more, and closes only a stream
that could be flushed.
-/

namespace SheetCalc.Csv

/-- Which writes and flushes of a stream fail, counted from one, and what is reported. -/
structure Device where
  writeFails : Nat → Bool
  flushFails : Nat → Bool
  writeReason : String
  flushReason : String

/-- A device on which nothing fails. -/
def Device.reliable : Device :=
  ⟨fun _ => false, fun _ => false, "", ""⟩

/-- The state of a stream: everything written, the number of characters flushed, the number
of writes and flushes, the failed ones included, and whether it is closed. -/
structure Stream where
  text : Text
  flushed : Nat
  writes : Nat
  flushes : Nat
  closed : Bool
  deriving DecidableEq

/-- A stream to which nothing was written. -/
def Stream.fresh : Stream :=
  ⟨[], 0, 0, 0, false⟩

/-- What is in the file: the characters that were flushed. -/
def Stream.content (stream : Stream) : Text :=
  stream.text.take stream.flushed

/-- An action on a stream, which ends with a result or a fault. -/
abbrev Writing (α : Type) :=
  ExceptT Fault (StateM Stream) α

/-- The outcome of an action on a stream, and the stream afterwards. -/
def Writing.outcome {α : Type} (writing : Writing α) (stream : Stream) :
    Except Fault α × Stream :=
  (ExceptT.run writing).run stream

/-- A device and the number of rows between two flushes; there are no flushes between rows
unless it is positive. -/
structure Sink where
  device : Device
  flushEvery : Int

namespace Sink

/-- Flushes the stream; a failure is reported with `line`. -/
def flush (sink : Sink) (line : Int) : Writing Unit := do
  let attempt := (← get).flushes + 1
  modify fun stream => { stream with flushes := attempt }
  if sink.device.flushFails attempt then
    throw (.evaluation (.notFlushed sink.device.flushReason) line)
  modify fun stream => { stream with flushed := stream.text.length }

/-- A row after which the stream is flushed. -/
def flushesAt (sink : Sink) (row : Int) : Bool :=
  0 < sink.flushEvery && row % sink.flushEvery == 0

/-- Writes the record of a row. -/
def write (sink : Sink) (record : Record) (row : Int) : Writing Unit := do
  let attempt := (← get).writes + 1
  modify fun stream => { stream with writes := attempt }
  if sink.device.writeFails attempt then
    throw (.evaluation (.notWritten sink.device.writeReason) (row + 1))
  modify fun stream => { stream with text := stream.text ++ encodeRecord record }
  if sink.flushesAt row then sink.flush (row + 1)

/-- Writes rows one after another, up to the first fault. -/
def writeRows (sink : Sink) : List (Nat × Record) → Writing Unit
  | [] => pure ()
  | (row, record) :: rows => do
    sink.write record row
    sink.writeRows rows

/-- Flushes the stream and closes it. -/
def close (sink : Sink) : Writing Unit := do
  sink.flush 0
  modify fun stream => { stream with closed := true }

end Sink

end SheetCalc.Csv
