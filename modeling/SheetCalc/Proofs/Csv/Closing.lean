import SheetCalc.Export
import SheetCalc.Proofs.Csv.Failures

/-!
# Streams that are closed

Closing a stream makes one more flush, and this flush decides how closing ends. Main theorem:
`closed_iff_flushed`. After any steps, on a device where any write and any flush may fail, the
stream is closed if and only if the flush that closing makes does not fail; else it stays open, and the
failure is reported. `Evaluator.closed_writeTo_iff` says this of the whole way of a sheet into a
stream, which is closed in the same manner after a fault as without one.
-/

namespace SheetCalc

namespace Csv.Sink

variable {sink : Sink} {before after : Stream}

/-- A step does not close the stream. -/
theorem Performs.closed_eq {step : Step} {result : Except Fault Unit}
    (h : sink.Performs before step result after) : after.closed = before.closed := by
  cases h <;> rfl

/-- Steps leave the stream open. -/
theorem closed_streamAfter (sink : Sink) (steps : List Step) :
    (sink.streamAfter steps).closed = false := by
  induction steps using List.reverseRecOn with
  | nil => rfl
  | append_singleton steps step ih =>
      rw [streamAfter_append_singleton]
      exact (sink.performs_perform _ step).closed_eq.trans ih

/-- Rows that are written do not close the stream, also when the writing ends with a fault. -/
theorem closed_writeRows (sink : Sink) (rows : List (Nat × Record)) (stream : Stream) :
    ((sink.writeRows rows).outcome stream).2.closed = stream.closed := by
  induction rows generalizing stream with
  | nil => rfl
  | cons entry rows ih =>
      obtain ⟨row, record⟩ := entry
      have hwrite : ((sink.write record row).outcome stream).2.closed = stream.closed :=
        (sink.performs_perform stream (.write record row)).closed_eq
      rw [writeRows, Writing.outcome_bind]
      cases hresult : (sink.write record row).outcome stream with
      | mk result written =>
          rw [hresult] at hwrite
          cases result with
          | error fault => exact hwrite
          | ok _ => exact (ih written).trans hwrite

/-- All that closing can do to a stream, and the result with which it does it. -/
inductive Closes (sink : Sink) (before : Stream) : Except Fault Unit → Stream → Prop
  | notFlushed (hflush : sink.device.flushFails (before.flushes + 1) = true) :
      sink.Closes before (.error (.evaluation (.notFlushed sink.device.flushReason) 0))
        { before with flushes := before.flushes + 1 }
  | closed (hflush : sink.device.flushFails (before.flushes + 1) = false) :
      sink.Closes before (.ok ())
        { before with
          flushes := before.flushes + 1, flushed := before.text.length, closed := true }

/-- Closing does one of these things. -/
theorem closes_close (sink : Sink) (before : Stream) :
    sink.Closes before (sink.close.outcome before).1 (sink.close.outcome before).2 := by
  rw [outcome_close, outcome_flush]
  cases hflush : sink.device.flushFails (before.flushes + 1) with
  | true => exact .notFlushed hflush
  | false => exact .closed hflush

namespace Closes

variable {result : Except Fault Unit} (h : sink.Closes before result after)
include h

/-- Closing writes nothing, and flushes once. -/
theorem flushes_eq : after.text = before.text ∧ after.writes = before.writes ∧
    after.flushes = before.flushes + 1 := by
  cases h <;> exact ⟨rfl, rfl, rfl⟩

/-- An open stream is closed when the last flush does not fail. -/
theorem closed_iff (hopen : before.closed = false) :
    after.closed = true ↔ sink.device.flushFails after.flushes = false := by
  cases h with
  | notFlushed hflush => simp [hopen, hflush]
  | closed hflush => simp [hflush]

/-- Closing is reported when the last flush fails. -/
theorem reports_iff : result = .error (.evaluation (.notFlushed sink.device.flushReason) 0) ↔
    sink.device.flushFails after.flushes = true := by
  cases h with
  | notFlushed hflush => simp [hflush]
  | closed hflush => simp [hflush]

/-- Closing succeeds when the last flush does not fail. -/
theorem succeeds_iff : result = .ok () ↔ sink.device.flushFails after.flushes = false := by
  cases h with
  | notFlushed hflush => simp [hflush]
  | closed hflush => simp [hflush]

/-- A stream that was closed has in its file all that was written to it. -/
theorem content_eq (hopen : before.closed = false) (hclosed : after.closed = true) :
    after.content = before.text := by
  cases h with
  | notFlushed => cases hopen.symm.trans hclosed
  | closed => exact List.take_length

end Closes

/-- How closing ends. After every sequence of writes and flushes, of which any may have failed, the
stream is open. Closing it makes one flush and no write. The stream is closed afterwards if and only
if this flush does not fail. Closing ends with a reported fault if and only if this flush fails, and
without a fault otherwise. -/
theorem closed_iff_flushed (sink : Sink) (steps : List Step) :
    let before := sink.streamAfter steps
    let result := (sink.close.outcome before).1
    let after := (sink.close.outcome before).2
    before.closed = false ∧
    (after.text = before.text ∧ after.writes = before.writes ∧
      after.flushes = before.flushes + 1) ∧
    (after.closed = true ↔ sink.device.flushFails after.flushes = false) ∧
    (result = .error (.evaluation (.notFlushed sink.device.flushReason) 0) ↔
      sink.device.flushFails after.flushes = true) ∧
    (result = .ok () ↔ sink.device.flushFails after.flushes = false) := by
  intro before result after
  have hopen : before.closed = false := sink.closed_streamAfter steps
  have hcloses : sink.Closes before result after := sink.closes_close before
  exact ⟨hopen, hcloses.flushes_eq, hcloses.closed_iff hopen, hcloses.reports_iff,
    hcloses.succeeds_iff⟩

/-- A stream is not always closed: it stays open when the flush of its closing is refused. -/
theorem open_after_refused_flush :
    ¬ ∀ (sink : Sink) (steps : List Step),
      (sink.close.outcome (sink.streamAfter steps)).2.closed = true := by
  intro hall
  let refusing : Sink := ⟨⟨fun _ => false, (· == 1), "disk full", "flush refused"⟩, 100⟩
  have hclosed := hall refusing [.write ["a".toList] 1]
  exact absurd hclosed (by decide)

end Csv.Sink

open Csv

namespace Evaluator

/-- A sheet is written with its rows first and the closing of the stream after them. A fault of the
closing is what is reported; without one it is a fault of the writing, or that of the pass. -/
theorem writeTo_closes (evaluator : Evaluator) (sink : Sink) (stream : Stream) :
    let written := (sink.writeRows (evaluator.pass .fresh).rows).outcome stream
    let ended := evaluator.writeTo sink stream
    ended.2 = (sink.close.outcome written.2).2 ∧
    (∀ fault, (sink.close.outcome written.2).1 = .error fault → ended.1 = some fault) ∧
    ((sink.close.outcome written.2).1 = .ok () → written.1 = .ok () →
      ended.1 = (evaluator.pass .fresh).fault) := by
  dsimp only [writeTo]
  split
  · next hclose =>
    rw [hclose]
    exact ⟨rfl, fun fault h => congrArg some (Except.error.inj h), nofun⟩
  · next hclose =>
    rw [hclose]
    refine ⟨rfl, nofun, fun _ hwritten => ?_⟩
    simp only [hwritten]

/-- A sheet is written to a stream, which is closed at the end, whether or not the pass or a write
had a fault. The stream is closed afterwards if and only if the last flush did not fail; a last flush
that failed is what is reported, in place of an earlier fault. -/
theorem closed_writeTo_iff (evaluator : Evaluator) (sink : Sink) :
    let ended := evaluator.writeTo sink .fresh
    (ended.2.closed = true ↔ sink.device.flushFails ended.2.flushes = false) ∧
    (sink.device.flushFails ended.2.flushes = true →
      ended.1 = some (.evaluation (.notFlushed sink.device.flushReason) 0)) := by
  intro ended
  let written := ((sink.writeRows (evaluator.pass .fresh).rows).outcome .fresh).2
  have hopen : written.closed = false := sink.closed_writeRows _ .fresh
  have hcloses := sink.closes_close written
  obtain ⟨hstream, hreported, -⟩ := evaluator.writeTo_closes sink .fresh
  rw [show ended.2 = (sink.close.outcome written).2 from hstream]
  exact ⟨hcloses.closed_iff hopen, fun hfails => hreported _ (hcloses.reports_iff.mpr hfails)⟩

/-- When a sheet was written to a stream that is closed afterwards, what its rows wrote is in the
file. -/
theorem content_writeTo {evaluator : Evaluator} {sink : Sink}
    (hclosed : (evaluator.writeTo sink .fresh).2.closed = true) :
    (evaluator.writeTo sink .fresh).2.content =
      ((sink.writeRows (evaluator.pass .fresh).rows).outcome .fresh).2.text := by
  obtain ⟨hstream, -, -⟩ := evaluator.writeTo_closes sink .fresh
  rw [hstream] at hclosed ⊢
  exact (sink.closes_close _).content_eq (sink.closed_writeRows _ .fresh) hclosed

end Evaluator

end SheetCalc
