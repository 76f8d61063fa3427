import SheetCalc.Csv.Sink

/-!
# Actions on a stream

Each action of a sink has an equation for its outcome, on any device. On a device where nothing
fails, writing appends the encoding of a record and has no fault, whatever the rows after which the
stream is flushed: `appends_writeRows` says so for any number of records.
-/

namespace SheetCalc.Csv

namespace Writing

variable {α : Type}

@[simp]
theorem outcome_pure (result : α) (stream : Stream) :
    outcome (pure result) stream = (.ok result, stream) :=
  rfl

@[simp]
theorem outcome_throw (fault : Fault) (stream : Stream) :
    outcome (throw fault : Writing α) stream = (.error fault, stream) :=
  rfl

@[simp]
theorem outcome_get (stream : Stream) :
    outcome (get : Writing Stream) stream = (.ok stream, stream) :=
  rfl

@[simp]
theorem outcome_modify (change : Stream → Stream) (stream : Stream) :
    outcome (modify change : Writing PUnit) stream = (.ok (), change stream) :=
  rfl

/-- The second of two actions starts on the stream that the first one left, and does not start
after a fault. -/
theorem outcome_bind {β : Type} (first : Writing α) (second : α → Writing β) (stream : Stream) :
    outcome (first >>= second) stream =
      match outcome first stream with
      | (.ok result, after) => outcome (second result) after
      | (.error fault, after) => (.error fault, after) := by
  simp only [outcome, ExceptT.run_bind, StateT.run_bind]
  cases (first.run).run stream with
  | mk result after => cases result <;> rfl

end Writing

namespace Sink

open Writing

variable (sink : Sink) (stream : Stream)

/-- A flush is counted; one that does not fail flushes everything. -/
theorem outcome_flush (line : Int) :
    (sink.flush line).outcome stream =
      if sink.device.flushFails (stream.flushes + 1) then
        (.error (.evaluation (.notFlushed sink.device.flushReason) line),
          { stream with flushes := stream.flushes + 1 })
      else
        (.ok (), { stream with flushes := stream.flushes + 1, flushed := stream.text.length }) := by
  unfold flush
  by_cases h : sink.device.flushFails (stream.flushes + 1) <;> simp [outcome_bind, h]

/-- A write is counted; one that does not fail appends its record, and may flush the stream. -/
theorem outcome_write (record : Record) (row : Int) :
    (sink.write record row).outcome stream =
      if sink.device.writeFails (stream.writes + 1) then
        (.error (.evaluation (.notWritten sink.device.writeReason) (row + 1)),
          { stream with writes := stream.writes + 1 })
      else
        let written : Stream :=
          { stream with writes := stream.writes + 1, text := stream.text ++ encodeRecord record }
        if sink.flushesAt row then (sink.flush (row + 1)).outcome written else (.ok (), written) := by
  unfold write
  by_cases h : sink.device.writeFails (stream.writes + 1)
  · simp [outcome_bind, h]
  · by_cases hflushes : sink.flushesAt row <;> simp [outcome_bind, h, hflushes]

/-- A stream is closed when its last flush does not fail. -/
theorem outcome_close :
    sink.close.outcome stream =
      match (sink.flush 0).outcome stream with
      | (.ok _, after) => (.ok (), { after with closed := true })
      | (.error fault, after) => (.error fault, after) := by
  rw [close, outcome_bind]
  cases (sink.flush 0).outcome stream with
  | mk result after => cases result <;> rfl

end Sink

/-- Nothing fails on the device. -/
structure Device.IsReliable (device : Device) : Prop where
  writes : ∀ attempt, device.writeFails attempt = false
  flushes : ∀ attempt, device.flushFails attempt = false

/-- The reliable device is one. -/
theorem Device.isReliable_reliable : Device.reliable.IsReliable :=
  ⟨fun _ => rfl, fun _ => rfl⟩

/-- The action succeeds on any stream, and appends a text. -/
def Writing.Appends (writing : Writing Unit) (text : Text) : Prop :=
  ∀ stream, ∃ after, writing.outcome stream = (.ok (), after) ∧ after.text = stream.text ++ text

/-- Two actions in a row append their texts in a row. -/
theorem Writing.Appends.bind {first second : Writing Unit} {text other : Text}
    (h : first.Appends text) (hnext : second.Appends other) :
    Writing.Appends (first >>= fun _ => second) (text ++ other) := by
  intro stream
  obtain ⟨middle, hfirst, htext⟩ := h stream
  obtain ⟨after, hsecond, hother⟩ := hnext middle
  refine ⟨after, ?_, ?_⟩
  · rw [outcome_bind, hfirst]
    exact hsecond
  · rw [hother, htext, List.append_assoc]

namespace Sink

variable {sink : Sink} (h : sink.device.IsReliable)
include h

/-- A flush appends nothing. -/
theorem appends_flush (line : Int) : (sink.flush line).Appends [] := by
  intro stream
  rw [outcome_flush, if_neg (Bool.not_eq_true _ ▸ h.flushes _)]
  exact ⟨_, rfl, (List.append_nil stream.text).symm⟩

/-- A write appends the encoding of its record, also where the stream is flushed after it. -/
theorem appends_write (record : Record) (row : Int) :
    (sink.write record row).Appends (encodeRecord record) := by
  intro stream
  rw [outcome_write, if_neg (Bool.not_eq_true _ ▸ h.writes _)]
  dsimp only
  split
  · obtain ⟨after, houtcome, htext⟩ := appends_flush h (row + 1)
      { stream with writes := stream.writes + 1, text := stream.text ++ encodeRecord record }
    exact ⟨after, houtcome, htext.trans (List.append_nil _)⟩
  · exact ⟨_, rfl, rfl⟩

/-- Writing rows appends the encodings of their records, in their order. -/
theorem appends_writeRows (rows : List (Nat × Record)) :
    (sink.writeRows rows).Appends (encode (rows.map Prod.snd)) := by
  induction rows with
  | nil => exact fun stream => ⟨stream, rfl, (List.append_nil stream.text).symm⟩
  | cons entry rows ih => exact (appends_write h entry.2 entry.1).bind ih

end Sink

end SheetCalc.Csv
