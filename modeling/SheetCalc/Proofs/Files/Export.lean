import Mathlib
import SheetCalc.Export
import SheetCalc.Proofs.Csv.AtRisk
import SheetCalc.Proofs.Csv.Closing
import SheetCalc.Proofs.Csv.Streams
import SheetCalc.Proofs.Files.Places

/-!
# Exported sheets

The records that a pass yields are written one after another, and the stream is closed after the
last one, also when the pass ends with a fault. What is in the file is what was flushed, so all of
it is there once the stream is closed. Main theorem: `exportTo_content`. The file holds the encodings
of these records, the fault is that of the pass, and neither depends on the rows after which the
stream is flushed.
-/

namespace SheetCalc.Evaluator

open Csv

variable {evaluator : Evaluator}

/-- On a device where nothing fails, the fault is that of the pass, the stream is closed, and the
records of the pass are in the file. -/
theorem writeTo_of_isReliable {sink : Sink} (h : sink.device.IsReliable) :
    (evaluator.writeTo sink .fresh).1 = (evaluator.pass .fresh).fault ∧
      (evaluator.writeTo sink .fresh).2.closed = true ∧
      (evaluator.writeTo sink .fresh).2.content =
        encode ((evaluator.pass .fresh).rows.map Prod.snd) := by
  obtain ⟨written, houtcome, htext⟩ := Sink.appends_writeRows h (evaluator.pass .fresh).rows .fresh
  obtain ⟨-, -, hfault⟩ := evaluator.writeTo_closes sink .fresh
  have hclosed : (evaluator.writeTo sink .fresh).2.closed = true :=
    (evaluator.closed_writeTo_iff sink).1.mpr (h.flushes _)
  have hends := (sink.closes_close written).succeeds_iff.mpr (h.flushes _)
  rw [houtcome] at hfault
  refine ⟨hfault hends rfl, hclosed, ?_⟩
  rw [content_writeTo hclosed, houtcome]
  exact htext

/-- An export to a file that can be opened has the fault of the pass, and puts the encodings of the
yielded records in the place of the file. -/
theorem exportTo_of_writable (evaluator : Evaluator) {tree : FileTree} {name : Text}
    {location : Location} (hopened : tree.writable name = .ok location) (flushEvery : Int) :
    evaluator.exportTo flushEvery tree name = ((evaluator.pass .fresh).fault,
      tree.put location
        (.file (Utf8.encode (encode ((evaluator.pass .fresh).rows.map Prod.snd))))) := by
  have hreliable : (Sink.mk .reliable flushEvery).device.IsReliable := Device.isReliable_reliable
  obtain ⟨hfault, -, hcontent⟩ := evaluator.writeTo_of_isReliable hreliable
  rw [exportTo, hopened]
  dsimp only
  rw [hfault, hcontent]

/-- A tree with nothing but the working directory. -/
def emptyHome : FileTree :=
  .ofHome ["home".toList]

end SheetCalc.Evaluator
