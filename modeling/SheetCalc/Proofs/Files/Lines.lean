import SheetCalc.Proofs.Csv.Decoding
import SheetCalc.Proofs.Files.Export
import SheetCalc.Proofs.Pass.Characters

/-!
# The lines of an exported sheet

The lines of a sheet hold no line feed, and no value is written with one, so a record that a pass
yields holds none either and is written as one line. Main theorem: `exportTo_lines`. An export that
succeeds writes one line for each line of the sheet that is not empty.
-/

namespace SheetCalc

namespace Csv

variable {record : Record} {field : Text}

/-! ## Written records -/

/-- A field is written with its characters and with quotes. -/
theorem not_mem_encodeField {c : Char} (hquote : c ≠ '"') (h : c ∉ field) :
    c ∉ encodeField field := by
  unfold encodeField quote doubleQuotes
  split
  · rw [List.cons_append, List.mem_cons, List.mem_append, List.mem_singleton, List.mem_flatMap]
    rintro (hmem | ⟨d, hd, hmem⟩ | hmem)
    · exact hquote hmem
    · split at hmem
      · exact hquote (by simpa using hmem)
      · exact h (List.mem_singleton.mp hmem ▸ hd)
    · exact hquote hmem
  · exact h

/-- A record without a line feed is written on one line. -/
theorem newline_not_mem_encodeLine (h : record.Lacks '\n') : '\n' ∉ encodeLine record := by
  unfold encodeLine
  split
  · decide
  · refine Text.not_mem_intercalate (by decide) ?_
    exact List.forall_mem_map.mpr fun field hfield =>
      not_mem_encodeField (by decide) (h field hfield)

/-- Records without line feeds are written with one line feed each. -/
theorem count_newline_encode {records : List Record} (h : ∀ record ∈ records, record.Lacks '\n') :
    (encode records).count '\n' = records.length := by
  induction records with
  | nil => rfl
  | cons record records ih =>
      obtain ⟨hrecord, hrecords⟩ := List.forall_mem_cons.mp h
      rw [encode_cons, List.count_append, List.count_cons_self, ih hrecords,
        List.count_eq_zero_of_not_mem (newline_not_mem_encodeLine hrecord), Nat.zero_add,
        List.length_cons]

/-- Records without line feeds are written on as many lines, a record on each. -/
theorem linesOf_encode {records : List Record} (h : ∀ record ∈ records, record.Lacks '\n') :
    Sheet.linesOf (encode records) =
      records.map fun record => Sheet.dropReturn (encodeLine record) := by
  induction records with
  | nil => rfl
  | cons record records ih =>
      obtain ⟨hrecord, hrecords⟩ := List.forall_mem_cons.mp h
      rw [encode_cons, Sheet.linesOf_append (newline_not_mem_encodeLine hrecord), ih hrecords,
        List.map_cons]

end Csv

/-! ## Exported lines -/

namespace Evaluator

open Csv

/-- A pass without a fault yields as many records as the sheet has lines that are not empty. -/
theorem length_rows_of_pass {evaluator : Evaluator} {context : Context}
    (h : (evaluator.pass context).fault = none) :
    (evaluator.pass context).rows.length = evaluator.sheet.lines.countP (· ≠ []) := by
  have hyielded : (fun source => (Sheet.yielded (evaluator.pass context).context.snapshots
      source).isSome) = (fun line : Text => decide (line ≠ [])) ∘ Prod.fst := by
    funext ⟨line, row⟩
    by_cases hempty : line = [] <;> simp [Sheet.yielded, hempty]
  rw [Sheet.rows_of_pass h, List.length_filterMap_eq_countP, hyielded, ← List.countP_map,
    List.zipIdx_map_fst]

/-- One line for each record. When a sheet is read from a text and its export succeeds, the file
holds the encodings of the yielded records, as many as the text has lines that are not empty. Each
record is written on a line of its own, which ends in the only line feed of the record, so the
content has as many line feeds, and is read as a sheet of as many lines, whatever stands in the
cells. -/
theorem exportTo_lines {text name : Text} {detectCycles : Bool} {flushEvery : ℤ}
    {tree after : FileTree}
    (h : (ofSheet (.ofText text) detectCycles).exportTo flushEvery tree name = (none, after)) :
    ∃ records : List Record,
      after.read name = .ok (Utf8.encode (encode records)) ∧
      records = ((ofSheet (.ofText text) detectCycles).pass .fresh).rows.map Prod.snd ∧
      records.length = (Sheet.linesOf text).countP (· ≠ []) ∧
      (∀ record ∈ records, ∃ line, encodeRecord record = line ++ ['\n'] ∧ '\n' ∉ line) ∧
      (encode records).count '\n' = (Sheet.linesOf text).countP (· ≠ []) ∧
      (Sheet.linesOf (encode records)).length = (Sheet.linesOf text).countP (· ≠ []) := by
  let evaluator := ofSheet (.ofText text) detectCycles
  cases hopened : tree.writable name with
  | error error =>
      rw [exportTo, hopened] at h
      cases h
  | ok location =>
      rw [exportTo_of_writable _ hopened] at h
      obtain ⟨hfault, rfl⟩ := Prod.mk.inj h
      have hsheet : evaluator.sheet.Lacks '\n' := fun line => Sheet.newline_not_mem_of_mem_linesOf
      have hrecords : ∀ record ∈ (evaluator.pass .fresh).rows.map Prod.snd, record.Lacks '\n' :=
        List.forall_mem_map.mpr fun entry => lacks_of_pass (by decide) hsheet Context.lacks_fresh
      have hlength : ((evaluator.pass .fresh).rows.map Prod.snd).length =
          (Sheet.linesOf text).countP (· ≠ []) :=
        (List.length_map _).trans (length_rows_of_pass hfault)
      refine ⟨_, FileTree.read_put hopened _, rfl, hlength, fun record hrecord => ?_, ?_, ?_⟩
      · exact ⟨encodeLine record, rfl, newline_not_mem_encodeLine (hrecords record hrecord)⟩
      · exact (count_newline_encode hrecords).trans hlength
      · rw [linesOf_encode hrecords, List.length_map]
        exact hlength

/-- A sheet with carriage returns, quotes, an empty line and a formula that joins strings. -/
def mixed : Text :=
  "a\r,b\n\n=print(\"x\";\"\r\"),\"q\"\r\n\"\r".toList

/-- The three lines of `mixed` that are not empty are three lines of its export. -/
theorem exportTo_lines_mixed : ∃ after records,
    (ofSheet (.ofText mixed) true).exportTo 1 emptyHome "out.csv".toList = (none, after) ∧
      after.read "out.csv".toList = .ok (Utf8.encode (encode records)) ∧
      (encode records).count '\n' = 3 ∧ (Sheet.linesOf (encode records)).length = 3 := by
  have hopened : emptyHome.writable "out.csv".toList = .ok ["home".toList, "out.csv".toList] := by
    cbv
  have hfault : ((ofSheet (.ofText mixed) true).pass .fresh).fault = none := by cbv
  have hfilled : (Sheet.linesOf mixed).countP (· ≠ []) = 3 := by cbv
  have hexport := exportTo_of_writable (ofSheet (.ofText mixed) true) hopened 1
  rw [hfault] at hexport
  obtain ⟨records, hread, -, -, -, hcount, hlines⟩ := exportTo_lines hexport
  exact ⟨_, records, hexport, hread, hcount.trans hfilled, hlines.trans hfilled⟩

end Evaluator

end SheetCalc
