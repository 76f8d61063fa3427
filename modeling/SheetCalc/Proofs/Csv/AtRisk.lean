import Mathlib
import SheetCalc.Export
import SheetCalc.Proofs.Csv.Failures
import SheetCalc.Proofs.Pass.Rows

/-!
# Records at risk

While the rows of a pass are written, the records behind the last flush are at risk. The stream is
flushed after the rows that are multiples of the interval between flushes, but an empty line counts
as a row and is not written, so the flush that falls on it is left out. Main theorem:
`atRisk_le_iff`. Fewer records than the interval are at risk as long as one of the records that were
written last, as many as the interval, belongs to such a row.
-/

namespace SheetCalc

/-- The rows of the lines that are not empty. -/
def Sheet.filledRows (sheet : Sheet) : List ℕ :=
  (List.range sheet.lines.length).filter fun row => sheet.lines[row]? ≠ some []

namespace Csv

variable {rows : List (ℕ × Record)} {records : List Record} {record : Record} {row : ℕ}
  {sink : Sink} {stream before after : Stream}

/-! ## What a write puts at risk -/

/-- The number of records, of those that were written to a stream, whose end is not flushed. -/
def Stream.atRisk (stream : Stream) (records : List Record) : ℕ :=
  (List.range records.length).countP fun index =>
    stream.flushed < (encode (records.take (index + 1))).length

/-- No record is at risk when all of them are flushed. -/
theorem Stream.atRisk_eq_zero (h : (encode records).length ≤ stream.flushed) :
    stream.atRisk records = 0 := by
  rw [atRisk, List.countP_eq_zero]
  intro index _
  have hsplit : encode records =
      encode (records.take (index + 1)) ++ encode (records.drop (index + 1)) := by
    rw [encode, encode, encode, ← List.flatMap_append, List.take_append_drop]
  rw [hsplit, List.length_append] at h
  rw [decide_eq_true_eq]
  omega

/-- A record that is written and not flushed is one more at risk. -/
theorem Stream.atRisk_append_singleton (h : stream.flushed ≤ (encode records).length)
    (record : Record) : stream.atRisk (records ++ [record]) = stream.atRisk records + 1 := by
  have hlast : stream.flushed < (encode (records ++ [record])).length := by
    have hend : 0 < (encodeRecord record).length := by simp [encodeRecord]
    rw [encode_append_singleton, List.length_append]
    omega
  have hwhole : (records ++ [record]).take (records.length + 1) = records ++ [record] :=
    List.take_of_length_le (by simp)
  have hfront : ∀ index ∈ List.range records.length,
      (records ++ [record]).take (index + 1) = records.take (index + 1) := by
    intro index hindex
    exact List.take_append_of_le_length (List.mem_range.mp hindex)
  rw [atRisk, List.length_append, List.length_singleton, List.range_succ, List.countP_append,
    List.countP_singleton, hwhole, if_pos (decide_eq_true hlast)]
  congr 1
  refine List.countP_congr fun index hindex => ?_
  rw [hfront index hindex]

namespace Sink

/-- Rows were written to a stream: it holds their records, and those behind the last flush are at
risk. -/
structure Wrote (sink : Sink) (rows : List (ℕ × Record)) (stream : Stream) : Prop where
  text : stream.text = encode (rows.map Prod.snd)
  flushed_le : stream.flushed ≤ stream.text.length
  atRisk : stream.atRisk (rows.map Prod.snd) =
    (rows.rtakeWhile fun entry => !sink.flushesAt entry.1).length

/-- A row is written after others. -/
theorem Wrote.write (h : sink.Wrote rows before)
    (hstep : sink.Performs before (.write record row) (.ok ()) after) :
    sink.Wrote (rows ++ [(row, record)]) after := by
  have hrecords : (rows ++ [(row, record)]).map Prod.snd = rows.map Prod.snd ++ [record] := by
    rw [List.map_append, List.map_singleton]
  have htext : before.text ++ encodeRecord record =
      encode ((rows ++ [(row, record)]).map Prod.snd) := by
    rw [hrecords, encode_append_singleton, h.text]
  have hflushed := h.flushed_le
  cases hstep with
  | written _ hrow =>
      refine ⟨htext, hflushed.trans ?_, ?_⟩
      · exact (List.prefix_append before.text _).length_le
      · rw [List.rtakeWhile_concat_pos _ _ _ (by rw [hrow]; rfl), hrecords, List.length_append,
          List.length_singleton, ← h.atRisk]
        exact Stream.atRisk_append_singleton (h.text ▸ hflushed) record
  | writtenFlushed _ hrow =>
      refine ⟨htext, Nat.le_refl _, ?_⟩
      rw [List.rtakeWhile_concat_neg _ _ _ (by rw [hrow]; decide)]
      exact Stream.atRisk_eq_zero (Nat.le_of_eq (congrArg List.length htext.symm))

/-- Rows are written as their front and then the rest. -/
theorem writeRows_append (sink : Sink) (front rest : List (ℕ × Record)) :
    sink.writeRows (front ++ rest) = sink.writeRows front >>= fun _ => sink.writeRows rest := by
  induction front with
  | nil => exact (pure_bind _ _).symm
  | cons entry front ih =>
      show (sink.write entry.2 entry.1 >>= fun _ => sink.writeRows (front ++ rest)) = _
      rw [ih, ← bind_assoc]
      rfl

/-- Rows that are written without a fault were written. -/
theorem wrote_of_outcome (h : (sink.writeRows rows).outcome .fresh = (.ok (), stream)) :
    sink.Wrote rows stream := by
  induction rows using List.reverseRecOn generalizing stream with
  | nil =>
      obtain ⟨-, rfl⟩ := Prod.mk.inj h
      exact ⟨rfl, Nat.le_refl _, rfl⟩
  | append_singleton rows entry ih =>
      obtain ⟨row, record⟩ := entry
      have hsingle : sink.writeRows [(row, record)] = sink.write record row := bind_pure_unit
      rw [writeRows_append, Writing.outcome_bind, hsingle] at h
      cases hfront : (sink.writeRows rows).outcome .fresh with
      | mk result middle =>
          rw [hfront] at h
          cases result with
          | error fault => cases h
          | ok =>
              have hstep := sink.performs_perform middle (.write record row)
              rw [show (sink.perform (.write record row)).outcome middle = (.ok (), stream) from h]
                at hstep
              exact (ih hfront).write hstep

/-- With a positive interval the stream is flushed after its multiples. -/
theorem flushesAt_iff {device : Device} {interval : ℕ} (h : 0 < interval) :
    (Sink.mk device interval).flushesAt row = true ↔ interval ∣ row := by
  rw [flushesAt, Bool.and_eq_true, decide_eq_true_eq, beq_iff_eq, ← Int.dvd_iff_emod_eq_zero,
    Int.natCast_dvd_natCast]
  exact and_iff_right (Int.natCast_pos.mpr h)

end Sink

/-! ## The rows that were written last -/

/-- The back of a list on which a property holds is at least so long if the property holds on so
many elements at its end. -/
theorem le_length_rtakeWhile_iff {α : Type} {p : α → Bool} {list : List α} {count : ℕ} :
    count ≤ (list.rtakeWhile p).length ↔ count ≤ list.length ∧ ∀ x ∈ list.rtake count, p x := by
  have hlength : count ≤ list.length → (list.rtake count).length = count := by
    intro h
    rw [List.rtake, List.length_drop]
    omega
  constructor
  · intro h
    have hcount := h.trans (List.rtakeWhile_suffix p list).length_le
    have hback : list.rtake count <:+ list.rtakeWhile p :=
      List.suffix_of_suffix_length_le (List.drop_suffix _ _) (List.rtakeWhile_suffix p list)
        ((hlength hcount).trans_le h)
    exact ⟨hcount, fun x hx => List.mem_rtakeWhile_imp (hback.subset hx)⟩
  · rintro ⟨hcount, hall⟩
    have hreverse : list.reverse =
        (list.rtake count).reverse ++ (list.take (list.length - count)).reverse := by
      rw [← List.reverse_append, List.rtake, List.take_append_drop]
    have hback : ∀ x ∈ (list.rtake count).reverse, p x :=
      fun x hx => hall x (List.mem_reverse.mp hx)
    rw [List.rtakeWhile, hreverse, List.takeWhile_append_of_pos hback, List.length_reverse,
      List.length_append, List.length_reverse, hlength hcount]
    exact Nat.le_add_right _ _

end Csv

namespace Evaluator

open Csv

variable {evaluator : Evaluator} {device : Device} {interval count : ℕ} {stream : Stream}

/-- The records of the first rows of a pass. -/
def firstRecords (evaluator : Evaluator) (count : ℕ) : List Record :=
  ((evaluator.pass .fresh).rows.take count).map Prod.snd

/-- The stream right after so many rows of a pass were written without a fault. -/
structure WritesFirst (evaluator : Evaluator) (sink : Sink) (count : ℕ) (stream : Stream) :
    Prop where
  count_le : count ≤ (evaluator.pass .fresh).rows.length
  outcome_eq :
    (sink.writeRows ((evaluator.pass .fresh).rows.take count)).outcome .fresh = (.ok (), stream)

/-- The rows of a pass are the first ones of the lines that are not empty. -/
theorem rows_isPrefix (evaluator : Evaluator) :
    (evaluator.pass .fresh).rows.map Prod.fst <+: evaluator.sheet.filledRows := by
  obtain ⟨finish, hrun⟩ := Sheet.exists_isRun_pass evaluator .fresh
  have hrows : (evaluator.pass .fresh).rows.map Prod.fst =
      ((List.range evaluator.sheet.lines.length).take finish.row).filter
        fun row => evaluator.sheet.lines[row]? ≠ some [] := by
    refine hrun.rows_increasing.eq_of_mem_iff (List.pairwise_lt_range.take.filter _) ?_
    intro row
    have hplace : row ∈ (List.range evaluator.sheet.lines.length).take finish.row ↔
        row < finish.row ∧ row < evaluator.sheet.lines.length := by
      rw [List.take_range, List.mem_range, Nat.lt_min]
    rw [List.mem_filter, hplace, decide_eq_true_eq, List.mem_map]
    constructor
    · rintro ⟨⟨_, record⟩, hmem, rfl⟩
      obtain ⟨hrow, line, hline, hnonempty, -⟩ := hrun.mem_rows.mp hmem
      exact ⟨⟨hrow, (List.getElem?_eq_some_iff.mp hline).1⟩, by simpa [hline] using hnonempty⟩
    · rintro ⟨⟨hrow, hlength⟩, hnonempty⟩
      have hline := List.getElem?_eq_getElem hlength
      rw [hline, Ne, Option.some_inj] at hnonempty
      exact ⟨_, hrun.mem_rows.mpr ⟨hrow, _, hline, hnonempty, rfl⟩, rfl⟩
  rw [hrows]
  exact (List.take_prefix _ _).filter _

end Evaluator

/-! ## Rows that no empty line takes away -/

/-- In increasing numbers, every place further on adds one at least. -/
theorem getElem_add_le {rows : List ℕ} (h : rows.Pairwise (· < ·)) (first : ℕ) :
    ∀ (more : ℕ) (hlast : first + more < rows.length), rows[first] + more ≤ rows[first + more]
  | 0, _ => Nat.le_refl _
  | more + 1, hlast => by
    have hbefore := getElem_add_le h first more (by omega)
    have hstep : rows[first + more] < rows[first + (more + 1)] :=
      List.pairwise_iff_getElem.mp h _ _ _ _ (by omega)
    omega

/-- In increasing numbers, a smaller one does not come later. -/
theorem le_of_getElem_le {rows : List ℕ} (h : rows.Pairwise (· < ·)) {left right : ℕ}
    (hleft : left < rows.length) (hright : right < rows.length)
    (hle : rows[left] ≤ rows[right]) : left ≤ right := by
  by_contra hlater
  have hlt := List.pairwise_iff_getElem.mp h right left hright hleft (not_le.mp hlater)
  omega

/-- A number of a list is among the last ones of a front of it. -/
theorem getElem_mem_rtake {rows : List ℕ} {first place length : ℕ} (hplace : place < rows.length)
    (hstart : first ≤ place) (hend : place < first + length)
    (hlength : first + length ≤ rows.length) :
    rows[place] ∈ (rows.take (first + length)).rtake length := by
  have hdropped : (rows.take (first + length)).length - length = first := by
    rw [List.length_take]
    omega
  have hlater : ((rows.take (first + length)).rtake length)[place - first]? = some rows[place] := by
    rw [List.rtake, hdropped, List.getElem?_drop, Nat.add_sub_cancel' hstart,
      List.getElem?_take_of_lt hend, List.getElem?_eq_getElem hplace]
  exact List.mem_of_getElem? hlater

/-- As many numbers in a row as the interval hold a multiple of it. -/
theorem exists_dvd_between {interval : ℕ} (h : 0 < interval) (low : ℕ) :
    ∃ number, interval ∣ number ∧ low ≤ number ∧ number ≤ low + (interval - 1) := by
  have hdiv := Nat.div_add_mod (low + (interval - 1)) interval
  have hmod := Nat.mod_lt (low + (interval - 1)) h
  exact ⟨interval * ((low + (interval - 1)) / interval), Nat.dvd_mul_right _ _, by omega, by omega⟩

namespace Sheet

/-- The rows of lines that are not empty are in increasing order. -/
theorem filledRows_increasing (sheet : Sheet) : sheet.filledRows.Pairwise (· < ·) :=
  List.pairwise_lt_range.filter _

/-- The rows of lines that are not empty are rows of lines. -/
theorem lt_of_mem_filledRows {sheet : Sheet} {row : ℕ} (h : row ∈ sheet.filledRows) :
    row < sheet.lines.length :=
  List.mem_range.mp (List.mem_filter.mp h).1

/-- When no line at a multiple of the interval is empty, one of the last rows, as many as the
interval, of any front of the rows is a multiple. -/
theorem exists_dvd_of_filled {sheet : Sheet} {interval count : ℕ} (hpos : 0 < interval)
    (hfilled : ∀ row < sheet.lines.length, interval ∣ row → sheet.lines[row]? ≠ some [])
    (hcount : count ≤ sheet.filledRows.length) (hinterval : interval ≤ count) :
    ∃ row ∈ (sheet.filledRows.take count).rtake interval, interval ∣ row := by
  obtain ⟨first, rfl⟩ := Nat.exists_eq_add_of_le' hinterval
  have hlast : first + (interval - 1) < sheet.filledRows.length := by omega
  obtain ⟨row, hdvd, hlow, hhigh⟩ := exists_dvd_between hpos sheet.filledRows[first]
  -- The rows span at least as many numbers as the interval, so the multiple is inside.
  have hspan := getElem_add_le sheet.filledRows_increasing first (interval - 1) hlast
  have hlength := lt_of_mem_filledRows (List.getElem_mem hlast)
  have hmem : row ∈ sheet.filledRows :=
    List.mem_filter.mpr ⟨List.mem_range.mpr (by omega),
      decide_eq_true (hfilled row (by omega) hdvd)⟩
  obtain ⟨place, hplace, rfl⟩ := List.getElem_of_mem hmem
  have hstart : first ≤ place :=
    le_of_getElem_le sheet.filledRows_increasing (by omega) hplace hlow
  have hend : place ≤ first + (interval - 1) :=
    le_of_getElem_le sheet.filledRows_increasing hplace hlast (hhigh.trans hspan)
  exact ⟨_, getElem_mem_rtake hplace hstart (by omega) hcount, hdvd⟩

end Sheet

namespace Evaluator

open Csv

variable {evaluator : Evaluator} {device : Device} {interval count : ℕ} {stream : Stream}

/-! ## The bound -/

/-- The rows that were written first are the first ones of the lines that are not empty. -/
theorem WritesFirst.rows_eq {sink : Sink} (h : evaluator.WritesFirst sink count stream) :
    ((evaluator.pass .fresh).rows.take count).map Prod.fst =
      evaluator.sheet.filledRows.take count := by
  have hprefix := List.prefix_iff_eq_take.mp evaluator.rows_isPrefix
  rw [List.map_take, hprefix, List.take_take, List.length_map, Nat.min_eq_left h.count_le]

/-- As many records as the interval are at risk when so many were written last without a multiple
of it among their rows. -/
theorem WritesFirst.interval_le_atRisk_iff (hpos : 0 < interval)
    (h : evaluator.WritesFirst ⟨device, interval⟩ count stream) :
    interval ≤ stream.atRisk (evaluator.firstRecords count) ↔ interval ≤ count ∧
      ∀ row ∈ (evaluator.sheet.filledRows.take count).rtake interval, ¬ interval ∣ row := by
  have hlength : ((evaluator.pass .fresh).rows.take count).length = count :=
    List.length_take_of_le h.count_le
  have hlast : (evaluator.sheet.filledRows.take count).rtake interval =
      (((evaluator.pass .fresh).rows.take count).rtake interval).map Prod.fst := by
    rw [← h.rows_eq, List.rtake, List.rtake, List.length_map, List.map_drop]
  rw [firstRecords, (Sink.wrote_of_outcome h.outcome_eq).atRisk, le_length_rtakeWhile_iff,
    hlength, hlast, List.forall_mem_map]
  refine and_congr_right fun _ => forall₂_congr fun entry _ => ?_
  rw [Bool.not_eq_true', ← Bool.not_eq_true, Sink.flushesAt_iff hpos]

/-- Right after a record was written, fewer records than the interval between flushes are at risk
if and only if a multiple of the interval is among the rows that were written last, as many as the
interval, or not so many rows were written yet. So it is at all times when no line at a multiple
of the interval is empty. -/
theorem atRisk_le_iff (hpos : 0 < interval)
    (h : evaluator.WritesFirst ⟨device, interval⟩ count stream) :
    (stream.atRisk (evaluator.firstRecords count) ≤ interval - 1 ↔
      (interval ≤ count →
        ∃ row ∈ (evaluator.sheet.filledRows.take count).rtake interval, interval ∣ row)) ∧
    ((∀ row < evaluator.sheet.lines.length, interval ∣ row →
        evaluator.sheet.lines[row]? ≠ some []) →
      stream.atRisk (evaluator.firstRecords count) ≤ interval - 1) := by
  have hiff : stream.atRisk (evaluator.firstRecords count) ≤ interval - 1 ↔
      (interval ≤ count →
        ∃ row ∈ (evaluator.sheet.filledRows.take count).rtake interval, interval ∣ row) := by
    rw [← Nat.lt_iff_le_pred hpos, ← not_le, h.interval_le_atRisk_iff hpos, not_and]
    refine imp_congr_right fun _ => ?_
    simp only [not_forall, not_not, exists_prop]
  have hcount : count ≤ evaluator.sheet.filledRows.length := by
    have hlength := congrArg List.length h.rows_eq
    rw [List.length_map, List.length_take_of_le h.count_le, List.length_take] at hlength
    omega
  exact ⟨hiff, fun hfilled => hiff.mpr (Sheet.exists_dvd_of_filled hpos hfilled hcount)⟩

/-- A sheet with empty lines, of which none falls on the interval `3`. -/
def spaced : Sheet :=
  ⟨[['a'], [], [], ['d'], ['e']]⟩

/-- After the three records of `spaced`, fewer than three are at risk. -/
theorem atRisk_le_of_spaced :
    let evaluator := ofSheet spaced true
    let stream : Stream := ⟨"a\nd\ne\n".toList, 4, 3, 2, false⟩
    (0 < 3 ∧ evaluator.WritesFirst ⟨.reliable, 3⟩ 3 stream) ∧
      stream.atRisk (evaluator.firstRecords 3) ≤ 2 := by
  intro evaluator stream
  have hrows : (evaluator.pass .fresh).rows =
      [(0, [['a']]), (3, [['d']]), (4, [['e']])] := by cbv
  have hwrites : evaluator.WritesFirst ⟨.reliable, 3⟩ 3 stream := by
    refine ⟨?_, ?_⟩
    · rw [hrows]
      decide
    · rw [hrows]
      decide
  have hfilled : ∀ row < spaced.lines.length, 3 ∣ row → spaced.lines[row]? ≠ some [] := by decide
  exact ⟨⟨by decide, hwrites⟩, (atRisk_le_iff (by decide) hwrites).2 hfilled⟩

/-- A sheet with an empty line in the row after which the stream would be flushed. -/
def gapped : Sheet :=
  ⟨[['a'], ['b'], [], ['d']]⟩

/-- The bound does not hold on all sheets: with the interval `2`, two records of `gapped` are at
risk at its end. -/
theorem gapped_atRisk :
    ¬ ∀ (sheet : Sheet) (detectCycles : Bool) (interval count : ℕ) (stream : Stream),
      0 < interval → (ofSheet sheet detectCycles).WritesFirst ⟨.reliable, interval⟩ count stream →
      stream.atRisk ((ofSheet sheet detectCycles).firstRecords count) ≤ interval - 1 := by
  intro hall
  have hrows : ((ofSheet gapped true).pass .fresh).rows =
      [(0, [['a']]), (1, [['b']]), (3, [['d']])] := by cbv
  have hwrites : (ofSheet gapped true).WritesFirst ⟨.reliable, 2⟩ 3
      ⟨"a\nb\nd\n".toList, 2, 3, 1, false⟩ := by
    refine ⟨?_, ?_⟩
    · rw [hrows]
      decide
    · rw [hrows]
      decide
  have hbound := hall gapped true 2 3 _ (by decide) hwrites
  rw [firstRecords, hrows] at hbound
  exact absurd hbound (by decide)

end Evaluator

end SheetCalc
