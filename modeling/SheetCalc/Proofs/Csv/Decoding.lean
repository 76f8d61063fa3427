import Mathlib
import SheetCalc.Proofs.Csv.Streams

/-!
# Reading written records

A reader of written records goes by the quotes: a line end outside quotes ends a record, a comma
outside quotes ends a field. Main theorem: `read_of_written`. The text of records that were written
one after another is read as these records, so different records have different texts.
-/

namespace SheetCalc.Csv

/-- The pieces of a text between the separators that stand outside quotes. The text starts inside
quotes when `quoted` is true, and every quote changes this. -/
def splitOutside (separator : Char) (quoted : Bool) : Text → List Text
  | [] => [[]]
  | c :: text =>
    if c = separator ∧ quoted = false then [] :: splitOutside separator false text
    else (splitOutside separator (if c = '"' then !quoted else quoted) text).modifyHead (c :: ·)

/-- A text with every doubled quote written once. -/
def undoubleQuotes : Text → Text
  | '"' :: '"' :: text => '"' :: undoubleQuotes text
  | c :: text => c :: undoubleQuotes text
  | [] => []

/-- The field that a piece of a line holds: what stands in enclosing quotes, or the piece. -/
def decodeField (piece : Text) : Text :=
  match piece with
  | '"' :: rest => if rest.getLast? = some '"' then undoubleQuotes rest.dropLast else piece
  | _ => piece

/-- The record that a line holds: an empty line is the empty record. -/
def decodeRecord (line : Text) : Record :=
  if line = [] then [] else (splitOutside ',' false line).map decodeField

/-- The records that a text holds. What follows the last line end is a record unless it is empty. -/
def decode (text : Text) : List Record :=
  let lines := splitOutside '\n' false text
  (if lines.getLast? = some [] then lines.dropLast else lines).map decodeRecord

/-- The text goes on with the piece that it stands in: no separator in it is outside quotes. It
leads from inside or outside quotes, as `before` says, to inside or outside quotes. -/
def Continues (separator : Char) (before : Bool) (text : Text) (after : Bool) : Prop :=
  ∀ rest, splitOutside separator before (text ++ rest) =
    (splitOutside separator after rest).modifyHead (text ++ ·)

namespace Continues

variable {separator : Char} {before middle after : Bool}

/-- The empty text goes on. -/
theorem nil (separator : Char) (before : Bool) : Continues separator before [] before := by
  intro rest
  show splitOutside separator before rest = (splitOutside separator before rest).modifyHead id
  rw [List.modifyHead_id]
  rfl

/-- Two texts that go on, one after the other. -/
theorem append {front back : Text} (hfront : Continues separator before front middle)
    (hback : Continues separator middle back after) :
    Continues separator before (front ++ back) after := by
  intro rest
  have hpieces : (front ++ ·) ∘ (back ++ ·) = (front ++ back ++ ·) := by
    funext piece
    exact (List.append_assoc front back piece).symm
  rw [List.append_assoc, hfront, hback, List.modifyHead_modifyHead, hpieces]

/-- A quote goes on with its piece, and the other side of it is inside or outside quotes. -/
theorem quotation (hseparator : separator ≠ '"') (before : Bool) :
    Continues separator before ['"'] !before := by
  intro rest
  rw [List.singleton_append, splitOutside, if_neg fun h => hseparator h.1.symm, if_pos rfl]
  rfl

/-- A character that is no quote goes on with its piece, unless it is a separator outside quotes. -/
theorem singleton {c : Char} (hquote : c ≠ '"') (hinside : c = separator → before = true) :
    Continues separator before [c] before := by
  intro rest
  rw [List.singleton_append, splitOutside, if_neg, if_neg hquote]
  · rfl
  · intro ⟨hsame, houtside⟩
    cases (hinside hsame).symm.trans houtside

/-- A text without quotes and separators goes on with its piece. -/
theorem of_forall {text : Text} (h : ∀ c ∈ text, c ≠ '"' ∧ c ≠ separator) :
    Continues separator before text before := by
  induction text with
  | nil => exact .nil separator before
  | cons c text ih =>
      have hfirst := h c List.mem_cons_self
      have hone : Continues separator before [c] before :=
        singleton hfirst.1 fun hsame => absurd hsame hfirst.2
      exact hone.append (ih fun d hd => h d (List.mem_cons_of_mem c hd))

/-- Inside quotes, a text with its quotes doubled goes on with its piece. -/
theorem doubleQuotes (hseparator : separator ≠ '"') (text : Text) :
    Continues separator true (doubleQuotes text) true := by
  induction text with
  | nil => exact .nil separator true
  | cons c text ih =>
      by_cases h : c = '"'
      · subst h
        exact ((quotation hseparator true).append (quotation hseparator false)).append ih
      · have hone : Continues separator true [c] true := singleton h fun _ => rfl
        have hcons : Csv.doubleQuotes (c :: text) = [c] ++ Csv.doubleQuotes text := by
          rw [Csv.doubleQuotes, List.flatMap_cons, if_neg h]
          rfl
        rw [hcons]
        exact hone.append ih

/-- A text in quotes goes on with its piece. -/
theorem quote (hseparator : separator ≠ '"') (text : Text) :
    Continues separator false (quote text) false :=
  ((quotation hseparator false).append (doubleQuotes hseparator text)).append
    (quotation hseparator true)

/-- A field goes on with its piece as it is written, where fields or records are separated. -/
theorem encodeField (hseparator : separator = ',' ∨ separator = '\n') (field : Text) :
    Continues separator false (encodeField field) false := by
  unfold Csv.encodeField
  split
  · refine quote ?_ field
    rcases hseparator with rfl | rfl <;> decide
  · next hplain =>
    refine of_forall fun c hmem => ?_
    have hfree : ¬ (c = ',' ∨ c = '"' ∨ c = '\n') := by
      intro hspecial
      exact hplain (List.any_eq_true.mpr ⟨c, hmem, by simpa [or_assoc] using hspecial⟩)
    rcases hseparator with rfl | rfl
    · exact ⟨fun h => hfree (.inr (.inl h)), fun h => hfree (.inl h)⟩
    · exact ⟨fun h => hfree (.inr (.inl h)), fun h => hfree (.inr (.inr h))⟩

/-- Texts that go on, with a separator between neighbours that goes on as well. -/
theorem intercalate {texts : List Text} {between : Char}
    (hbetween : Continues separator false [between] false)
    (h : ∀ text ∈ texts, Continues separator false text false) :
    Continues separator false ([between].intercalate texts) false := by
  induction texts with
  | nil => exact .nil separator false
  | cons text texts ih =>
      have hfirst := h text List.mem_cons_self
      have hrest := ih fun other hmem => h other (List.mem_cons_of_mem text hmem)
      cases texts with
      | nil =>
          rw [List.intercalate_singleton]
          exact hfirst
      | cons next texts =>
          rw [List.intercalate_cons_cons]
          exact (hfirst.append hbetween).append hrest

/-- A text that goes on and ends outside quotes is one piece. -/
theorem splitOutside_eq {text : Text} (h : Continues separator false text false) :
    splitOutside separator false text = [text] := by
  have hend := h []
  rw [List.append_nil] at hend
  simpa [splitOutside] using hend

/-- A text that goes on and ends outside quotes is the piece before a separator. -/
theorem splitOutside_append {text : Text} (h : Continues separator false text false)
    (rest : Text) : splitOutside separator false (text ++ separator :: rest) =
      text :: splitOutside separator false rest := by
  rw [h, splitOutside, if_pos ⟨rfl, rfl⟩]
  simp

end Continues

/-- Texts that go on are the pieces of the text in which a separator stands between neighbours. -/
theorem splitOutside_intercalate {separator : Char} {texts : List Text} (hnonempty : texts ≠ [])
    (h : ∀ text ∈ texts, Continues separator false text false) :
    splitOutside separator false ([separator].intercalate texts) = texts := by
  induction texts with
  | nil => exact absurd rfl hnonempty
  | cons text texts ih =>
      have hfirst := h text List.mem_cons_self
      cases texts with
      | nil =>
          rw [List.intercalate_singleton]
          exact hfirst.splitOutside_eq
      | cons next texts =>
          rw [List.intercalate_cons_cons, List.append_assoc, List.singleton_append,
            hfirst.splitOutside_append, ih (List.cons_ne_nil _ _)]
          exact fun other hmem => h other (List.mem_cons_of_mem text hmem)

/-- Doubled quotes are read as quotes. -/
theorem undoubleQuotes_doubleQuotes (text : Text) : undoubleQuotes (doubleQuotes text) = text := by
  induction text with
  | nil => rfl
  | cons c text ih =>
      unfold doubleQuotes at ih ⊢
      rw [List.flatMap_cons]
      by_cases h : c = '"'
      · subst h
        exact congrArg ('"' :: ·) ih
      · rw [if_neg h, List.singleton_append, undoubleQuotes, ih]
        intro rest hquote
        exact absurd hquote h

/-- A field is read as it was before it was written. -/
theorem decodeField_encodeField (field : Text) : decodeField (encodeField field) = field := by
  unfold encodeField
  split
  · show (if (doubleQuotes field ++ ['"']).getLast? = some '"' then
      undoubleQuotes (doubleQuotes field ++ ['"']).dropLast else _) = field
    rw [List.getLast?_concat, if_pos rfl, List.dropLast_concat, undoubleQuotes_doubleQuotes]
  · next hplain =>
    unfold decodeField
    split
    · exact absurd (by simp [needsQuotes]) hplain
    · rfl

/-- A record as it is written, without its line end. -/
def encodeLine (record : Record) : Text :=
  if record = [[]] then quote [] else [','].intercalate (record.map encodeField)

/-- A record in front of others is written on its line, with a line end. -/
theorem encode_cons (record : Record) (records : List Record) :
    encode (record :: records) = encodeLine record ++ '\n' :: encode records :=
  List.append_assoc (encodeLine record) ['\n'] (encode records)

/-- A line is read as the record that it was written for. -/
theorem decodeRecord_encodeLine (record : Record) : decodeRecord (encodeLine record) = record := by
  have hfields : decodeField ∘ encodeField = id := funext decodeField_encodeField
  by_cases hempty : record = []
  · subst hempty
    rfl
  · by_cases hlone : record = [[]]
    · subst hlone
      rfl
    · have hsplit : splitOutside ',' false (encodeLine record) = record.map encodeField := by
        rw [encodeLine, if_neg hlone]
        refine splitOutside_intercalate (fun hnil => hempty (List.map_eq_nil_iff.mp hnil)) ?_
        intro text hmem
        obtain ⟨field, -, rfl⟩ := List.mem_map.mp hmem
        exact .encodeField (.inl rfl) field
      -- Only the lone empty field would be written as an empty line, and it is quoted.
      have hline : encodeLine record ≠ [] := by
        intro hnil
        rw [hnil] at hsplit
        have hlines : [[]].map decodeField = (record.map encodeField).map decodeField :=
          congrArg (List.map decodeField) hsplit
        rw [List.map_map, hfields, List.map_id] at hlines
        exact hlone hlines.symm
      rw [decodeRecord, if_neg hline, hsplit, List.map_map, hfields, List.map_id]

/-- The lines of written records. -/
theorem splitOutside_encode (records : List Record) :
    splitOutside '\n' false (encode records) = records.map encodeLine ++ [[]] := by
  induction records with
  | nil => rfl
  | cons record records ih =>
      have hline : Continues '\n' false (encodeLine record) false := by
        unfold encodeLine
        split
        · exact .quote (by decide) []
        · refine .intercalate (.singleton (by decide) (by decide)) ?_
          intro text hmem
          obtain ⟨field, -, rfl⟩ := List.mem_map.mp hmem
          exact .encodeField (.inr rfl) field
      rw [encode_cons, hline.splitOutside_append, ih]
      rfl

/-- Written records are read as they were. -/
theorem decode_encode (records : List Record) : decode (encode records) = records := by
  show (if (splitOutside '\n' false (encode records)).getLast? = some [] then
    (splitOutside '\n' false (encode records)).dropLast else _).map decodeRecord = records
  rw [splitOutside_encode, List.getLast?_concat, if_pos rfl, List.dropLast_concat, List.map_map]
  have hrecord : decodeRecord ∘ encodeLine = id := funext decodeRecord_encodeLine
  rw [hrecord, List.map_id]

/-- The text of rows that are written to a new stream on which nothing fails. -/
def writtenText (flushEvery : Int) (rows : List (Nat × Record)) : Text :=
  (((Sink.mk .reliable flushEvery).writeRows rows).outcome .fresh).2.text

/-- The written text holds the records of the rows. -/
theorem writtenText_eq (flushEvery : Int) (rows : List (Nat × Record)) :
    writtenText flushEvery rows = encode (rows.map Prod.snd) := by
  have hreliable : (Sink.mk .reliable flushEvery).device.IsReliable := Device.isReliable_reliable
  obtain ⟨stream, houtcome, htext⟩ := Sink.appends_writeRows hreliable rows .fresh
  rw [writtenText, houtcome]
  exact htext

/-- Written records can be read back. Whatever the records are, their numbers of rows and the rows
after which the stream is flushed, the written text is read as exactly these records. So two lists
of records have the same text only if they are the same. -/
theorem read_of_written (flushEvery : Int) (rows : List (Nat × Record)) :
    decode (writtenText flushEvery rows) = rows.map Prod.snd ∧
    ∀ otherEvery others, writtenText otherEvery others = writtenText flushEvery rows ↔
      others.map Prod.snd = rows.map Prod.snd := by
  have hread (every : Int) (written : List (Nat × Record)) :
      decode (writtenText every written) = written.map Prod.snd := by
    rw [writtenText_eq, decode_encode]
  refine ⟨hread flushEvery rows, fun otherEvery others => ⟨fun htext => ?_, fun hrecords => ?_⟩⟩
  · rw [← hread flushEvery rows, ← htext, hread]
  · rw [writtenText_eq, writtenText_eq, hrecords]

/-- A lone empty field, the empty record, and fields with a comma, a quote and a line end. -/
example : decode "\"\"\n\n\"a,\"\"b\"\"\",\"c\nd\",\n".toList =
    [[[]], [], ["a,\"b\"".toList, "c\nd".toList, []]] := by
  decide

end SheetCalc.Csv
