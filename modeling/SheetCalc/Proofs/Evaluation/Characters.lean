import SheetCalc.Proofs.Decimal.Plain
import SheetCalc.Proofs.Evaluation.Filling
import SheetCalc.Proofs.Formula.Calls
import SheetCalc.Proofs.Sheet.Lines
import SheetCalc.Proofs.Sheet.Records

/-!
# The characters of values

Evaluation puts values together from the strings that stand in the sheet, and from numbers,
booleans and arrays, which are written with the characters in `Value.glyphs`. So a character that
is none of these and stands nowhere in the sheet stands in no value. The leaves of a filled formula
come first (`Formula.not_mem_of_fill`), then its calls (`Formula.not_mem_value`), and then the cells
that it refers to, with one induction on the budget. Main theorem: `Evaluator.not_mem_cellValue`.
-/

namespace SheetCalc

open Evaluation

/-- The characters that numbers, booleans and arrays are written with. -/
def Value.glyphs : Text :=
  "-.0123456789truefals[, ]".toList

/-! ## Texts -/

namespace Text

variable {c : Char} {text : Text}

/-- Digits are among the glyphs of values. -/
theorem mem_glyphs_of_isDigit (h : c.isDigit) : c ∈ Value.glyphs := by
  have hcode := Token.isDigit_iff.mp h
  have hascii : c.isDigit → c ∈ Value.glyphs :=
    of_ascii (P := fun c => c.isDigit → c ∈ Value.glyphs) (by decide) (by omega)
  exact hascii h

/-- A trimmed text has characters of the text. -/
theorem mem_of_mem_trim (h : c ∈ trim text) : c ∈ text := by
  have hstart : c ∈ trimStart text :=
    List.mem_reverse.mp ((List.dropWhile_sublist _).subset (List.mem_reverse.mp h))
  exact (List.dropWhile_sublist _).subset hstart

/-- A character that stands neither in texts nor in what separates them does not stand in the texts
in a row. -/
theorem not_mem_intercalate {separator : Text} {texts : List Text} (hseparator : c ∉ separator)
    (h : ∀ text ∈ texts, c ∉ text) : c ∉ separator.intercalate texts := by
  induction texts with
  | nil => exact List.not_mem_nil
  | cons first texts ih =>
      obtain ⟨hfirst, hrest⟩ := List.forall_mem_cons.mp h
      cases texts with
      | nil => rwa [List.intercalate_singleton]
      | cons second texts =>
          rw [List.intercalate_cons_cons, List.mem_append, List.mem_append]
          rintro ((hmem | hmem) | hmem)
          · exact hfirst hmem
          · exact hseparator hmem
          · exact ih hrest hmem

/-- A numeral of digits is written with glyphs of values. -/
theorem mem_glyphs_of_numeral {numeral : Numeral} (h : ∀ d ∈ numeral.digits, d.isDigit)
    (hmem : c ∈ numeral.text) : c ∈ Value.glyphs := by
  obtain ⟨negative, whole, fraction⟩ := numeral
  rcases List.mem_append.mp hmem with hfront | hback
  · rcases List.mem_append.mp hfront with hsign | hwhole
    · cases negative with
      | false => cases hsign
      | true =>
          obtain rfl := List.mem_singleton.mp hsign
          decide
    · exact mem_glyphs_of_isDigit (h c (List.mem_append_left _ hwhole))
  · cases fraction with
    | none => cases hback
    | some digits =>
        rcases List.mem_cons.mp hback with rfl | hdigit
        · decide
        · exact mem_glyphs_of_isDigit (h c (List.mem_append_right _ hdigit))

end Text

/-- The strings in a formula are parts of its text. -/
theorem Formula.mem_of_mem_string {line : Int} {text content : Text} {formula : Formula Leaf}
    (h : ofText line text = .ok formula)
    (hleaf : .literal (.string content) ∈ Expr.leavesOf formula.arguments) :
    ∀ c ∈ content, c ∈ text := by
  obtain ⟨tokens, htokens, token, htoken, hatom⟩ := exists_token_of_ofText h hleaf
  cases hatom with
  | string =>
      obtain ⟨lexemes, last, hcomposed, rfl⟩ := ((Token.list_eq_ok_iff text).1 tokens).mp htokens
      obtain ⟨lexeme, hlexeme, hsame⟩ := List.mem_map.mp htoken
      have hspells := hsame ▸ (hcomposed.valid lexeme hlexeme).spells
      intro c hc
      have hwritten : c ∈ lexeme.written := by
        generalize lexeme.written = written at hspells ⊢
        cases hspells with
        | string => exact List.mem_cons_of_mem _ (List.mem_append_left _ hc)
      have htrimmed : c ∈ Text.trim text := by
        rw [hcomposed.text_eq]
        exact List.mem_append_left _
          (List.mem_flatMap.mpr ⟨lexeme, hlexeme, List.mem_append_right _ hwritten⟩)
      exact Text.mem_of_mem_trim htrimmed

/-- The body of a formula is a part of its text. -/
theorem Formula.mem_of_mem_body {text body : Text} (h : body? text = some body) :
    ∀ c ∈ body, c ∈ text := by
  unfold body? at h
  split at h
  · obtain rfl := Option.some.inj h
    exact fun c hc => (List.dropWhile_sublist _).subset (Text.mem_of_mem_trim hc)
  · cases h

/-! ## Values -/

section Glyphs

variable {c : Char} (hglyph : c ∉ Value.glyphs)
include hglyph

/-- A number is written with glyphs of values. -/
theorem Decimal.not_mem_plain (number : Decimal) : c ∉ number.plain := by
  rw [← number.text_numeral]
  exact fun hmem => hglyph (Text.mem_glyphs_of_numeral number.isWritten_numeral.isDigit hmem)

/-- A literal is written with glyphs of values, or is a string. -/
theorem Literal.not_mem_text {content : Literal} (h : ∀ text, content = .string text → c ∉ text) :
    c ∉ content.text := by
  cases content with
  | number value => exact value.not_mem_plain hglyph
  | string text => exact h text rfl
  | boolean value =>
      have hletters : (Literal.boolean value).text ⊆ Value.glyphs := by cases value <;> decide
      exact fun hmem => hglyph (hletters hmem)

/-- What the text of a cell reads as is written with the characters of the text, or with glyphs of
values. -/
theorem Literal.not_mem_text_ofText {text : Text} (h : c ∉ text) : c ∉ (ofText text).text := by
  refine not_mem_text hglyph fun content hcontent => ?_
  unfold ofText at hcontent
  split at hcontent
  · cases hcontent
  · obtain rfl := Literal.string.inj hcontent
    exact h

/-- Texts of values with a comma and a blank between them. -/
theorem Text.not_mem_join {texts : List Text} (h : ∀ text ∈ texts, c ∉ text) :
    c ∉ join ", " texts := by
  have hseparator : ", ".toList ⊆ Value.glyphs := by decide
  exact not_mem_intercalate (fun hmem => hglyph (hseparator hmem)) h

/-- An array is written with the texts of its elements, and with glyphs of values. -/
theorem Value.not_mem_text_array {elements : List Value} (h : ∀ value ∈ elements, c ∉ value.text) :
    c ∉ (Value.array elements).text := by
  have hbrackets : '[' ∈ glyphs ∧ ']' ∈ glyphs := by decide
  rw [text, texts_eq_map, List.cons_append, List.mem_cons, List.mem_append, List.mem_singleton]
  rintro (rfl | hmem | rfl)
  · exact hglyph hbrackets.1
  · exact Text.not_mem_join hglyph (List.forall_mem_map.mpr h) hmem
  · exact hglyph hbrackets.2

/-- A builtin function writes the texts of its arguments, or a number. -/
theorem Builtin.not_mem_call {builtin : Builtin} {values : List Value} {text : Text}
    (h : builtin.call values = .ok text) (hvalues : ∀ value ∈ values, c ∉ value.text) :
    c ∉ text := by
  cases builtin with
  | print =>
      obtain rfl := Except.ok.inj h
      exact Text.not_mem_join hglyph (List.forall_mem_map.mpr hvalues)
  | arithmetic operation =>
      have hcall : operation.call values = .ok text := h
      unfold Operation.call at hcall
      split at hcall
      · next left right =>
        cases hresult : operation.compute left right with
        | error cause => simp [hresult, Except.map] at hcall
        | ok result =>
            rw [hresult] at hcall
            obtain rfl : result.plain = text := Except.ok.inj hcall
            exact result.not_mem_plain hglyph
      · cases hcall
      · cases hcall

/-- The text of a call is written with the texts of its arguments, or with glyphs of values. -/
theorem Expr.not_mem_apply {name text : Text} {values : List Value} {line : Int}
    (h : apply name values line = .ok text) (hvalues : ∀ value ∈ values, c ∉ value.text) :
    c ∉ text := by
  unfold apply Builtin.call? at h
  cases hname : Builtin.ofName? name with
  | none => simp [hname] at h
  | some builtin =>
      cases hcall : builtin.call values with
      | error cause => simp [hname, hcall] at h
      | ok result =>
          obtain rfl : result = text := by simpa [hname, hcall] using h
          exact Builtin.not_mem_call hglyph hcall hvalues

end Glyphs

/-! ## Formulas -/

namespace Expr

variable {c : Char}

mutual

/-- The value of a tree is written with the texts of its leaves, and with glyphs of values. -/
theorem not_mem_value (hglyph : c ∉ Value.glyphs) : (expr : Expr Literal) →
    {result : Value} → expr.value = .ok result → (∀ leaf ∈ expr.leaves, c ∉ leaf.text) →
    c ∉ result.text
  | .leaf content, result, h, hleaves => by
    obtain rfl := Except.ok.inj h
    exact hleaves content List.mem_cons_self
  | .array elements, result, h, hleaves => by
    obtain ⟨results, hresults, hresult⟩ := of_bind_eq_ok h
    obtain rfl := Except.ok.inj hresult
    exact Value.not_mem_text_array hglyph (not_mem_values hglyph elements hresults hleaves)
  | .call name arguments line, result, h, hleaves => by
    obtain ⟨results, hresults, hcall⟩ := of_bind_eq_ok h
    obtain ⟨text, htext, hresult⟩ := of_bind_eq_ok hcall
    obtain rfl := Except.ok.inj hresult
    have hnone := not_mem_apply hglyph htext (not_mem_values hglyph arguments hresults hleaves)
    exact Literal.not_mem_text_ofText hglyph hnone

/-- The values of trees are written with the texts of their leaves, and with glyphs of values. -/
theorem not_mem_values (hglyph : c ∉ Value.glyphs) : (exprs : List (Expr Literal)) →
    {results : List Value} → values exprs = .ok results →
    (∀ leaf ∈ leavesOf exprs, c ∉ leaf.text) → ∀ result ∈ results, c ∉ result.text
  | [], results, h, hleaves => by
    obtain rfl := Except.ok.inj h
    exact fun result hresult => absurd hresult List.not_mem_nil
  | expr :: exprs, results, h, hleaves => by
    obtain ⟨first, hfirst, hnext⟩ := of_bind_eq_ok h
    obtain ⟨rest, hrest, hresults⟩ := of_bind_eq_ok hnext
    obtain rfl := Except.ok.inj hresults
    obtain ⟨hfront, hback⟩ := List.forall_mem_append.mp hleaves
    exact List.forall_mem_cons.mpr
      ⟨not_mem_value hglyph expr hfirst hfront, not_mem_values hglyph exprs hrest hback⟩

end

end Expr

/-- The text of a formula is written with the texts of its leaves, and with glyphs of values. -/
theorem Formula.not_mem_value {c : Char} (hglyph : c ∉ Value.glyphs) {formula : Formula Literal}
    {text : Text} (h : formula.value = .ok text)
    (hleaves : ∀ leaf ∈ Expr.leavesOf formula.arguments, c ∉ leaf.text) : c ∉ text := by
  obtain ⟨values, hvalues, happly⟩ := of_bind_eq_ok h
  exact Expr.not_mem_apply hglyph happly (Expr.not_mem_values hglyph _ hvalues hleaves)

/-! ## Records and snapshots -/

/-- A character stands in no field of a record. -/
def Record.Lacks (c : Char) (record : Record) : Prop :=
  ∀ field ∈ record, c ∉ field

/-- A character stands in no field of a snapshot. -/
def Snapshots.Lacks (c : Char) (snapshots : Snapshots) : Prop :=
  ∀ row record, snapshots.get? row = some record → record.Lacks c

/-- A character stands in no line of a sheet. -/
def Sheet.Lacks (c : Char) (sheet : Sheet) : Prop :=
  ∀ line ∈ sheet.lines, c ∉ line

namespace Record

variable {c : Char} {base earlier edited record : Record} {line value : Text} {column : Nat}

/-- The fields of a line, with their blanks, have no other characters than the line. -/
theorem lacks_rawFields (h : c ∉ line) : (Sheet.rawFields line).Lacks c :=
  fun _ hfield hmem => h ((Text.of_mem_splitOn hfield).2 c hmem)

/-- The fields of a line, trimmed, have no other characters than the line. -/
theorem lacks_fields (h : c ∉ line) : (Sheet.fields line).Lacks c :=
  List.forall_mem_map.mpr fun raw hraw hmem =>
    lacks_rawFields h raw hraw (Text.mem_of_mem_trim hmem)

/-- A merged record has characters of the earlier edits and of the last one. -/
theorem Lacks.merge (hearlier : earlier.Lacks c) (hedited : edited.Lacks c) (base : Record) :
    (merge base earlier edited).Lacks c := by
  intro field hfield
  obtain ⟨place, hplace⟩ := List.mem_iff_getElem?.mp hfield
  rw [getElem?_merge] at hplace
  obtain ⟨first, -, hearlierField⟩ := Option.bind_eq_some_iff.mp hplace
  obtain ⟨second, hsecond, heditedField⟩ := Option.bind_eq_some_iff.mp hearlierField
  obtain ⟨third, hthird, rfl⟩ := Option.map_eq_some_iff.mp heditedField
  unfold mergeField
  dsimp only
  split
  · exact fun hmem => hearlier second (List.mem_of_getElem? hsecond) (Text.mem_of_mem_trim hmem)
  · exact fun hmem => hedited third (List.mem_of_getElem? hthird) (Text.mem_of_mem_trim hmem)

/-- A record with one more field edited has its characters, those of the value, and those of the
earlier edits. -/
theorem Lacks.editedBy {snapshot : Option Record} (hbase : base.Lacks c)
    (hsnapshot : ∀ record, snapshot = some record → record.Lacks c) (hvalue : c ∉ value) :
    (base.editedBy snapshot column value).Lacks c := by
  have hset : Lacks c (base.set column value) := by
    intro field hfield
    rcases List.mem_or_eq_of_mem_set hfield with hmem | rfl
    · exact hbase field hmem
    · exact hvalue
  cases snapshot with
  | none => exact hset
  | some record => exact (hsnapshot record rfl).merge hset base

/-- A field of a record is one of its fields. -/
theorem Lacks.fieldAt {cell : Cell} {number : Int} (h : record.Lacks c)
    (hfield : record.fieldAt cell number = .ok value) : c ∉ value := by
  unfold Record.fieldAt at hfield
  split at hfield
  · cases hfield
  · exact h value (mem_of_signedGet (of_mapError_eq_ok hfield))

end Record

/-- A record of a sheet has no other characters than its line. -/
theorem Sheet.Lacks.staticRecord {c : Char} {sheet : Sheet} {row : Int} {record : Record}
    (h : sheet.Lacks c) (hrecord : sheet.staticRecord row = .ok record) : record.Lacks c := by
  obtain ⟨line, hline, rfl⟩ := exists_line_of_staticRecord hrecord
  exact Record.lacks_fields (h line hline)

/-! ## Cells -/

section Cells

variable {c : Char} {context : Context}

/-- The strings at the leaves of a formula that is filled are those of its text and those of the
cells that it refers to. -/
theorem Formula.not_mem_of_fill (hglyph : c ∉ Value.glyphs) {lookup : Lookup} {line : Int}
    (hkeeps : ∀ cell line, (lookup cell line).Keeps context)
    (hlookup : ∀ cell line value, ((lookup cell line).outcome context).1 = .ok value → c ∉ value)
    {text : Text} (htext : c ∉ text) {formula : Formula Leaf} {filled : Formula Literal}
    (hformula : ofText line text = .ok formula)
    (hfilled : ((formula.fill lookup line).outcome context).1 = .ok filled) :
    ∀ content ∈ Expr.leavesOf filled.arguments, c ∉ content.text := by
  intro content hcontent
  have hfills := (fill_eq_ok_iff hkeeps).mp hfilled
  obtain ⟨leaf, hleaf, hstands⟩ := hfills.exists_leaf_of_mem hcontent
  cases hstands with
  | literal =>
      refine Literal.not_mem_text hglyph ?_
      rintro string rfl hmem
      exact htext (mem_of_mem_string hformula hleaf c hmem)
  | reference hcolumn hvalue => exact Literal.not_mem_text_ofText hglyph (hlookup _ _ _ hvalue)

/-- The value of a text is written with its characters, with those of the cells that it refers to,
and with glyphs of values. -/
theorem Lookup.not_mem_textValue (hglyph : c ∉ Value.glyphs) {lookup : Lookup}
    (hkeeps : ∀ cell line, (lookup cell line).Keeps context)
    (hlookup : ∀ cell line value, ((lookup cell line).outcome context).1 = .ok value → c ∉ value)
    {text value : Text} {line : Int} (htext : c ∉ text)
    (h : ((lookup.textValue text line).outcome context).1 = .ok value) : c ∉ value := by
  cases hbody : Formula.body? text with
  | none =>
      rw [textValue, hbody] at h
      obtain rfl : text = value := Except.ok.inj h
      exact htext
  | some body =>
      obtain ⟨formula, filled, hformula, hfilled, hvalue⟩ :=
        exists_filled_of_textValue hkeeps hbody h
      have hbodytext : c ∉ body := fun hmem => htext (Formula.mem_of_mem_body hbody c hmem)
      exact Formula.not_mem_value hglyph hvalue
        (Formula.not_mem_of_fill hglyph hkeeps hlookup hbodytext hformula hfilled)

namespace Sheet

variable {sheet : Sheet}

/-- What is looked up in a sheet is a field of a snapshot, or the value of a field of the sheet. -/
theorem Lacks.not_mem_lookup (hsheet : sheet.Lacks c) (hsnapshots : context.snapshots.Lacks c)
    {evaluate : Cell → Text → Evaluation Text}
    (hevaluate : ∀ cell text value, c ∉ text →
      ((evaluate cell text).outcome context).1 = .ok value → c ∉ value)
    {cell : Cell} {line : Int} {value : Text}
    (h : ((sheet.lookup evaluate cell line).outcome context).1 = .ok value) : c ∉ value := by
  cases hsnapshot : context.snapshots.get? cell.row with
  | some record =>
      rw [outcome_lookup_of_snapshot hsnapshot] at h
      exact (hsnapshots cell.row record hsnapshot).fieldAt h
  | none =>
      rw [lookup, outcome_bind, outcome_get] at h
      dsimp only at h
      rw [hsnapshot] at h
      obtain ⟨record, hrecord, hnext⟩ := ok_of_bind (keeps_ofExcept _ context) h
      obtain ⟨text, htext, hvalue⟩ := ok_of_bind (keeps_ofExcept _ context) hnext
      exact hevaluate cell text value ((hsheet.staticRecord hrecord).fieldAt htext) hvalue

/-- With no thought of cycles, the value of a cell is written with the characters of its text, of
the sheet and of the snapshots, and with glyphs of values. -/
theorem Lacks.not_mem_unguarded (hglyph : c ∉ Value.glyphs) (hsheet : sheet.Lacks c)
    (hsnapshots : context.snapshots.Lacks c) (budget : Nat) {cell : Cell} {text value : Text}
    (htext : c ∉ text) (h : ((sheet.unguarded budget cell text).outcome context).1 = .ok value) :
    c ∉ value := by
  induction budget generalizing cell text value with
  | zero => cases h
  | succ budget ih =>
      -- The cells that the text refers to are evaluated with the smaller budget.
      rw [unguarded_succ] at h
      refine Lookup.not_mem_textValue hglyph ?_ ?_ htext h
      · exact lookup_keeps fun cell text => unguarded_keeps budget cell text
      · intro cell line found hfound
        exact hsheet.not_mem_lookup hsnapshots (fun _ _ _ htext => ih htext) hfound

end Sheet

/-- The value of a cell is written with the characters of its text, of the sheet and of the
snapshots, and with glyphs of values. -/
theorem Evaluator.not_mem_cellValue (hglyph : c ∉ Value.glyphs) {evaluator : Evaluator}
    (hsheet : evaluator.sheet.Lacks c) (hsnapshots : context.snapshots.Lacks c) {cell : Cell}
    {text value : Text} (htext : c ∉ text)
    (h : ((evaluator.cellValue cell text).outcome context).1 = .ok value) : c ∉ value :=
  hsheet.not_mem_unguarded hglyph hsnapshots evaluator.budget htext
    (Sheet.unguarded_ok_of_cellValue h)

end Cells

end SheetCalc
