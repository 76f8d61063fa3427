import Mathlib
import SheetCalc.Proofs.Evaluation.Trail
import SheetCalc.Proofs.Pass.Causes
import SheetCalc.Proofs.Sheet.Columns

/-!
# Faults that come out

With cycles detected, the evaluation of a text and the pass over a sheet blame a text, or report a
circular reference. Main theorem: `reported_iff_named`. Two kinds of faults are not reported. A row
with too many digits is not read, and the formula with this row is to blame. The report of a
circular reference names all cells on the way, so it fails where one of them stands in a column
without a name.

Evaluations and trees nest without a bound here: an evaluation that runs out of stack is not among
the faults.
-/

namespace SheetCalc

open Evaluation

/-- A fault that the evaluation of a text that is given comes out with, or the pass over the sheet,
when it starts in a fresh context and cycles are detected. -/
inductive Sheet.Raises (sheet : Sheet) : Option Text → Fault → Prop
  | text {text : Text} {line : Int} {fault : Fault} :
      (((Evaluator.ofSheet sheet true).textValue text line).outcome .fresh).1 = .error fault →
      Raises sheet (some text) fault
  | pass {fault : Fault} :
      ((Evaluator.ofSheet sheet true).pass .fresh).fault = some fault → Raises sheet none fault

/-- The formula in a text has a name that ends with the given number of digits, and they are more
than are read. -/
def Formula.HoldsLongRow (text : Text) (digits : Nat) : Prop :=
  ∃ body tokens name, body? text = some body ∧ Token.list body = .ok tokens ∧
    .identifier name ∈ tokens ∧ Reference.HasLongRow name digits

namespace Sheet

variable {sheet : Sheet} {given : Option Text}

/-- The fault is plain, or reports a cycle of references. -/
def PlainOrCircular (sheet : Sheet) (fault : Fault) : Prop :=
  fault.IsPlain ∨ ∃ trail cell, sheet.ClosesCycle trail cell ∧
    fault = trail.cycle cell (cell.row + 1)

/-- A cell that is evaluated first raises plain faults and reports cycles of references. -/
theorem cellValue_raisesOnly {cell : Cell} {text : Text} (htext : sheet.textAt? cell = some text)
    {context : Context} (htrail : context.trail = []) :
    RelatedAt (RaisesOnly sheet.PlainOrCircular) context context
      ((Evaluator.ofSheet sheet true).cellValue cell text)
      ((Evaluator.ofSheet sheet true).cellValue cell text) := by
  refine guarded_raisesOnly_of_nil (fun _ => .inl) (Nat.le_succ sheet.cellCount) htext htrail ?_
  intro trail last _ hcloses
  exact .inr ⟨trail, last, hcloses, rfl⟩

/-- What is raised is plain, or reports a cycle of references. -/
theorem Raises.plainOrCircular {fault : Fault} (h : sheet.Raises given fault) :
    sheet.PlainOrCircular fault := by
  cases h with
  | @text text line _ hfault =>
    have hraises : RelatedAt (RaisesOnly sheet.PlainOrCircular) .fresh .fresh
        ((Evaluator.ofSheet sheet true).textValue text line)
        ((Evaluator.ofSheet sheet true).textValue text line) :=
      .sheetText (congruence_raisesOnly fun _ => .inl) rfl fun _ _ _ hcontent _ =>
        cellValue_raisesOnly hcontent rfl
    exact hraises.results fault hfault
  | pass hfault =>
    obtain ⟨moment, hreach, line, raw, hline, hraw, hfails⟩ := fails_of_pass hfault
    have hraises := cellValue_raisesOnly (textAt?_of_visited hline hraw) (trail_of_reaches hreach)
    exact hraises.results fault hfails

/-- What is raised by a formula is caused by it. -/
theorem Raises.causedIn {fault : Fault} (h : sheet.Raises given fault) (hown : fault.IsOfFormula) :
    sheet.CausedIn given fault := by
  cases h with
  | text hfault => exact Evaluator.causedIn_of_textValue hown hfault
  | pass hfault => exact causedIn_of_pass hown hfault

/-- Digits that are not read are those of a row in a formula. -/
theorem CausedIn.exists_holdsLongRow {cause : DigitLimit}
    (h : sheet.CausedIn given (.conversion cause)) :
    ∃ text digits, cause = .read digits ∧ Text.maxDigits < digits ∧
      (given = some text ∨ ∃ cell, sheet.textAt? cell = some text) ∧
      Formula.HoldsLongRow text digits := by
  obtain ⟨text, body, lookup, context, line, hplace, hbody, hcauses⟩ := h
  cases hcauses with
  | conversion htokens hstops =>
      obtain ⟨name, digits, hmem, hlong, rfl⟩ := Formula.blamesRow_of_ofTokens hstops
      exact ⟨text, digits, rfl, hlong.lt, hplace, body, _, name, hbody, htokens, hmem, hlong⟩

/-- Every fault that comes out blames a text and is reported, or it is one of two others. The digits
of a row were not read: then a formula, in the text that was given or in a cell, has a row with so
many digits. Or a circular reference was detected: this is reported as a cycle if and only if no
cell on the way to it lies in a column after `ZZZ`. -/
theorem reported_iff_named (sheet : Sheet) (given : Option Text) (fault : Fault)
    (h : sheet.Raises given fault) :
    (fault.IsPlain ∧ fault.isReported = true) ∨
    (∃ text digits, fault = .conversion (.read digits) ∧ Text.maxDigits < digits ∧
      (given = some text ∨ ∃ cell, sheet.textAt? cell = some text) ∧
      Formula.HoldsLongRow text digits) ∨
    ∃ trail cell, sheet.ClosesCycle trail cell ∧
      fault = trail.cycle cell (cell.row + 1) ∧
      ((∃ path, fault = .cycle path (cell.row + 1)) ↔
        ∀ entered ∈ trail, entered.column < 18278) := by
  rcases h.plainOrCircular with hplain | ⟨trail, cell, hcloses, rfl⟩
  · cases fault with
    | lexical | grammar | evaluation => exact .inl ⟨hplain, rfl⟩
    | conversion cause =>
        obtain ⟨text, digits, rfl, hrow⟩ := (h.causedIn (.inr ⟨cause, rfl⟩)).exists_holdsLongRow
        exact .inr (.inl ⟨text, digits, rfl, hrow⟩)
    | cycle | column | outOfRange | access | endless => exact absurd hplain id
  · exact .inr (.inr ⟨trail, cell, hcloses, rfl, hcloses.exists_cycle_iff (cell.row + 1)⟩)

/-- A cell that refers to itself. -/
def reflexive : Sheet :=
  ⟨["h".toList, "=print(A1)".toList]⟩

/-- A circular reference in column `A` is reported as a cycle. -/
theorem reported_iff_named_reflexive :
    reflexive.Raises none (.cycle ["A1".toList, "A1".toList] 2) ∧
    ∃ trail cell, reflexive.ClosesCycle trail cell ∧ ∀ entered ∈ trail, entered.column < 18278 := by
  have hraises : reflexive.Raises none (.cycle ["A1".toList, "A1".toList] 2) := .pass (by cbv)
  have hreported := reported_iff_named reflexive none (.cycle ["A1".toList, "A1".toList] 2) hraises
  refine ⟨hraises, ?_⟩
  rcases hreported with ⟨hplain, -⟩ | ⟨_, _, hfault, -⟩ | ⟨trail, cell, hcloses, hfault, hnamed⟩
  · exact absurd hplain id
  · cases hfault
  · have hpath : ∃ path, Fault.cycle ["A1".toList, "A1".toList] 2 = .cycle path (cell.row + 1) := by
      unfold Trail.cycle at hfault
      split at hfault
      · exact ⟨_, hfault⟩
      · cases hfault
    exact ⟨trail, cell, hcloses, hnamed.mp hpath⟩

/-- A header, and a line with nothing but a text behind empty fields. -/
def behind (count : Nat) (text : Text) : Sheet :=
  ⟨["h".toList, Text.join "," (List.replicate count [] ++ [text])]⟩

/-- A text without a comma is the text of its cell, trimmed. -/
theorem textAt?_behind (count : Nat) {text : Text} (h : ',' ∉ text) :
    (behind count text).textAt? ⟨1, count⟩ = some (Text.trim text) := by
  have hfields : rawFields (Text.join "," (List.replicate count [] ++ [text])) =
      List.replicate count [] ++ [text] := by
    refine List.splitOn_intercalate ',' ?_ (List.append_ne_nil_of_right_ne_nil _ nofun)
    intro field hmem
    rcases List.mem_append.mp hmem with hempty | htext
    · rw [List.eq_of_mem_replicate hempty]
      exact List.not_mem_nil
    · rwa [List.mem_singleton.mp htext]
  have hline : (behind count text).lines[1]? =
      some (Text.join "," (List.replicate count [] ++ [text])) := rfl
  show (behind count text).textAt? ⟨(1 : Nat), count⟩ = _
  rw [textAt?_natCast, hline, Option.bind_some, fields, hfields]
  simp

/-- The first cell whose column has no name. -/
def unnamedCell : Cell :=
  ⟨1, 18278⟩

/-- A formula that refers to the first cell whose column has no name. -/
def unnamedText : Text :=
  "=print(AAAA1)".toList

/-- The first cell whose column has no name, referring to itself. -/
def unnamed : Sheet :=
  behind 18278 unnamedText

/-- The formula has the fault of its reference. -/
theorem outcome_textValue_unnamed {lookup : Lookup} {line : Int} {context : Context}
    {fault : Fault} (h : (lookup unnamedCell line).outcome context = (.error fault, context)) :
    (lookup.textValue unnamedText line).outcome context = (.error fault, context) := by
  have hbody : Formula.body? unnamedText = some "print(AAAA1)".toList := by cbv
  have hformula : Formula.ofText line "print(AAAA1)".toList =
      .ok ⟨"print".toList, [.leaf (.reference ⟨"AAAA".toList, 1, "AAAA1".toList⟩)], line⟩ := by
    cbv
  refine Lookup.outcome_textValue_of_leaf hbody hformula ?_
  rw [Leaf.fill, Column.index_AAAA]
  show outcome (lookup unnamedCell line >>= fun content => pure (Literal.ofText content)) context =
    _
  rw [outcome_bind, h]

/-- The cell has its text. -/
theorem textAt?_unnamed : unnamed.textAt? unnamedCell = some unnamedText :=
  textAt?_behind 18278 (by decide)

/-- The evaluation of the cell comes to the cell again. -/
theorem outcome_guarded_unnamed (budget : Nat) :
    (unnamed.guarded (budget + 1) unnamedCell unnamedText).outcome .fresh =
      (.error (Trail.cycle [unnamedCell] unnamedCell 2), .fresh) := by
  let pushed := Context.fresh.push unnamedCell
  let body := Lookup.textValue (unnamed.lookup (unnamed.guarded budget)) unnamedText 2
  have hmem : unnamedCell ∈ pushed.trail := List.mem_singleton_self _
  have hagain : (unnamed.guarded budget unnamedCell unnamedText).outcome pushed =
      (.error (Trail.cycle [unnamedCell] unnamedCell 2), pushed) := by
    cases budget with
    | zero =>
      rw [guarded_zero]
      exact outcome_onTrail_of_mem 2 _ hmem
    | succ budget =>
      rw [guarded_succ]
      exact outcome_onTrail_of_mem 2 _ hmem
  have hlookup : (unnamed.lookup (unnamed.guarded budget) unnamedCell 2).outcome pushed =
      (.error (Trail.cycle [unnamedCell] unnamedCell 2), pushed) :=
    (outcome_lookup_of_text rfl textAt?_unnamed).trans hagain
  have hbody : body.outcome pushed =
      (.error (Trail.cycle [unnamedCell] unnamedCell 2), pushed) :=
    outcome_textValue_unnamed hlookup
  have hentered : (onTrail unnamedCell 2 body).outcome .fresh = ((body.outcome pushed).1, .fresh) :=
    outcome_onTrail_of_keeps 2 List.not_mem_nil (congrArg Prod.snd hbody)
  rw [hbody] at hentered
  exact hentered

/-- With cycles detected, the cells that a formula refers to are evaluated on the trail. -/
theorem lookup_ofSheet (sheet : Sheet) : (Evaluator.ofSheet sheet true).lookup =
    sheet.lookup (sheet.guarded (sheet.cellCount + 1)) := rfl

/-- A circular reference in the column after `ZZZ` is not reported: its column has no name. -/
theorem unnamed_not_reported :
    ¬ ∀ given fault, unnamed.Raises given fault → fault.isReported = true := by
  intro h
  have hlookup : ((Evaluator.ofSheet unnamed true).lookup unnamedCell 2).outcome .fresh =
      (.error (Trail.cycle [unnamedCell] unnamedCell 2), .fresh) := by
    rw [lookup_ofSheet]
    exact (outcome_lookup_of_text rfl textAt?_unnamed).trans
      (outcome_guarded_unnamed unnamed.cellCount)
  have htext : ((Evaluator.ofSheet unnamed true).textValue unnamedText 2).outcome .fresh =
      (.error (.column (.invalidPosition 18279)), .fresh) :=
    outcome_textValue_unnamed hlookup
  have hraises : unnamed.Raises (some unnamedText) (.column (.invalidPosition 18279)) :=
    .text (congrArg Prod.fst htext)
  exact absurd (h _ _ hraises) (by decide)

end Sheet

end SheetCalc
