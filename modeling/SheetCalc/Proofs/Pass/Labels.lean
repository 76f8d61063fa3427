import SheetCalc.Proofs.Formula.Labels
import SheetCalc.Proofs.Pass.Causes

/-!
# References without a column

A reference whose label is no label of a column is a fault of its own. The references of a formula
in a text all have a label, so this fault is left to one case: the number of the label has too many
digits. Main theorem: `Evaluator.references_wellFormed`. Up to 3038 letters a label never has such a
number, and from 3040 letters on it always has, so there are texts that end with this fault:
`Evaluator.overlong_has_no_column` evaluates one.
-/

namespace SheetCalc

open Evaluation

/-- The fault of a reference without a column. -/
def Fault.IsInvalidColumn (fault : Fault) : Prop :=
  ∃ label name line, fault = .evaluation (.invalidColumn label name) line

/-- The fault of a reference without a column is that of a formula. -/
theorem Fault.IsInvalidColumn.isOfFormula {fault : Fault} (h : fault.IsInvalidColumn) :
    fault.IsOfFormula := by
  obtain ⟨label, name, line, rfl⟩ := h
  exact .inl trivial

/-- The fault of a writable reference whose label has a number with too many digits. -/
def Fault.IsOverlongColumn (fault : Fault) : Prop :=
  ∃ (target : Reference) (h : target.IsWritable) (line : Int),
    fault = .evaluation (.invalidColumn target.column target.text) line ∧
      10 ^ Text.maxDigits ≤ h.label.number

/-- The column of a writable reference has an index unless the number of its label has too many
digits. -/
theorem Reference.IsWritable.exists_index_iff {target : Reference} (h : target.IsWritable) :
    (∃ column, Column.index target.column = .ok column) ↔ h.label.number < 10 ^ Text.maxDigits := by
  rw [h.index_eq]
  by_cases hshort : h.label.number < 10 ^ Text.maxDigits
  · exact iff_of_true ⟨_, Column.logged_of_lt hshort⟩ hshort
  · rw [Column.logged_of_le (Nat.le_of_not_lt hshort)]
    exact iff_of_false nofun hshort

/-- A formula in a text causes the fault of a reference without a column only when the number of the
label has too many digits. -/
theorem Formula.Causes.isOverlongColumn {lookup : Lookup} {context : Context} {line : Int}
    {body : Text} {fault : Fault} (h : Causes lookup context line body fault)
    (hinvalid : fault.IsInvalidColumn) : fault.IsOverlongColumn := by
  obtain ⟨label, name, number, rfl⟩ := hinvalid
  cases h with
  | @invalidColumn formula target cause hformula htarget hcolumn =>
      have hwritable := isWritable_of_ofText hformula htarget
      refine ⟨target, hwritable, line, rfl, Nat.le_of_not_lt fun hshort => ?_⟩
      obtain ⟨column, hindex⟩ := hwritable.exists_index_iff.mpr hshort
      cases hcolumn.symm.trans hindex

/-- The fault of a reference without a column is caused in a sheet only when the number of the label
has too many digits. -/
theorem Sheet.CausedIn.isOverlongColumn {sheet : Sheet} {given : Option Text} {fault : Fault}
    (h : sheet.CausedIn given fault) (hinvalid : fault.IsInvalidColumn) :
    fault.IsOverlongColumn := by
  obtain ⟨text, body, lookup, context, line, -, -, hcauses⟩ := h
  exact hcauses.isOverlongColumn hinvalid

namespace Evaluator

/-- References from text are well formed. A reference of a formula in a text, at any depth, has a
column of ASCII letters, a row counted from one, and for its text the column followed by digits that
denote the row; and the column has an index unless the number of its label has too many digits. So
when the evaluation of a text or of a cell, or a pass, ends with the fault of a reference without a
column, in any context, then this reference has such a label. -/
theorem references_wellFormed (evaluator : Evaluator) (context : Context) :
    (∀ line text formula, Formula.ofText line text = .ok formula →
      ∀ target, .reference target ∈ formula.toExpr.leaves →
        ∃ h : target.IsWritable, (∃ column, Column.index target.column = .ok column) ↔
          h.label.number < 10 ^ Text.maxDigits) ∧
    ∀ fault : Fault, fault.IsInvalidColumn →
      ((∃ text line, ((evaluator.textValue text line).outcome context).1 = .error fault) ∨
        (∃ cell text, ((evaluator.cellValue cell text).outcome context).1 = .error fault) ∨
        (evaluator.pass context).fault = some fault) → fault.IsOverlongColumn := by
  refine ⟨fun line text formula hformula target htarget => ?_, fun fault hinvalid hends => ?_⟩
  · have hwritable := Formula.isWritable_of_ofText hformula htarget
    exact ⟨hwritable, hwritable.exists_index_iff⟩
  · have hown := hinvalid.isOfFormula
    rcases hends with ⟨text, line, htext⟩ | ⟨cell, text, hcell⟩ | hpass
    · exact (causedIn_of_textValue hown htext).isOverlongColumn hinvalid
    · exact (causedIn_of_cellValue hown hcell).isOverlongColumn hinvalid
    · exact (Sheet.causedIn_of_pass hown hpass).isOverlongColumn hinvalid

/-- A reference in an array, with a small letter and a zero in front of its row. -/
theorem references_wellFormed_nested :
    let target : Reference := ⟨['a'], 1, "a01".toList⟩
    Formula.ofText 2 "print([a01])".toList =
      .ok ⟨"print".toList, [.array [.leaf (.reference target)]], 2⟩ ∧
    target.IsWritable ∧ ∃ column, Column.index target.column = .ok column := by
  intro target
  have hformula : Formula.ofText 2 "print([a01])".toList =
      .ok ⟨"print".toList, [.array [.leaf (.reference target)]], 2⟩ := by cbv
  obtain ⟨hreferences, -⟩ := references_wellFormed (Evaluator.ofSheet ⟨[]⟩ true) .fresh
  obtain ⟨hwritable, hindex⟩ := hreferences 2 _ _ hformula target List.mem_cons_self
  have hlength : hwritable.label.text.length ≤ 3038 := by
    show (target.column.map Char.toUpper).length ≤ 3038
    decide
  exact ⟨hformula, hwritable, hindex.mpr (Column.Label.number_lt_of_length hlength)⟩

/-- A reference to row five, with a label that has no index. -/
def overlongReference : Reference :=
  ⟨Column.overlong, 5, Column.overlong ++ ['5']⟩

/-- A formula with this reference. -/
def overlongFormula : Formula Leaf :=
  ⟨"print".toList, [.leaf (.reference overlongReference)], 1⟩

/-- A formula in a text with a reference whose column has no index, and which is evaluated to the
fault of a reference without a column. -/
theorem overlong_has_no_column :
    let source := overlongFormula.toExpr.source
    Formula.ofText 1 source = .ok overlongFormula ∧
      (¬ ∃ column, Column.index overlongReference.column = .ok column) ∧
      (((Evaluator.ofSheet ⟨["h".toList, "7".toList]⟩ true).textValue ('=' :: source) 1).outcome
        .fresh).1 = .error (.evaluation
          (.invalidColumn overlongReference.column overlongReference.text) 1) := by
  intro source
  have hindex : Column.index overlongReference.column = .error (.conversion .written) :=
    Column.index_of_length Column.isAlpha_of_mem_overlong
      (Nat.le_of_eq List.length_replicate.symm)
  have hreference : overlongReference.IsWritable :=
    ⟨List.cons_ne_nil _ _, Column.isAlpha_of_mem_overlong, by decide, ['5'],
      List.all_eq_true.mp (by decide), by decide, rfl⟩
  have hwritable : overlongFormula.toExpr.IsWritable :=
    ⟨.of_all rfl (by decide), hreference, trivial⟩
  -- The label is as long as it is, but the row has one digit.
  have hshort : overlongFormula.HasShortRows := by
    intro leaf hmem
    obtain rfl := List.mem_singleton.mp hmem
    show (List.drop Column.overlong.length (Column.overlong ++ ['5'])).length ≤ Text.maxDigits
    rw [List.drop_left]
    decide
  have hformula : Formula.ofText 1 source = .ok overlongFormula :=
    Formula.ofText_source_of_short 1 hwritable hshort
  refine ⟨hformula, fun ⟨column, hsome⟩ => ?_, ?_⟩
  · cases hindex.symm.trans hsome
  · have hleaf (lookup : Lookup) :
        (Leaf.fill lookup 1 (.reference overlongReference)).outcome .fresh =
          (.error (.evaluation
            (.invalidColumn overlongReference.column overlongReference.text) 1), .fresh) := by
      rw [Leaf.fill, hindex]
      rfl
    exact congrArg Prod.fst
      (Lookup.outcome_textValue_of_leaf (Formula.body?_source hwritable) hformula (hleaf _))

end Evaluator

end SheetCalc
