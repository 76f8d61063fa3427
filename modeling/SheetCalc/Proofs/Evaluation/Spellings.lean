import SheetCalc.Evaluation.Cell
import SheetCalc.Proofs.Formula.Labels
import SheetCalc.Proofs.Formula.Leafwise

/-!
# How a reference is spelled

A reference has a column label, a row and a text. Evaluation reads the number of the column and the
row, and neither the letters of the label nor the text. So two formulas whose references differ in
their spelling only have the same outcome: `Evaluator.formulaValue_of_alike`.
-/

namespace SheetCalc

open Evaluation

/-- Two leaves are the same, or references to the same cell: to columns with one number and to one
row. -/
inductive Leaf.Alike : Leaf → Leaf → Prop
  | same (leaf : Leaf) : Alike leaf leaf
  | cell {target other : Reference} {column : Nat} :
      Column.index target.column = .ok column → Column.index other.column = .ok column →
      target.row = other.row → Alike (.reference target) (.reference other)

/-- References of formulas in texts are alike when their labels differ in the case of letters, and
what they have in front of their rows in zeros, unless the number of the label is not written. -/
theorem Reference.IsWritable.alike {target other : Reference} (h : target.IsWritable)
    (hnumber : h.label.number < 10 ^ Text.maxDigits)
    (hcase : Text.upper target.column = Text.upper other.column) (hrow : target.row = other.row) :
    Leaf.Alike (.reference target) (.reference other) := by
  have hindex : Column.index other.column = Column.index target.column := by
    rw [Column.index, Column.index, hcase]
  have hcolumn := h.index_eq.trans (Column.logged_of_lt hnumber)
  exact .cell hcolumn (hindex.trans hcolumn) hrow

/-- Leaves that are alike are filled alike. -/
theorem Leaf.Alike.fill_eq {lookup : Lookup} {line : Int} {leaf other : Leaf}
    (h : leaf.Alike other) : leaf.fill lookup line = other.fill lookup line := by
  cases h with
  | same => rfl
  | cell hcolumn hsame hrow => simp only [fill, hcolumn, hsame, hrow]

/-- Formulas whose leaves are alike are filled alike. -/
theorem Formula.fill_eq_of_alike {lookup : Lookup} {line : Int} {formula other : Formula Leaf}
    (h : formula.toExpr.Leafwise Leaf.Alike other.toExpr) :
    formula.fill lookup line = other.fill lookup line := by
  obtain ⟨name, arguments, number⟩ := formula
  obtain ⟨_, others, _⟩ := other
  cases h with
  | call harguments =>
      rw [fill, fill, harguments.traverseAll_eq fun _ _ hleaf => hleaf.fill_eq]

namespace Evaluator

/-- The text of a formula: its references are replaced first, and its calls computed afterwards. -/
def formulaValue (evaluator : Evaluator) (formula : Formula Leaf) (line : Int) :
    Evaluation Text := do
  let filled ← evaluator.fill formula line
  .ofExcept filled.value

/-- Only the addressed cell of a reference matters. Two formulas that are the same but for the
spelling of their references have the same outcome in every context and every line: the same text,
or the same fault, with the same path when it is a cycle. -/
theorem formulaValue_of_alike (evaluator : Evaluator) {formula other : Formula Leaf}
    (h : formula.toExpr.Leafwise Leaf.Alike other.toExpr) (line : Int) (context : Context) :
    (evaluator.formulaValue formula line).outcome context =
      (evaluator.formulaValue other line).outcome context := by
  rw [formulaValue, formulaValue, fill, fill, Formula.fill_eq_of_alike h]

/-- The first cell of row one needs itself. -/
def selfish : Sheet :=
  ⟨["h".toList, "=print(A1)".toList]⟩

/-- A text that refers to it ends with the same cycle in both spellings. The cycle shows the name of
the cell, whatever the text was. -/
theorem formulaValue_of_alike_selfish :
    let formula (target : Reference) : Formula Leaf :=
      ⟨"print".toList, [.array [.leaf (.reference target)]], 7⟩
    let small : Reference := ⟨['a'], 1, "a01".toList⟩
    let capital : Reference := ⟨['A'], 1, "A1".toList⟩
    Formula.ofText 7 "print([a01])".toList = .ok (formula small) ∧
    (formula small).toExpr.Leafwise Leaf.Alike (formula capital).toExpr ∧
    (((Evaluator.ofSheet selfish true).formulaValue (formula small) 7).outcome .fresh).1 =
      .error (.cycle ["A1".toList, "A1".toList] 2) ∧
    ((Evaluator.ofSheet selfish true).formulaValue (formula small) 7).outcome .fresh =
      ((Evaluator.ofSheet selfish true).formulaValue (formula capital) 7).outcome .fresh := by
  intro formula small capital
  have htext : Formula.ofText 7 "print([a01])".toList = .ok (formula small) := by cbv
  have hwritable : small.IsWritable := Formula.isWritable_of_ofText htext List.mem_cons_self
  have hnumber : hwritable.label.number < 10 ^ Text.maxDigits :=
    Column.Label.number_lt_of_length (by decide : (['a'].map Char.toUpper).length ≤ 3038)
  have halike : Leaf.Alike (.reference small) (.reference capital) :=
    hwritable.alike hnumber rfl rfl
  have hformulas : (formula small).toExpr.Leafwise Leaf.Alike (formula capital).toExpr :=
    .call (.cons (.array (.cons (.leaf halike) .nil)) .nil)
  exact ⟨htext, hformulas, by cbv, formulaValue_of_alike _ hformulas 7 .fresh⟩

end Evaluator

end SheetCalc
