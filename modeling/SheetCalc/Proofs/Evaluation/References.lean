import Mathlib.Logic.Relation
import SheetCalc.Proofs.Evaluation.Filling

/-!
# References that were followed

A value of a formula needs the values of all cells that the formula refers to. Whenever the
evaluation of a cell ends with a value, it has followed each reference into a row without a
snapshot with a smaller budget. So no cell with a value lies on a cycle of such references:
this is `HasValueWithin.not_transGen`.
-/

namespace SheetCalc

open Evaluation Relation

/-- A leaf that stands for something has a value in its cell. -/
theorem Leaf.StandsFor.ok_of_cell? {lookup : Lookup} {line : Int} {context : Context} {leaf : Leaf}
    {content : Literal} (h : leaf.StandsFor lookup line context content) {cell : Cell}
    (hcell : leaf.cell? = some cell) :
    ∃ value, ((lookup cell line).outcome context).1 = .ok value := by
  cases h with
  | literal => cases hcell
  | reference hcolumn htext =>
      rw [cell?, hcolumn] at hcell
      obtain rfl := Option.some.inj hcell
      exact ⟨_, htext⟩

/-- A text that has a value has looked up every cell that its formula refers to. -/
theorem Lookup.ok_of_textValue {lookup : Lookup} {text value : Text} {line : Int}
    {context : Context} (hkeeps : ∀ cell line, (lookup cell line).Keeps context)
    (h : ((lookup.textValue text line).outcome context).1 = .ok value) {cell : Cell}
    (hcell : cell ∈ Formula.cellsIn line text) :
    ∃ result, ((lookup cell line).outcome context).1 = .ok result := by
  unfold Formula.cellsIn at hcell
  cases hbody : Formula.body? text with
  | none =>
      rw [hbody] at hcell
      exact absurd hcell List.not_mem_nil
  | some body =>
      obtain ⟨formula, filled, hformula, hfilled, -⟩ := exists_filled_of_textValue hkeeps hbody h
      rw [hbody] at hcell
      dsimp only at hcell
      rw [hformula] at hcell
      obtain ⟨leaf, hleaf, haddress⟩ := List.mem_filterMap.mp hcell
      obtain ⟨content, hstands⟩ :=
        ((Formula.fill_eq_ok_iff hkeeps).mp hfilled).exists_related_of_mem hleaf
      exact hstands.ok_of_cell? haddress

namespace Sheet

variable {sheet : Sheet} {context : Context} {snapshots : Snapshots} {cell other : Cell}

/-- A cell refers to another one: the formula in its text does. -/
def Refers (sheet : Sheet) (cell other : Cell) : Prop :=
  ∃ text, sheet.textAt? cell = some text ∧ other ∈ Formula.cellsIn (cell.row + 1) text

/-- A cell refers to another one whose row has no snapshot, so that the reference leads on to the
text of the other cell. -/
def Follows (sheet : Sheet) (snapshots : Snapshots) (cell other : Cell) : Prop :=
  sheet.Refers cell other ∧ snapshots.get? other.row = none

/-- The evaluation of a cell has a value within a budget. -/
def HasValueWithin (sheet : Sheet) (context : Context) (budget : Nat) (cell : Cell) : Prop :=
  ∃ text value, sheet.textAt? cell = some text ∧
    ((sheet.unguarded budget cell text).outcome context).1 = .ok value

/-- A cell that has a value has followed each of its references with a smaller budget. -/
theorem HasValueWithin.step {budget : Nat} (h : sheet.HasValueWithin context budget cell)
    (hfollows : sheet.Follows context.snapshots cell other) :
    ∃ smaller < budget, sheet.HasValueWithin context smaller other := by
  obtain ⟨text, value, htext, hvalue⟩ := h
  obtain ⟨⟨same, hsame, hmem⟩, hsnapshot⟩ := hfollows
  obtain rfl := Option.some.inj (htext.symm.trans hsame)
  cases budget with
  | zero => cases hvalue
  | succ budget =>
      rw [unguarded_succ] at hvalue
      obtain ⟨result, hresult⟩ := Lookup.ok_of_textValue
        (lookup_keeps fun cell text => unguarded_keeps budget cell text) hvalue hmem
      refine ⟨budget, Nat.lt_succ_self budget, ?_⟩
      cases hcontent : sheet.textAt? other with
      | none =>
          rw [outcome_lookup_of_missing hsnapshot (Formula.addressable_of_mem_cellsIn hmem)
            hcontent] at hresult
          cases hresult
      | some content =>
          rw [outcome_lookup_of_text hsnapshot hcontent] at hresult
          exact ⟨content, result, hcontent, hresult⟩

/-- A cell that has a value has followed every chain of references. -/
theorem HasValueWithin.chain {budget : Nat} (h : sheet.HasValueWithin context budget cell)
    (hchain : TransGen (sheet.Follows context.snapshots) cell other) :
    ∃ smaller < budget, sheet.HasValueWithin context smaller other := by
  induction hchain with
  | single hfollows => exact h.step hfollows
  | tail _ hfollows ih =>
      obtain ⟨middle, hmiddle, hvalue⟩ := ih
      obtain ⟨smaller, hsmaller, hother⟩ := hvalue.step hfollows
      exact ⟨smaller, Nat.lt_trans hsmaller hmiddle, hother⟩

/-- No cell that has a value lies on a cycle of references that are followed. -/
theorem HasValueWithin.not_transGen {budget : Nat}
    (h : sheet.HasValueWithin context budget cell) :
    ¬ TransGen (sheet.Follows context.snapshots) cell cell := by
  intro hcycle
  induction budget using Nat.strongRecOn with
  | ind budget ih =>
      obtain ⟨smaller, hsmaller, hvalue⟩ := h.chain hcycle
      exact ih smaller hsmaller hvalue

end Sheet

end SheetCalc
