import SheetCalc.Proofs.Formula.Parsing

/-!
# The cells of a formula

A formula refers to the cells that its reference leaves address. By the grammar every
reference leaf is one that a name spells, so the rows are counted from one:
`addressable_of_mem_cellsIn` is what later modules use to exclude indices that count from
the end of a list.
-/

namespace SheetCalc

/-- A cell that a formula can refer to: its row is counted from one, its column from zero. -/
structure Cell.Addressable (cell : Cell) : Prop where
  row_pos : 1 ≤ cell.row
  column_nonneg : 0 ≤ cell.column

/-- The coordinates of an addressable cell are natural numbers. -/
theorem Cell.Addressable.exists_natCast {cell : Cell} (h : cell.Addressable) :
    ∃ row column : Nat, cell = ⟨row, column⟩ ∧ 1 ≤ row := by
  obtain ⟨row, column⟩ := cell
  obtain ⟨hrow, hcolumn⟩ := h
  simp only at hrow hcolumn
  refine ⟨row.toNat, column.toNat, ?_, by omega⟩
  rw [Int.toNat_of_nonneg (by omega), Int.toNat_of_nonneg hcolumn]

/-- The cell that a leaf addresses; a literal and a reference without a column address none. -/
def Leaf.cell? : Leaf → Option Cell
  | .literal _ => none
  | .reference target =>
    match Column.index target.column with
    | .ok column => some ⟨target.row, column⟩
    | .error _ => none

/-- The leaf is a literal or a reference that some name writes. -/
def Leaf.IsWritten : Leaf → Prop
  | .literal _ => True
  | .reference target => ∃ name, target.Spells name

namespace Formula

/-- The cells that a formula refers to, from left to right. -/
def cells (formula : Formula Leaf) : List Cell :=
  (Expr.leavesOf formula.arguments).filterMap Leaf.cell?

/-- The cells that the formula in a text refers to. A text that is no formula refers to none. -/
def cellsIn (line : Int) (text : Text) : List Cell :=
  match body? text with
  | none => []
  | some body =>
    match ofText line body with
    | .ok formula => formula.cells
    | .error _ => []

/-- A leaf that a token writes by itself is written. -/
theorem isWritten_of_atom {token : Token} {leaf : Leaf} (h : Grammar.Atom token leaf) :
    leaf.IsWritten := by
  cases h with
  | reference hspells => exact ⟨_, hspells⟩
  | true | false | number | string => trivial

mutual

/-- Each leaf of an expression is written by one of the tokens of the expression. -/
theorem exists_token_of_expression {line : Int} {tokens : List Token} {expr : Expr Leaf} :
    Grammar.Expression line tokens expr →
    ∀ leaf ∈ expr.leaves, ∃ token ∈ tokens, Grammar.Atom token leaf
  | .call (.call hinside) => fun leaf hmem => by
    obtain ⟨token, htoken, hatom⟩ := exists_token_of_items hinside leaf hmem
    exact ⟨token, by simp [htoken], hatom⟩
  | .atom hatom => fun _ hmem => ⟨_, List.mem_cons_self, List.mem_singleton.mp hmem ▸ hatom⟩
  | .array hinside => fun leaf hmem => by
    obtain ⟨token, htoken, hatom⟩ := exists_token_of_items hinside leaf hmem
    exact ⟨token, by simp [htoken], hatom⟩

/-- Each leaf of items is written by one of the tokens of the items. -/
theorem exists_token_of_items {line : Int} {tokens : List Token} {exprs : List (Expr Leaf)} :
    Grammar.Items line tokens exprs →
    ∀ leaf ∈ Expr.leavesOf exprs, ∃ token ∈ tokens, Grammar.Atom token leaf
  | .nil => fun _ hmem => absurd hmem List.not_mem_nil
  | .semicolon hrest => fun leaf hmem => by
    obtain ⟨token, htoken, hatom⟩ := exists_token_of_items hrest leaf hmem
    exact ⟨token, List.mem_cons_of_mem _ htoken, hatom⟩
  | .cons hexpr hrest => fun leaf hmem => by
    rcases List.mem_append.mp hmem with hfirst | hothers
    · obtain ⟨token, htoken, hatom⟩ := exists_token_of_expression hexpr leaf hfirst
      exact ⟨token, List.mem_append_left _ htoken, hatom⟩
    · obtain ⟨token, htoken, hatom⟩ := exists_token_of_items hrest leaf hothers
      exact ⟨token, List.mem_append_right _ htoken, hatom⟩

end

/-- A text that writes a formula has tokens, and they write it as a call. -/
theorem call_of_ofText {line : Int} {text : Text} {formula : Formula Leaf}
    (h : ofText line text = .ok formula) :
    ∃ tokens, Token.list text = .ok tokens ∧ Grammar.Call line tokens formula := by
  unfold ofText at h
  split at h
  · cases h
  · next tokens htokens =>
    exact ⟨tokens, htokens, (ofTokens_eq_ok_iff.mp (of_mapError_eq_ok h)).1⟩

/-- Each leaf of a formula is written by one of the tokens of its text. -/
theorem exists_token_of_ofText {line : Int} {text : Text} {formula : Formula Leaf}
    (h : ofText line text = .ok formula) {leaf : Leaf}
    (hleaf : leaf ∈ Expr.leavesOf formula.arguments) :
    ∃ tokens, Token.list text = .ok tokens ∧ ∃ token ∈ tokens, Grammar.Atom token leaf := by
  obtain ⟨tokens, htokens, hcall⟩ := call_of_ofText h
  exact ⟨tokens, htokens, exists_token_of_expression (.call hcall) leaf hleaf⟩

/-- The leaves of a formula are literals and references that names write. -/
theorem leaves_of_ofText {line : Int} {text : Text} {formula : Formula Leaf}
    (h : ofText line text = .ok formula) :
    ∀ leaf ∈ Expr.leavesOf formula.arguments, leaf.IsWritten := by
  intro leaf hleaf
  obtain ⟨_, -, token, -, hatom⟩ := exists_token_of_ofText h hleaf
  exact isWritten_of_atom hatom

/-- A reference that a name spells has a row counted from one. -/
theorem row_pos_of_spells {name : Text} {target : Reference} (h : target.Spells name) :
    1 ≤ target.row := by
  cases h with
  | mk _ _ hrow => exact Int.ofNat_le.mpr hrow

/-- A leaf that a name writes addresses a cell counted from row one and column zero. -/
theorem addressable_of_cell? {leaf : Leaf} {cell : Cell} (hleaf : leaf.IsWritten)
    (h : leaf.cell? = some cell) : cell.Addressable := by
  cases leaf with
  | literal content => cases h
  | reference target =>
      obtain ⟨name, hspells⟩ := hleaf
      unfold Leaf.cell? at h
      dsimp only at h
      split at h
      · obtain rfl := Option.some.inj h
        exact ⟨row_pos_of_spells hspells, Int.natCast_nonneg _⟩
      · cases h

/-- A formula in a text refers to addressable cells only. -/
theorem addressable_of_mem_cellsIn {line : Int} {text : Text} {cell : Cell}
    (h : cell ∈ cellsIn line text) : cell.Addressable := by
  unfold cellsIn at h
  split at h
  · cases h
  · split at h
    · next hformula =>
      obtain ⟨leaf, hleaf, hcell⟩ := List.mem_filterMap.mp h
      exact addressable_of_cell? (leaves_of_ofText hformula leaf hleaf) hcell
    · cases h

end Formula

end SheetCalc
