import Mathlib.Data.List.Forall2
import SheetCalc.Proofs.Sheet.Cells

/-!
# The names of cells

A report of a circular reference shows cells by their names. A name is a column label and a row,
and its letters end where its row starts, so it is that of one cell: `Cell.name_injective`. The
label of a column is read back by `Column.position`.
-/

namespace SheetCalc

namespace Column

/-- The position, counted from one, of a label in upper case. -/
def position (label : Text) : Nat :=
  label.foldl (fun number c => 26 * number + letterDigit c) 0

/-- The letters that labels are written with, by their codes. -/
theorem isLabelLetter_iff {c : Char} : isLabelLetter c ↔ 65 ≤ c.toNat ∧ c.toNat ≤ 90 := by
  simp only [isLabelLetter, Bool.and_eq_true, decide_eq_true_eq, Char.le_def,
    UInt32.le_iff_toNat_le]
  exact Iff.rfl

/-- The letter of each digit is one that labels are written with, and stands for the digit. -/
theorem digitLetter_spec : ∀ digit < 26,
    isLabelLetter (digitLetter digit) ∧ letterDigit (digitLetter digit) = digit + 1 := by
  decide

/-- A letter at the end of a label counts once, and the letters before it twenty-six times. -/
theorem position_append_singleton (label : Text) (c : Char) :
    position (label ++ [c]) = 26 * position label + letterDigit c :=
  List.foldl_append

/-- The label at a position has that position. -/
theorem position_letters (number : Nat) : position (letters number) = number := by
  fun_induction letters number with
  | case1 => rfl
  | case2 number hpos ih =>
      have hdigit := (digitLetter_spec _ (Nat.mod_lt (number - 1) (by decide : 26 > 0))).2
      rw [position_append_singleton, ih, hdigit]
      omega

/-- Labels are written with capital letters. -/
theorem isLabelLetter_of_mem_letters {number : Nat} {c : Char} (h : c ∈ letters number) :
    isLabelLetter c := by
  fun_induction letters number with
  | case1 => cases h
  | case2 number hpos ih =>
      rcases List.mem_append.mp h with hfront | hlast
      · exact ih hfront
      · rw [List.mem_singleton.mp hlast]
        exact (digitLetter_spec _ (Nat.mod_lt (number - 1) (by decide : 26 > 0))).1

end Column

namespace Text

/-- A natural number is written with digits. -/
theorem isDigit_of_mem_ofNat {number : Nat} {c : Char} (h : c ∈ ofNat number) : c.isDigit :=
  Nat.isDigit_of_mem_toDigits (by decide) (by decide) h

/-- The digits of a natural number denote it. -/
theorem toNat_ofNat (number : Nat) : toNat (ofNat number) = number :=
  Nat.ofDigitChars_ten_toDigits

/-- Only a negative integer is written with a minus sign. -/
theorem minus_not_mem_ofNat (number : Nat) : '-' ∉ ofNat number := by
  intro hmem
  exact absurd (isDigit_of_mem_ofNat hmem) (by decide)

/-- Integers that are written alike are equal. -/
theorem ofInt_injective {number other : Int} (h : ofInt number = ofInt other) :
    number = other := by
  cases number with
  | ofNat number =>
      cases other with
      | ofNat other =>
          have hequal : number = other := by
            rw [← toNat_ofNat number, ← toNat_ofNat other]
            exact congrArg toNat h
          rw [hequal]
      | negSucc other =>
          have hminus : '-' ∈ ofNat number := by
            rw [show ofNat number = '-' :: ofNat (other + 1) from h]
            exact List.mem_cons_self
          exact absurd hminus (minus_not_mem_ofNat number)
  | negSucc number =>
      cases other with
      | ofNat other =>
          have hminus : '-' ∈ ofNat other := by
            rw [show ofNat other = '-' :: ofNat (number + 1) from h.symm]
            exact List.mem_cons_self
          exact absurd hminus (minus_not_mem_ofNat other)
      | negSucc other =>
          have hequal : number + 1 = other + 1 := by
            rw [← toNat_ofNat (number + 1), ← toNat_ofNat (other + 1)]
            exact congrArg toNat (List.cons.inj h).2
          rw [Nat.succ.inj hequal]

/-- A written integer does not go on with the letters of a label. -/
theorem not_isLabelLetter_head_ofInt (number : Int) :
    ∀ c ∈ (ofInt number).head?, ¬ Column.isLabelLetter c := by
  intro c hc
  cases number with
  | ofNat number =>
      have hcode := Token.isDigit_iff.mp (isDigit_of_mem_ofNat (List.mem_of_mem_head? hc))
      rw [Column.isLabelLetter_iff]
      omega
  | negSucc number =>
      obtain rfl : '-' = c := Option.some.inj hc
      decide

end Text

/-- The name of a cell is its column label, without a letter behind it, and its row. -/
theorem Cell.of_name_eq_ok {cell : Cell} {name : Text} (h : cell.name = .ok name) :
    0 ≤ cell.column ∧ name = Column.letters (cell.column + 1).toNat ++ Text.ofInt cell.row := by
  unfold Cell.name Column.label at h
  split at h
  · next hlabel => exact ⟨by omega, (Except.ok.inj h).symm⟩
  · cases h

/-- A name is that of one cell. -/
theorem Cell.name_injective {cell other : Cell} {name : Text} (h : cell.name = .ok name)
    (hother : other.name = .ok name) : cell = other := by
  obtain ⟨hcolumn, hname⟩ := of_name_eq_ok h
  obtain ⟨hcolumn', hname'⟩ := of_name_eq_ok hother
  have hletters (number : Nat) : ∀ c ∈ Column.letters number, Column.isLabelLetter c :=
    fun c => Column.isLabelLetter_of_mem_letters
  have hrow (row : Int) := Text.not_isLabelLetter_head_ofInt row
  have hlabels : Column.letters (cell.column + 1).toNat = Column.letters (other.column + 1).toNat := by
    rw [← Text.takeWhile_append_of_head (hletters _) (hrow cell.row), ← hname, hname']
    exact Text.takeWhile_append_of_head (hletters _) (hrow other.row)
  have hrows : Text.ofInt cell.row = Text.ofInt other.row := by
    rw [← Text.dropWhile_append_of_head (hletters _) (hrow cell.row), ← hname, hname']
    exact Text.dropWhile_append_of_head (hletters _) (hrow other.row)
  have hplaces := congrArg Column.position hlabels
  rw [Column.position_letters, Column.position_letters] at hplaces
  obtain ⟨row, column⟩ := cell
  obtain ⟨row', column'⟩ := other
  obtain rfl : row = row' := Text.ofInt_injective hrows
  obtain rfl : column = column' := by
    dsimp only at hplaces hcolumn hcolumn'
    omega
  rfl

/-- An action has some results on a list when it has them on the entries, one by one. -/
theorem mapM_eq_ok_iff {ε α β : Type} {f : α → Except ε β} {list : List α} {results : List β} :
    list.mapM f = .ok results ↔ List.Forall₂ (fun entry result => f entry = .ok result) list results := by
  induction list generalizing results with
  | nil =>
      rw [List.mapM_nil, List.forall₂_nil_left_iff]
      exact ⟨fun h => (Except.ok.inj h).symm, fun h => h ▸ rfl⟩
  | cons first rest ih =>
      rw [List.mapM_cons, List.forall₂_cons_left_iff]
      cases hfirst : f first with
      | error cause => simp [bind, Except.bind]
      | ok result =>
          simp only [← ih]
          cases rest.mapM f <;> simp [bind, Except.bind, pure, Except.pure, eq_comm]

/-- Cells with the same names are the same cells. -/
theorem Cell.names_injective {cells others : List Cell} {names : List Text}
    (h : cells.mapM Cell.name = .ok names) (hothers : others.mapM Cell.name = .ok names) :
    cells = others := by
  have hunique : Relator.LeftUnique fun cell name => Cell.name cell = .ok name :=
    fun _ _ _ => Cell.name_injective
  exact hunique.forall₂ (mapM_eq_ok_iff.mp h) (mapM_eq_ok_iff.mp hothers)

end SheetCalc
