import SheetCalc.Formula.Reference
import SheetCalc.Proofs.Formula.Lexemes

/-!
# Names of cells

A name that refers to a cell is a column of letters and the digits of a row. `Reference.Spells` says
which reference a name spells, however many digits there are, and `Reference.HasLongRow` that they
are more than are read. `Reference.ofName_eq_ok_iff` and `Reference.ofName_eq_conversion_iff` are
what reading a name can do with these two.
-/

namespace SheetCalc

open Text (isLetter)

/-! ## Letters and digits -/

namespace Text

/-- What holds of the ASCII characters one by one holds of every character with such a code. -/
theorem of_ascii {P : Char → Prop} (h : ∀ code < 128, P (Char.ofNat code)) {c : Char}
    (hcode : c.toNat < 128) : P c := by
  have hc := h c.toNat hcode
  rwa [Char.ofNat_toNat] at hc

/-- ASCII letters have ASCII codes. -/
theorem toNat_lt_of_isAlpha {c : Char} (h : c.isAlpha) : c.toNat < 128 :=
  Token.toNat_lt_of_startsName (by simp [Token.startsName, h])

/-- The ASCII letters are letters. -/
theorem isLetter_of_isAlpha {c : Char} (h : c.isAlpha) : isLetter c := by
  rwa [isLetter_of_lt (toNat_lt_of_isAlpha h)]

/-- A digit is no letter. -/
theorem not_isLetter_of_isDigit {c : Char} (h : c.isDigit) : ¬ isLetter c := by
  have hcode := Token.isDigit_iff.mp h
  rw [isLetter_of_lt (by omega)]
  intro hletter
  have hstart : Token.startsName c := by simp [Token.startsName, hletter]
  exact (Token.of_startsName hstart).2.2 (.inl h)

end Text

/-! ## References -/

namespace Reference

/-- A name spells a reference: letters, then the digits of a row counted from one. Digits are no
letters, so the column is the longest front part of letters. -/
inductive Spells : Text → Reference → Prop
  | mk {column digits : Text} : (∀ c ∈ column, isLetter c) → (∀ c ∈ digits, c.isDigit) →
      1 ≤ Text.toNat digits →
      Spells (column ++ digits) ⟨column, Text.toNat digits, column ++ digits⟩

/-- A name ends with the given number of digits after its letters, and they are more than are
read. -/
inductive HasLongRow : Text → Nat → Prop
  | mk {column digits : Text} : (∀ c ∈ column, isLetter c) → (∀ c ∈ digits, c.isDigit) →
      Text.maxDigits < digits.length → HasLongRow (column ++ digits) digits.length

/-- The digits of a reference, zeros in front included. -/
def digits (target : Reference) : Text :=
  target.text.drop target.column.length

/-- The row of a reference has no more digits than are read. -/
def IsShort (target : Reference) : Prop :=
  target.digits.length ≤ Text.maxDigits

variable {name column digits : Text}

/-- What reading a name makes of its letters and its digits. -/
theorem ofName_append (hcolumn : ∀ c ∈ column, isLetter c) (hdigits : ∀ c ∈ digits, c.isDigit)
    (hne : digits ≠ []) :
    ofName (column ++ digits) =
      match Text.readNat digits with
      | .error cause => .error (.conversion cause)
      | .ok 0 => .error (.grammar (.rowZero (column ++ digits)))
      | .ok row => .ok ⟨column, row, column ++ digits⟩ := by
  have hhead : ∀ c ∈ digits.head?, ¬ isLetter c := fun c hc =>
    Text.not_isLetter_of_isDigit (hdigits c (List.mem_of_mem_head? hc))
  have hall : digits.all Char.isDigit := List.all_eq_true.mpr hdigits
  unfold ofName
  rw [Text.takeWhile_append_of_head hcolumn hhead, Text.dropWhile_append_of_head hcolumn hhead]
  exact if_neg (not_or.mpr ⟨hne, not_not.mpr hall⟩)

/-- A name is letters and digits, or it has no row. -/
theorem noRow_or_exists_append (name : Text) :
    (∃ column rest, ofName name = .error (.grammar (.noRow name column rest))) ∨
      ∃ column digits, name = column ++ digits ∧ (∀ c ∈ column, isLetter c) ∧
        (∀ c ∈ digits, c.isDigit) ∧ digits ≠ [] := by
  by_cases hnone : name.dropWhile isLetter = [] ∨ ¬ (name.dropWhile isLetter).all Char.isDigit
  · refine .inl ⟨name.takeWhile isLetter, name.dropWhile isLetter, ?_⟩
    unfold ofName
    exact if_pos hnone
  · rw [not_or, not_not, List.all_eq_true] at hnone
    refine .inr ⟨_, _, List.takeWhile_append_dropWhile.symm, ?_, hnone.2, hnone.1⟩
    exact fun c hc => List.mem_takeWhile_imp hc

/-- A name is read as the reference that it spells, if its row is short. -/
theorem ofName_eq_ok_iff {target : Reference} :
    ofName name = .ok target ↔ Spells name target ∧ target.IsShort := by
  constructor
  · intro h
    rcases noRow_or_exists_append name with ⟨_, _, hnone⟩ |
      ⟨column, digits, rfl, hcolumn, hdigits, hne⟩
    · cases hnone.symm.trans h
    · rw [ofName_append hcolumn hdigits hne, Text.readNat] at h
      by_cases hshort : digits.length ≤ Text.maxDigits
      · rw [if_pos hshort] at h
        cases hrow : Text.toNat digits with
        | zero =>
          rw [hrow] at h
          cases h
        | succ row =>
          rw [hrow] at h
          obtain rfl := Except.ok.inj h
          have hspells := Spells.mk hcolumn hdigits (by omega)
          rw [hrow] at hspells
          refine ⟨hspells, ?_⟩
          rwa [IsShort, Reference.digits, List.drop_left]
      · rw [if_neg hshort] at h
        cases h
  · rintro ⟨hspells, hshort⟩
    cases hspells with
    | @mk column digits hcolumn hdigits hrow =>
      have hne : digits ≠ [] := by
        rintro rfl
        exact absurd hrow (by decide)
      rw [IsShort, Reference.digits, List.drop_left] at hshort
      obtain ⟨row, hsucc⟩ := Nat.exists_eq_add_of_le' hrow
      rw [ofName_append hcolumn hdigits hne, Text.readNat_of_le hshort, hsucc]
      rfl

/-- A name fails for its number of digits if it has a long row. -/
theorem ofName_eq_conversion_iff {cause : DigitLimit} :
    ofName name = .error (.conversion cause) ↔
      ∃ count, cause = .read count ∧ HasLongRow name count := by
  constructor
  · intro h
    rcases noRow_or_exists_append name with ⟨_, _, hnone⟩ |
      ⟨column, digits, rfl, hcolumn, hdigits, hne⟩
    · cases hnone.symm.trans h
    · rw [ofName_append hcolumn hdigits hne, Text.readNat] at h
      by_cases hshort : digits.length ≤ Text.maxDigits
      · rw [if_pos hshort] at h
        cases hrow : Text.toNat digits <;> rw [hrow] at h <;> cases h
      · rw [if_neg hshort] at h
        obtain rfl := ParseFailure.conversion.inj (Except.error.inj h)
        exact ⟨digits.length, rfl, .mk hcolumn hdigits (Nat.lt_of_not_le hshort)⟩
  · rintro ⟨count, rfl, hlong⟩
    cases hlong with
    | @mk column digits hcolumn hdigits hlong =>
      have hne : digits ≠ [] := by
        rintro rfl
        cases hlong
      rw [ofName_append hcolumn hdigits hne, Text.readNat_of_lt hlong]

/-- A name that spells a reference whose row is not short has a long row. -/
theorem Spells.hasLongRow {target : Reference} (h : Spells name target) (hlong : ¬ target.IsShort) :
    HasLongRow name target.digits.length := by
  cases h with
  | @mk column digits hcolumn hdigits hrow =>
    rw [IsShort, Nat.not_le] at hlong
    rw [Reference.digits, List.drop_left] at hlong ⊢
    exact .mk hcolumn hdigits hlong

/-- A long row has more digits than are read. -/
theorem HasLongRow.lt {count : Nat} (h : HasLongRow name count) : Text.maxDigits < count := by
  cases h with
  | mk _ _ hlong => exact hlong

/-- The words for the booleans have no digits, so they spell no reference. -/
theorem Spells.ne_words {target : Reference} (h : Spells name target) :
    name ≠ "true".toList ∧ name ≠ "false".toList := by
  have hword {word : Text} (hletters : word.all isLetter) : name ≠ word := by
    rintro rfl
    cases h with
    | @mk column digits _ hdigits hrow =>
      cases digits with
      | nil => exact absurd hrow (by decide)
      | cons digit digits =>
        have hletter := List.all_eq_true.mp hletters digit (by simp)
        exact Text.not_isLetter_of_isDigit (hdigits digit List.mem_cons_self) hletter
  exact ⟨hword (by decide), hword (by decide)⟩

/-- A name spells one reference. -/
theorem Spells.unique {target other : Reference} (h : Spells name target)
    (hother : Spells name other) : target = other := by
  cases h with
  | @mk column digits hcolumn hdigits _ =>
    generalize hname : column ++ digits = name at hother
    cases hother with
    | @mk column' digits' hcolumn' hdigits' _ =>
      have hhead {text : Text} (htext : ∀ c ∈ text, c.isDigit) : ∀ c ∈ text.head?, ¬ isLetter c :=
        fun c hc => Text.not_isLetter_of_isDigit (htext c (List.mem_of_mem_head? hc))
      have hfront := congrArg (List.takeWhile isLetter) hname
      rw [Text.takeWhile_append_of_head hcolumn (hhead hdigits),
        Text.takeWhile_append_of_head hcolumn' (hhead hdigits')] at hfront
      subst hfront
      rw [List.append_cancel_left hname]

/-! ## A long row -/

/-- The digits of the row one, with so many zeros in front that they are not read. -/
def paddedOne : Text :=
  List.replicate Text.maxDigits '0' ++ ['1']

/-- The digits are digits. -/
theorem isDigit_of_mem_paddedOne : ∀ c ∈ paddedOne, c.isDigit := by
  intro c hmem
  rcases List.mem_append.mp hmem with hzero | hone
  · rw [List.eq_of_mem_replicate hzero]
    decide
  · rw [List.mem_singleton.mp hone]
    decide

/-- The digits denote a row counted from one. -/
theorem toNat_paddedOne_pos : 1 ≤ Text.toNat paddedOne := by
  simp [paddedOne, Text.toNat, Nat.ofDigitChars, List.foldl_append]

/-- The reference to the first row of column `A` with these digits. -/
def padded : Reference :=
  ⟨['A'], Text.toNat paddedOne, 'A' :: paddedOne⟩

/-- Its text spells it. -/
theorem spells_padded : padded.Spells padded.text :=
  @Spells.mk ['A'] paddedOne (List.all_eq_true.mp (by decide)) isDigit_of_mem_paddedOne
    toNat_paddedOne_pos

/-- Its row has one digit more than are read. -/
theorem not_isShort_padded : ¬ padded.IsShort := by
  intro hshort
  have hlength : paddedOne.length ≤ Text.maxDigits := hshort
  rw [paddedOne, List.length_append, List.length_replicate] at hlength
  exact Nat.not_succ_le_self Text.maxDigits hlength

end Reference

/-- The row of a leaf has no more digits than are read. A literal has no row. -/
def Leaf.IsShort : Leaf → Prop
  | .literal _ => True
  | .reference target => target.IsShort

/-- The rows in a formula have no more digits than are read. -/
def Formula.HasShortRows (formula : Formula Leaf) : Prop :=
  ∀ leaf ∈ formula.toExpr.leaves, leaf.IsShort

instance : DecidablePred Leaf.IsShort
  | .literal _ => .isTrue trivial
  | .reference target => inferInstanceAs (Decidable (target.digits.length ≤ Text.maxDigits))

instance : DecidablePred Formula.HasShortRows := fun formula =>
  inferInstanceAs (Decidable (∀ leaf ∈ formula.toExpr.leaves, leaf.IsShort))

end SheetCalc
