import SheetCalc.Proofs.Formula.Parsing

/-!
# Numbers in cells and in formulas

Numbers have two readers: `Literal.ofText` for the text of a cell that a formula refers to, and
`Token.list` for the formula itself. Both take numerals with a digit on either side of the point,
but a number in a formula starts with a digit or a minus sign, so `.5` is a number in a cell only.
Main theorem: `ofText_agrees_iff`. On every other text without blanks at its ends the two readers
agree.
-/

namespace SheetCalc

namespace Text

/-- A point, and digits behind it. -/
def IsBareFraction (text : Text) : Prop :=
  ∃ digits, digits ≠ [] ∧ (∀ c ∈ digits, c.isDigit) ∧ text = '.' :: digits

/-- Blanks at the end of a text are trimmed. -/
theorem trim_append_blanks {blanks : Text} (h : ∀ c ∈ blanks, isBlank c) (text : Text) :
    trim (text ++ blanks) = trim text := by
  have hend (front : Text) : trimEnd (front ++ blanks) = trimEnd front := by
    rw [trimEnd, List.reverse_append, List.dropWhile_append_of_pos]
    · rfl
    · exact fun c hc => h c (List.mem_reverse.mp hc)
  rw [trim, trimStart, List.dropWhile_append]
  split
  · next hnone =>
    rw [List.dropWhile_eq_nil_iff.mpr h, trim, trimStart, List.isEmpty_iff.mp hnone]
  · exact hend _

/-- Blanks at the front of a text are trimmed. -/
theorem trim_blanks_append {blanks : Text} (h : ∀ c ∈ blanks, isBlank c) (text : Text) :
    trim (blanks ++ text) = trim text := by
  rw [trim, trimStart, List.dropWhile_append_of_pos h]
  rfl

/-- Trimming makes no text longer. -/
theorem length_trim_le (text : Text) : (trim text).length ≤ text.length := by
  have hstart := (List.dropWhile_sublist (l := text) isBlank).length_le
  have hend := (List.dropWhile_sublist (l := (trimStart text).reverse) isBlank).length_le
  rw [List.length_reverse] at hend
  rw [trim, trimEnd, List.length_reverse]
  exact hend.trans hstart

/-- A text that trimming leaves as it is has no blanks at its ends. -/
theorem eq_of_trim_eq {front text back : Text} (hfront : ∀ c ∈ front, isBlank c)
    (hback : ∀ c ∈ back, isBlank c) (htrim : trim (front ++ text ++ back) = front ++ text ++ back) :
    front ++ text ++ back = text := by
  have hlength := length_trim_le text
  rw [← trim_blanks_append hfront, ← trim_append_blanks hback, htrim, List.length_append,
    List.length_append] at hlength
  obtain rfl : front = [] := List.length_eq_zero_iff.mp (by omega)
  obtain rfl : back = [] := List.length_eq_zero_iff.mp (by omega)
  rw [List.nil_append, List.append_nil]

end Text

namespace Numeral

variable {numeral : Numeral}

/-- The digits of a numeral that is split off are digits. -/
theorem isDigit_split {text : Text} {c : Char} (h : c ∈ (split text).1.digits) : c.isDigit := by
  unfold split at h
  split at h <;> exact isDigit_ofUnsigned h

/-- A numeral with a digit can stand in a formula, unless it has no sign and starts with its
point. -/
theorem IsNumber.isSpelled_iff (h : numeral.IsNumber) :
    numeral.IsSpelled ↔ ¬ numeral.text.IsBareFraction := by
  constructor
  · rintro hspelled ⟨digits, -, -, htext⟩
    obtain ⟨c, rest, hcons, hstart⟩ := Token.exists_cons_of_isSpelled hspelled
    obtain rfl : c = '.' := (List.cons.inj (hcons.symm.trans htext)).1
    exact absurd hstart (by decide)
  · intro hbare
    refine ⟨h.isDigit, ?_⟩
    by_cases hwhole : numeral.whole = []
    · have hdigits : numeral.digits = numeral.fraction.getD [] := by
        rw [digits, hwhole, List.nil_append]
      have hfraction : numeral.fraction.getD [] ≠ [] := hdigits ▸ h.digits_ne_nil
      refine .inr ⟨?_, hfraction⟩
      by_contra hsign
      refine hbare ⟨numeral.fraction.getD [], hfraction, hdigits ▸ h.isDigit, ?_⟩
      obtain ⟨negative, whole, fraction⟩ := numeral
      obtain rfl : whole = [] := hwhole
      obtain rfl : negative = false := Bool.eq_false_of_not_eq_true hsign
      cases fraction with
      | none => exact absurd rfl hfraction
      | some digits => rfl
    · exact .inl hwhole

end Numeral

/-- A point and digits write a numeral with a digit. -/
theorem Text.IsBareFraction.exists_isNumber {text : Text} (h : text.IsBareFraction) :
    ∃ numeral : Numeral, numeral.IsNumber ∧ numeral.text = text := by
  obtain ⟨digits, hne, hdigits, rfl⟩ := h
  exact ⟨⟨false, [], some digits⟩, ⟨hdigits, hne⟩, rfl⟩

/-- A cell is read as a number when its text is a numeral with a digit. -/
theorem Literal.ofText_eq_number_iff {text : Text} {value : Decimal} :
    ofText text = .number value ↔
      ∃ numeral : Numeral, numeral.IsNumber ∧ numeral.text = text ∧ numeral.value = value := by
  constructor
  · intro h
    unfold ofText Decimal.ofText? at h
    dsimp only at h
    split at h
    · next number hread =>
      obtain rfl := Literal.number.inj h
      split at hread
      · next hwhole =>
        have hsplit := Numeral.text_split text
        rw [hwhole.1, List.append_nil] at hsplit
        exact ⟨_, ⟨fun c => Numeral.isDigit_split, hwhole.2⟩, hsplit, Option.some.inj hread⟩
      · cases hread
    · cases h
  · rintro ⟨numeral, hnumber, rfl, rfl⟩
    rw [ofText, Decimal.ofText?_text hnumber]

namespace Token

/-- A formula is a single number when its text, apart from blanks around it, is a numeral that can
stand in a formula. -/
theorem list_eq_number_iff {text : Text} (htrim : Text.trim text = text) {value : Decimal} :
    list text = .ok [.number value] ↔
      ∃ numeral : Numeral, numeral.IsSpelled ∧ numeral.text = text ∧ numeral.value = value := by
  rw [list, htrim]
  constructor
  · intro h
    obtain ⟨lexemes, last, ⟨rfl, hvalid, -, hlast⟩, htokens⟩ := exists_composedOf_of_scan h
    obtain ⟨⟨blanks, written, token⟩, rfl, htoken⟩ := List.map_eq_singleton_iff.mp htokens
    obtain rfl : token = .number value := htoken
    obtain ⟨hblanks, hspells⟩ := hvalid _ List.mem_cons_self
    have htext : [Lexeme.mk blanks written (.number value)].flatMap Lexeme.text ++ last =
        blanks ++ written ++ last := by simp [Lexeme.text]
    rw [htext] at htrim ⊢
    rw [Text.eq_of_trim_eq hblanks hlast htrim]
    cases hspells with
    | number hspelled => exact ⟨_, hspelled, rfl, rfl⟩
  · rintro ⟨numeral, hspelled, rfl, rfl⟩
    have hend : (Token.number numeral.value).EndsAt [] := by
      intro c hc
      cases hc
    have hscan := scan_append (.number hspelled) hend (by rw [scan])
    rwa [List.append_nil] at hscan

end Token

namespace Literal

/-- The readers of cells and of formulas find the same number in a text without blanks at its ends,
or both find none, if and only if the text is not a point with digits behind it. Apart from such a
text, what is put in the place of a reference to a cell is the literal that the text of the cell is
in a formula. -/
theorem ofText_agrees_iff {text : Text} (htrim : Text.trim text = text) :
    ((∀ value, ofText text = .number value ↔ Token.list text = .ok [.number value]) ↔
      ¬ text.IsBareFraction) ∧
    (¬ text.IsBareFraction → ∀ value, ofText text = .number value →
      ∃ token, Grammar.Atom token (.literal (ofText text)) ∧
        ∀ rest following, token.EndsAt rest → Token.scan rest = .ok following →
          Token.scan (text ++ rest) = .ok (token :: following)) := by
  refine ⟨⟨?_, ?_⟩, ?_⟩
  · intro hagree hbare
    obtain ⟨numeral, hnumber, rfl⟩ := hbare.exists_isNumber
    have hread : ofText numeral.text = .number numeral.value :=
      ofText_eq_number_iff.mpr ⟨numeral, hnumber, rfl, rfl⟩
    obtain ⟨other, hspelled, htext, -⟩ :=
      (Token.list_eq_number_iff htrim).mp ((hagree numeral.value).mp hread)
    rw [← htext] at hbare
    exact hspelled.isNumber.isSpelled_iff.mp hspelled hbare
  · intro hbare value
    rw [ofText_eq_number_iff, Token.list_eq_number_iff htrim]
    constructor
    · rintro ⟨numeral, hnumber, rfl, rfl⟩
      exact ⟨numeral, hnumber.isSpelled_iff.mpr hbare, rfl, rfl⟩
    · rintro ⟨numeral, hspelled, rfl, rfl⟩
      exact ⟨numeral, hspelled.isNumber, rfl, rfl⟩
  · intro hbare value hread
    rw [hread]
    obtain ⟨numeral, hnumber, rfl, rfl⟩ := ofText_eq_number_iff.mp hread
    refine ⟨.number numeral.value, .number, ?_⟩
    intro rest following hends hscan
    exact Token.scan_append (.number (hnumber.isSpelled_iff.mpr hbare)) hends hscan

/-- The two readers agree on `-.5`, where the digits follow a point but a sign comes first. -/
theorem ofText_agrees_on_signed_fraction :
    Text.trim "-.5".toList = "-.5".toList ∧ ofText "-.5".toList = .number ⟨true, 5, -1⟩ ∧
      ∀ value, ofText "-.5".toList = .number value ↔
        Token.list "-.5".toList = .ok [.number value] := by
  have htrim : Text.trim "-.5".toList = "-.5".toList := by decide
  have hsigned : ¬ Text.IsBareFraction "-.5".toList := by
    rintro ⟨digits, -, -, htext⟩
    exact absurd (List.cons.inj htext).1 (by decide)
  exact ⟨htrim, by decide, (ofText_agrees_iff htrim).1.mpr hsigned⟩

/-- The readers do not agree on `.5`, which is a number in a cell and no token of a formula. -/
theorem bare_fraction_not_token :
    ¬ ∀ (text : Text) (value : Decimal), Text.trim text = text →
      (ofText text = .number value ↔ Token.list text = .ok [.number value]) := by
  intro hall
  have hread : ofText ".5".toList = .number ⟨false, 5, -1⟩ := by decide
  have hlist : Token.list ".5".toList = .error (.unknownCharacter '.') := by cbv
  have hnumber := (hall ".5".toList ⟨false, 5, -1⟩ (by decide)).mp hread
  rw [hlist] at hnumber
  cases hnumber

end Literal

end SheetCalc
