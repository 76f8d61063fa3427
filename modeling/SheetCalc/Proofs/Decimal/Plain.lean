import Mathlib.Data.List.TakeWhile
import SheetCalc.Proofs.Decimal.Rational
import SheetCalc.Value

/-!
# Reading the plain notation

The plain notation of a number is a numeral, `Decimal.numeral`, with a digit before the point and
every digit of the number. Main lemma: `ofText_plain`. The plain notation is read as the same
number, in which only a positive exponent is written out as zeros. A text that was read has no such
exponent, so what is written for it is read as the same again: `text_number_reads`.
-/

namespace SheetCalc

namespace Text

variable {p : Char → Bool} {front rest : Text}

/-- The front of a text is taken up to the first character that does not belong to it. -/
theorem takeWhile_append_of_head (hfront : ∀ c ∈ front, p c) (hrest : ∀ c ∈ rest.head?, ¬ p c) :
    (front ++ rest).takeWhile p = front := by
  rw [List.takeWhile_append_of_pos hfront]
  cases rest with
  | nil => exact List.append_nil front
  | cons c rest => rw [List.takeWhile_cons_of_neg (hrest c rfl), List.append_nil]

/-- What is left after the front of a text starts with a character that does not belong to it. -/
theorem dropWhile_append_of_head (hfront : ∀ c ∈ front, p c) (hrest : ∀ c ∈ rest.head?, ¬ p c) :
    (front ++ rest).dropWhile p = rest := by
  rw [List.dropWhile_append_of_pos hfront]
  cases rest with
  | nil => rfl
  | cons c rest => exact List.dropWhile_cons_of_neg (hrest c rfl)

end Text

namespace Numeral

/-- A numeral with digits only, and with a digit on either side of its point. -/
structure IsNumber (numeral : Numeral) : Prop where
  isDigit : ∀ c ∈ numeral.digits, c.isDigit
  digits_ne_nil : numeral.digits ≠ []

/-- A numeral with digits only, and with a digit before its point; after a minus sign, a digit
behind the point is enough. -/
structure IsSpelled (numeral : Numeral) : Prop where
  isDigit : ∀ c ∈ numeral.digits, c.isDigit
  starts : numeral.whole ≠ [] ∨ numeral.negative = true ∧ numeral.fraction.getD [] ≠ []

/-- A numeral with a digit before its point, and with digits only. -/
structure IsWritten (numeral : Numeral) : Prop where
  whole_ne_nil : numeral.whole ≠ []
  isDigit : ∀ c ∈ numeral.digits, c.isDigit

/-- A numeral that can stand in a formula has a digit. -/
theorem IsSpelled.isNumber {numeral : Numeral} (h : numeral.IsSpelled) : numeral.IsNumber := by
  refine ⟨h.isDigit, ?_⟩
  rcases h.starts with hwhole | ⟨-, hfraction⟩
  · exact fun hnil => hwhole (List.append_eq_nil_iff.mp hnil).1
  · exact fun hnil => hfraction (List.append_eq_nil_iff.mp hnil).2

/-- A written numeral can stand in a formula. -/
theorem IsWritten.isSpelled {numeral : Numeral} (h : numeral.IsWritten) : numeral.IsSpelled :=
  ⟨h.isDigit, .inl h.whole_ne_nil⟩

/-- The digits of a numeral are split off up to its end. -/
theorem ofUnsigned_append (negative : Bool) {whole : Text} (hwhole : ∀ c ∈ whole, c.isDigit)
    {fraction : Option Text} (hfraction : ∀ c ∈ fraction.getD [], c.isDigit) {rest : Text}
    (hrest : ∀ c ∈ rest.head?, ¬ c.isDigit ∧ c ≠ '.') :
    ofUnsigned negative (text ⟨false, whole, fraction⟩ ++ rest) =
      (⟨negative, whole, fraction⟩, rest) := by
  have hstop : ∀ c ∈ rest.head?, ¬ c.isDigit := fun c hc => (hrest c hc).1
  cases fraction with
  | none =>
      have htext : text ⟨false, whole, none⟩ = whole := List.append_nil whole
      rw [htext]
      unfold ofUnsigned
      rw [Text.dropWhile_append_of_head hwhole hstop, Text.takeWhile_append_of_head hwhole hstop]
      cases rest with
      | nil => rfl
      | cons c rest =>
          have hpoint : c ≠ '.' := (hrest c rfl).2
          simp [hpoint]
  | some digits =>
      have hdigits : ∀ c ∈ digits, c.isDigit := hfraction
      have htext : text ⟨false, whole, some digits⟩ ++ rest = whole ++ '.' :: (digits ++ rest) :=
        List.append_assoc whole ('.' :: digits) rest
      have hpoint : ∀ c ∈ ('.' :: (digits ++ rest)).head?, ¬ c.isDigit := by
        intro c hc
        obtain rfl := Option.some.inj hc
        decide
      rw [htext]
      unfold ofUnsigned
      rw [Text.dropWhile_append_of_head hwhole hpoint, Text.takeWhile_append_of_head hwhole hpoint]
      show (Numeral.mk negative whole (some ((digits ++ rest).takeWhile Char.isDigit)),
        (digits ++ rest).dropWhile Char.isDigit) = _
      rw [Text.takeWhile_append_of_head hdigits hstop, Text.dropWhile_append_of_head hdigits hstop]

/-- The text of a number without a sign starts with no minus sign. -/
theorem head?_text_ne_minus {whole : Text} {fraction : Option Text}
    (h : IsNumber ⟨false, whole, fraction⟩) (rest after : Text) :
    text ⟨false, whole, fraction⟩ ++ rest ≠ '-' :: after := by
  intro hminus
  cases whole with
  | cons c cs =>
      obtain rfl : c = '-' := (List.cons.inj hminus).1
      exact absurd (h.isDigit '-' List.mem_cons_self) (by decide)
  | nil =>
      -- Without a digit before it, the point comes first.
      cases fraction with
      | none => exact h.digits_ne_nil rfl
      | some digits => exact absurd (List.cons.inj hminus).1 (by decide)

/-- A numeral is split off the front of a text that does not go on with it. -/
theorem split_append {numeral : Numeral} (h : numeral.IsNumber) {rest : Text}
    (hrest : ∀ c ∈ rest.head?, ¬ c.isDigit ∧ c ≠ '.') :
    split (numeral.text ++ rest) = (numeral, rest) := by
  obtain ⟨negative, whole, fraction⟩ := numeral
  have hwhole : ∀ c ∈ whole, c.isDigit := fun c hmem => h.isDigit c (List.mem_append_left _ hmem)
  have hfraction : ∀ c ∈ fraction.getD [], c.isDigit :=
    fun c hmem => h.isDigit c (List.mem_append_right _ hmem)
  cases negative with
  | true => exact ofUnsigned_append true hwhole hfraction hrest
  | false =>
      have hunsigned := ofUnsigned_append false hwhole hfraction hrest
      unfold split
      split
      · next after hminus => exact absurd hminus (head?_text_ne_minus h rest after)
      · exact hunsigned

end Numeral

namespace Decimal

/-- The text of a numeral with a digit denotes its value. -/
theorem ofText?_text {numeral : Numeral} (h : numeral.IsNumber) :
    ofText? numeral.text = some numeral.value := by
  have hsplit : Numeral.split numeral.text = (numeral, []) := by
    rw [← List.append_nil numeral.text]
    exact Numeral.split_append h fun _ hc => nomatch hc
  simp [ofText?, hsplit, h.digits_ne_nil]

/-- A text denotes no number with a positive exponent. -/
theorem exponent_nonpos_of_ofText? {text : Text} {number : Decimal}
    (h : ofText? text = some number) : number.exponent ≤ 0 := by
  unfold ofText? at h
  dsimp only at h
  split at h
  · obtain rfl := Option.some.inj h
    exact Int.neg_nonpos_of_nonneg (Int.natCast_nonneg _)
  · cases h

/-- The number with a positive exponent written out as zeros. -/
def expanded (number : Decimal) : Decimal :=
  if 0 < number.exponent then
    ⟨number.negative, number.coefficient * 10 ^ number.exponent.toNat, 0⟩
  else number

/-- The digits of a number with zeros in front, so that there is one before the point. -/
def padded (number : Decimal) : Text :=
  List.replicate ((-number.exponent).toNat + 1 - number.digits.length) '0' ++ number.digits

/-- The numeral that is the plain notation of a number. -/
def numeral (number : Decimal) : Numeral :=
  if number.exponent < 0 then
    let whole := number.padded.length - (-number.exponent).toNat
    ⟨number.negative, number.padded.take whole, some (number.padded.drop whole)⟩
  else if number.coefficient = 0 then ⟨number.negative, ['0'], none⟩
  else ⟨number.negative, number.digits ++ List.replicate number.exponent.toNat '0', none⟩

variable (number : Decimal)

/-- Zeros at the end are zeros of the exponent. -/
theorem toRat_expanded : number.expanded.toRat = number.toRat := by
  unfold expanded
  split
  · rw [toRat_shift, zero_add, Int.toNat_of_nonneg (by omega)]
  · rfl

/-- A number without a positive exponent has no zeros to write out. -/
theorem expanded_of_le {number : Decimal} (h : number.exponent ≤ 0) :
    number.expanded = number :=
  if_neg (by omega)

/-- A number without digits after the point becomes a number of units. -/
theorem expanded_of_nonneg {number : Decimal} (h : 0 ≤ number.exponent) :
    number.expanded =
      ⟨number.negative, number.coefficient * 10 ^ number.exponent.toNat, 0⟩ := by
  unfold expanded
  split
  · rfl
  · next hnotPos =>
    obtain ⟨negative, coefficient, exponent⟩ := number
    obtain rfl : exponent = 0 := le_antisymm (not_lt.mp hnotPos) h
    simp

/-- The plain notation is the text of the numeral. -/
theorem text_numeral : number.numeral.text = number.plain := by
  unfold numeral plain plainMagnitude
  split
  · cases number.negative <;> simp [Numeral.text, pointed, padded]
  · split
    · cases number.negative <;> simp [Numeral.text]
    · cases number.negative <;> simp [Numeral.text]

/-- The digits that are written are digits. -/
theorem isDigit_of_mem_digits {c : Char} (h : c ∈ number.digits) : c.isDigit :=
  Nat.isDigit_of_mem_toDigits (by decide) (by decide) h

/-- The number of digits with the zeros in front. -/
theorem length_padded :
    number.padded.length = max ((-number.exponent).toNat + 1) number.digits.length := by
  rw [padded, List.length_append, List.length_replicate]
  omega

/-- The numeral has a digit before its point, and digits only. -/
theorem isWritten_numeral : number.numeral.IsWritten := by
  have hzeros {count : ℕ} {c : Char} (h : c ∈ List.replicate count '0') : c.isDigit := by
    rw [List.eq_of_mem_replicate h]
    decide
  unfold numeral
  split
  · refine ⟨?_, ?_⟩
    · have hlength := number.length_padded
      rw [Ne, ← List.length_eq_zero_iff, List.length_take]
      omega
    · intro c hmem
      have hpadded : c ∈ number.padded := by
        simpa only [Numeral.digits, Option.getD_some, List.take_append_drop] using hmem
      rcases List.mem_append.mp hpadded with hfront | hdigit
      · exact hzeros hfront
      · exact number.isDigit_of_mem_digits hdigit
  · split
    · refine ⟨List.cons_ne_nil _ _, ?_⟩
      intro c hmem
      have hzero : c ∈ List.replicate 1 '0' := by simpa [Numeral.digits] using hmem
      exact hzeros hzero
    · refine ⟨?_, ?_⟩
      · rw [Ne, List.append_eq_nil_iff]
        exact fun h => Nat.toDigits_ne_nil h.1
      · intro c hmem
        have hdigits : c ∈ number.digits ++ List.replicate number.exponent.toNat '0' := by
          simpa [Numeral.digits] using hmem
        rcases List.mem_append.mp hdigits with hdigit | hback
        · exact number.isDigit_of_mem_digits hdigit
        · exact hzeros hback

/-- The digits of the plain notation denote the coefficient. -/
theorem toNat_digits : Text.toNat number.digits = number.coefficient :=
  Nat.ofDigitChars_ten_toDigits

/-- The plain notation has every digit after the point. -/
theorem length_fraction_numeral :
    (number.numeral.fraction.getD []).length = (-number.exponent).toNat := by
  unfold numeral
  split
  · have hlength := number.length_padded
    simp only [Option.getD_some, List.length_drop]
    omega
  · have hnone : (-number.exponent).toNat = 0 := by omega
    split <;> simp [hnone]

/-- The numeral denotes the number, with a positive exponent written out. -/
theorem value_numeral : number.numeral.value = number.expanded := by
  have hplaces := number.length_fraction_numeral
  unfold Numeral.value
  rw [hplaces]
  unfold numeral
  split
  · next hfraction =>
    have hpadded : Text.toNat number.padded = number.coefficient := by
      rw [padded, Text.toNat, Nat.ofDigitChars_append, Nat.ofDigitChars_replicate_zero, Nat.mul_zero]
      exact number.toNat_digits
    have hexponent : -(((-number.exponent).toNat : ℕ) : ℤ) = number.exponent := by omega
    rw [expanded_of_le (by omega)]
    simp only [Numeral.digits, Option.getD_some, List.take_append_drop, hpadded, hexponent]
  · next hwhole =>
    have hnone : -(((-number.exponent).toNat : ℕ) : ℤ) = 0 := by omega
    rw [expanded_of_nonneg (not_lt.mp hwhole), hnone]
    split
    · next hzero => simp [Numeral.digits, Text.toNat, Nat.ofDigitChars_cons, hzero]
    · have hdigits : Text.toNat (number.digits ++ List.replicate number.exponent.toNat '0') =
          number.coefficient * 10 ^ number.exponent.toNat := by
        rw [Text.toNat, Nat.ofDigitChars_append, Nat.ofDigitChars_replicate_zero, Nat.mul_comm]
        exact congrArg (· * _) number.toNat_digits
      simp [Numeral.digits, hdigits]

/-- The numeral has a digit behind its point when it has a point. -/
theorem fraction_numeral_ne : number.numeral.fraction ≠ some [] := by
  intro hnil
  have hplaces := number.length_fraction_numeral
  rw [hnil, Option.getD_some, List.length_nil] at hplaces
  unfold numeral at hnil
  split at hnil
  · omega
  · split at hnil <;> cases hnil

/-- Zeros at the end leave the sign as it is. -/
theorem negative_expanded : number.expanded.negative = number.negative := by
  unfold expanded
  split <;> rfl

end Decimal

namespace Literal

/-- The plain notation of a number is read as the number. -/
theorem ofText_plain (number : Decimal) : ofText number.plain = .number number.expanded := by
  have hnumber := number.isWritten_numeral.isSpelled.isNumber
  rw [← number.text_numeral, ofText, Decimal.ofText?_text hnumber, number.value_numeral]

/-- What is written for the literal that a text reads as is read as this literal. -/
theorem ofText_text (text : Text) : ofText (ofText text).text = ofText text := by
  cases hread : Decimal.ofText? text with
  | some number =>
      have hnumber : ofText text = .number number := by rw [ofText, hread]
      rw [hnumber]
      show ofText number.plain = .number number
      rw [ofText_plain, Decimal.expanded_of_le (Decimal.exponent_nonpos_of_ofText? hread)]
  | none =>
      have hstring : ofText text = .string text := by rw [ofText, hread]
      rw [hstring]
      exact hstring

/-- Every number is written as a numeral, with a digit before its point and with its own places
behind it. The numeral is read as a number of the same value and sign, and as the very same number
if there was no positive exponent to write out. So a text that was read and written is read again
as before. -/
theorem text_number_reads (number : Decimal) :
    (∃ numeral : Numeral, numeral.text = (Literal.number number).text ∧ numeral.IsWritten ∧
      numeral.fraction ≠ some [] ∧
      (numeral.fraction.getD []).length = (-number.exponent).toNat) ∧
    (∃ read, ofText (Literal.number number).text = .number read ∧
      read.toRat = number.toRat ∧ read.negative = number.negative ∧
      (number.exponent ≤ 0 → read = number)) ∧
    ∀ text, ofText (ofText text).text = ofText text := by
  refine ⟨⟨number.numeral, number.text_numeral, number.isWritten_numeral,
    number.fraction_numeral_ne, number.length_fraction_numeral⟩, ?_, ofText_text⟩
  exact ⟨number.expanded, ofText_plain number, number.toRat_expanded, number.negative_expanded,
    Decimal.expanded_of_le⟩

end Literal

end SheetCalc
