import Mathlib.Data.List.Shortlex
import Mathlib.Order.Monotone.Basic
import SheetCalc.Proofs.Formula.Rows
import SheetCalc.Proofs.Sheet.Names

/-!
# Counting columns

Labels are numbers in base twenty-six with the digits one to twenty-six and no zero, so every
number from one on is that of one label. `firstPosition` is where the labels of a length start, and
`position_lt_of_shortlex` says that labels are counted by their lengths, and in the order of the
alphabet where they are equally long. `index_of_isAlpha` joins the two ways in which an index is
found: by weights up to three letters, and letter by letter after them. Main theorem:
`index_counts_labels`. A label has its number as its index, unless the number has too many digits to
be written. The columns up to `ZZZ` are the only ones whose labels are given back by `label`: this
is `label_inverse_iff`.
-/

namespace SheetCalc

/-! ## Numbers that are written -/

namespace Text

/-- The numbers that are written have no more digits than the limit. -/
theorem length_ofNat_le_iff {number : Nat} :
    (ofNat number).length ≤ maxDigits ↔ number < 10 ^ maxDigits :=
  Nat.length_toDigits_le_iff (by decide) (by decide)

/-- An integer is written when it has no more digits than the limit. -/
theorem exists_writeInt_iff {number : Int} :
    (∃ text, writeInt number = .ok text) ↔ number.natAbs < 10 ^ maxDigits := by
  rw [← length_ofNat_le_iff, writeInt]
  split <;> simp [*]

/-- A natural number is written when it has no more digits than the limit. -/
theorem writeInt_natCast_of_lt {number : Nat} (h : number < 10 ^ maxDigits) :
    writeInt number = .ok (ofNat number) :=
  if_pos (length_ofNat_le_iff.mpr h)

/-- A natural number with more digits is not written. -/
theorem writeInt_natCast_of_le {number : Nat} (h : 10 ^ maxDigits ≤ number) :
    writeInt number = .error .written :=
  if_neg fun hshort => Nat.not_lt.mpr h (length_ofNat_le_iff.mp hshort)

end Text

namespace Column

/-- A label in upper case: one or more of the letters that labels are written with. -/
@[ext]
structure Label where
  text : Text
  ne_nil : text ≠ []
  isLabelLetter : ∀ c ∈ text, isLabelLetter c

/-! ## Letters and digits -/

section Positions

variable {c d : Char} {label other : Text}

/-- A letter stands for its place in the alphabet. -/
theorem letterDigit_eq (c : Char) : letterDigit c = c.toNat - 65 + 1 :=
  rfl

/-- The letter of the digit that a letter stands for. -/
theorem digitLetter_letterDigit (h : isLabelLetter c) : digitLetter (letterDigit c - 1) = c := by
  have hcode := isLabelLetter_iff.mp h
  have hdigit : 65 + (letterDigit c - 1) = c.toNat := by
    rw [letterDigit_eq]
    omega
  show Char.ofNat (65 + (letterDigit c - 1)) = c
  rw [hdigit, Char.ofNat_toNat]

/-- Letters are in the order of their digits. -/
theorem letterDigit_lt_letterDigit (hc : isLabelLetter c) (h : c < d) :
    letterDigit c < letterDigit d := by
  have hcode := isLabelLetter_iff.mp hc
  have hlt : c.toNat < d.toNat := UInt32.lt_iff_toNat_lt.mp (Char.lt_def.mp h)
  rw [letterDigit_eq, letterDigit_eq]
  omega

/-- Letters in upper case are ASCII letters, and stay as they are. -/
theorem isAlpha_and_toUpper_of_isLabelLetter (h : isLabelLetter c) :
    c.isAlpha ∧ c.toUpper = c := by
  have hcode := isLabelLetter_iff.mp h
  have hascii : isLabelLetter c → c.isAlpha ∧ c.toUpper = c :=
    Text.of_ascii (P := fun c => isLabelLetter c → c.isAlpha ∧ c.toUpper = c) (by decide) (by omega)
  exact hascii h

/-! ## Positions -/

/-- The number that letters come to when they are counted on from a number. -/
def countOn (number : ℕ) (letters : Text) : ℕ :=
  letters.foldl (fun number c => 26 * number + letterDigit c) number

theorem countOn_cons (number : ℕ) (c : Char) (letters : Text) :
    countOn number (c :: letters) = countOn (26 * number + letterDigit c) letters :=
  rfl

/-- The letters at the end of a label are counted on from the position of the letters before. -/
theorem position_append (front back : Text) :
    position (front ++ back) = countOn (position front) back :=
  List.foldl_append

/-- The position of the first label of a length: `A`, `AA`, `AAA` and so on. -/
def firstPosition : ℕ → ℕ
  | 0 => 0
  | length + 1 => 26 * firstPosition length + 1

theorem firstPosition_succ (length : ℕ) :
    firstPosition (length + 1) = 26 * firstPosition length + 1 :=
  rfl

/-- The labels that are shorter than a length are the digits of a power of twenty-six. -/
theorem firstPosition_mul (length : ℕ) : 25 * firstPosition length + 1 = 26 ^ length := by
  induction length with
  | zero => rfl
  | succ length ih =>
      rw [firstPosition_succ, Nat.pow_succ, ← ih]
      omega

/-- Longer labels start further on. -/
theorem firstPosition_strictMono : StrictMono firstPosition := by
  refine strictMono_nat_of_lt_succ fun length => ?_
  rw [firstPosition_succ]
  omega

/-- The labels of a length stand together, in front of those that are longer. -/
theorem position_bounds (h : ∀ c ∈ label, isLabelLetter c) :
    firstPosition label.length ≤ position label ∧
      position label < firstPosition (label.length + 1) := by
  induction label using List.reverseRecOn with
  | nil => exact ⟨Nat.le_refl 0, Nat.zero_lt_one⟩
  | append_singleton label c ih =>
      have hfront := ih fun d hd => h d (List.mem_append_left _ hd)
      have hcode := isLabelLetter_iff.mp (h c (List.mem_append_right _ List.mem_cons_self))
      have hdigit := letterDigit_eq c
      have hstart := firstPosition_succ label.length
      have hend := firstPosition_succ (label.length + 1)
      rw [position_append_singleton, List.length_append, List.length_singleton]
      omega

/-- A label has a position from one on. -/
theorem position_pos (hne : label ≠ []) (h : ∀ c ∈ label, isLabelLetter c) :
    0 < position label := by
  have hlength : firstPosition 0 < firstPosition label.length :=
    firstPosition_strictMono (List.length_pos_iff.mpr hne)
  exact Nat.lt_of_lt_of_le hlength (position_bounds h).1

/-- As many letters, counted on from a smaller number, come to a smaller number. -/
theorem countOn_lt_countOn {number larger : ℕ} (hlt : number < larger)
    (hlength : label.length = other.length) (h : ∀ c ∈ label, isLabelLetter c) :
    countOn number label < countOn larger other := by
  induction label generalizing number larger other with
  | nil =>
      obtain rfl := List.length_eq_zero_iff.mp hlength.symm
      exact hlt
  | cons c label ih =>
      cases other with
      | nil => cases hlength
      | cons d other =>
          have hcode := isLabelLetter_iff.mp (h c List.mem_cons_self)
          have hdigit := letterDigit_eq c
          have hleast : 1 ≤ letterDigit d := Nat.succ_pos _
          have hstep : 26 * number + letterDigit c < 26 * larger + letterDigit d := by omega
          rw [countOn_cons, countOn_cons]
          exact ih hstep (Nat.succ.inj hlength) fun e he => h e (List.mem_cons_of_mem c he)

/-- Of two labels of one length, counted on from one number, the first in the order of the alphabet
comes to the smaller number. -/
theorem countOn_lt_of_lex (hlex : List.Lex (· < ·) label other)
    (hlength : label.length = other.length) (h : ∀ c ∈ label, isLabelLetter c) (number : ℕ) :
    countOn number label < countOn number other := by
  induction hlex generalizing number with
  | nil => cases hlength
  | @rel c label d other hlt =>
      have hletter := h c List.mem_cons_self
      have hstep : 26 * number + letterDigit c < 26 * number + letterDigit d :=
        Nat.add_lt_add_left (letterDigit_lt_letterDigit hletter hlt) _
      rw [countOn_cons, countOn_cons]
      exact countOn_lt_countOn hstep (Nat.succ.inj hlength)
        fun e he => h e (List.mem_cons_of_mem c he)
  | @cons c label other _ ih =>
      rw [countOn_cons, countOn_cons]
      exact ih (Nat.succ.inj hlength) (fun e he => h e (List.mem_cons_of_mem c he))
        (26 * number + letterDigit c)

/-- Labels are counted by their lengths, and in the order of the alphabet where they are equally
long. -/
theorem position_lt_of_shortlex (h : ∀ c ∈ label, isLabelLetter c)
    (hother : ∀ c ∈ other, isLabelLetter c) (hless : List.Shortlex (· < ·) label other) :
    position label < position other := by
  rcases List.shortlex_def.mp hless with hshorter | ⟨hlength, hlex⟩
  · have hstart : firstPosition (label.length + 1) ≤ firstPosition other.length :=
      firstPosition_strictMono.monotone hshorter
    exact Nat.lt_of_lt_of_le (position_bounds h).2 (hstart.trans (position_bounds hother).1)
  · exact countOn_lt_of_lex hlex hlength h 0

/-- The label at the position of a label is this label. -/
theorem letters_position (h : ∀ c ∈ label, isLabelLetter c) : letters (position label) = label := by
  induction label using List.reverseRecOn with
  | nil =>
      show letters 0 = []
      rw [letters, dif_pos rfl]
  | append_singleton label c ih =>
      have hfront := ih fun d hd => h d (List.mem_append_left _ hd)
      have hletter := h c (List.mem_append_right _ List.mem_cons_self)
      have hcode := isLabelLetter_iff.mp hletter
      have hdigit := letterDigit_eq c
      have hpos : ¬ 26 * position label + letterDigit c = 0 := by omega
      have hdiv : (26 * position label + letterDigit c - 1) / 26 = position label := by omega
      have hmod : (26 * position label + letterDigit c - 1) % 26 = letterDigit c - 1 := by omega
      rw [position_append_singleton, letters, dif_neg hpos, hdiv, hmod, hfront,
        digitLetter_letterDigit hletter]

/-- Counting on from a position is counting on from the index, one further back, at each letter. -/
theorem countOn_succ (column : ℕ) (letters : Text) :
    countOn (column + 1) letters = letters.foldl nextIndex column + 1 := by
  induction letters generalizing column with
  | nil => rfl
  | cons c letters ih =>
      have hstep : 26 * (column + 1) + letterDigit c = nextIndex column c + 1 := by
        rw [nextIndex, letterDigit, Nat.mul_comm, Nat.add_assoc]
      rw [countOn_cons, hstep, ih, List.foldl_cons]

/-- Every position from one on has a label. -/
theorem letters_ne_nil {number : ℕ} (h : number ≠ 0) : letters number ≠ [] := by
  rw [letters, dif_neg h]
  exact List.append_ne_nil_of_right_ne_nil _ (List.cons_ne_nil _ _)

end Positions

/-! ## Indices -/

section Indices

variable {label : Text}

/-- An ASCII letter in upper case is one that labels are written with. -/
theorem isLabelLetter_toUpper {c : Char} (h : c.isAlpha) : isLabelLetter c.toUpper := by
  have hascii : c.isAlpha → isLabelLetter c.toUpper :=
    Text.of_ascii (P := fun c => c.isAlpha → isLabelLetter c.toUpper) (by decide)
      (Text.toNat_lt_of_isAlpha h)
  exact hascii h

/-- ASCII letters are put in upper case one by one. -/
theorem upper_eq_map (h : ∀ c ∈ label, c.isAlpha) : Text.upper label = label.map Char.toUpper := by
  induction label with
  | nil => rfl
  | cons c label ih =>
      obtain ⟨hfirst, hrest⟩ := List.forall_mem_cons.mp h
      rw [List.map_cons, ← ih hrest, Text.upper, List.flatMap_cons,
        Text.upperChar_of_lt (Text.toNat_lt_of_isAlpha hfirst)]
      rfl

/-- The weights of up to three letters come to the position of their label. -/
theorem shortPosition_eq (hne : label ≠ []) (hshort : label.length ≤ 3)
    (h : ∀ c ∈ label, isLabelLetter c) : shortPosition label = .ok (position label) := by
  have hweights : (label.reverse.zipWith (fun c weight => letterDigit c * weight) weights).foldr
      (· + ·) 0 = position label := by
    match label, hne, hshort with
    | [c], _, _ => simp [weights, position]
    | [c, d], _, _ =>
      simp [weights, position]
      omega
    | [c, d, e], _, _ =>
      simp [weights, position]
      omega
  rw [shortPosition, if_pos ⟨hne, hshort, List.all_eq_true.mpr h⟩, hweights]

/-- An index with no more digits than are written is logged. -/
theorem logged_of_lt {number : ℕ} (h : number < 10 ^ Text.maxDigits) :
    logged number = .ok number := by
  rw [logged, Text.writeInt_natCast_of_lt h]

/-- An index with more digits is not. -/
theorem logged_of_le {number : ℕ} (h : 10 ^ Text.maxDigits ≤ number) :
    logged number = .error (.conversion .written) := by
  rw [logged, Text.writeInt_natCast_of_le h]

/-- An index is logged when it has no more digits than are written. -/
theorem logged_eq_ok_iff {number : ℕ} :
    logged number = .ok number ↔ number < 10 ^ Text.maxDigits := by
  refine ⟨fun h => ?_, logged_of_lt⟩
  by_contra hlong
  cases h.symm.trans (logged_of_le (Nat.le_of_not_lt hlong))

/-- An index is not logged when it has more digits. -/
theorem logged_eq_error_iff {number : ℕ} :
    logged number = .error (.conversion .written) ↔ 10 ^ Text.maxDigits ≤ number := by
  refine ⟨fun h => ?_, logged_of_le⟩
  by_contra hshort
  cases h.symm.trans (logged_of_lt (Nat.lt_of_not_le hshort))

/-- A label of ASCII letters has its position for its index, counted from zero, if that can be
logged. -/
theorem index_of_isAlpha (hne : label ≠ []) (h : ∀ c ∈ label, c.isAlpha) :
    index label = logged (position (label.map Char.toUpper) - 1) := by
  have hletters : ∀ c ∈ label.map Char.toUpper, isLabelLetter c :=
    List.forall_mem_map.mpr fun c hc => isLabelLetter_toUpper (h c hc)
  have hnonempty : label.map Char.toUpper ≠ [] := by simpa using hne
  unfold index
  dsimp only
  rw [upper_eq_map h]
  generalize label.map Char.toUpper = name at hletters hnonempty
  by_cases hshort : name.length ≤ 3
  · rw [if_pos hshort, shortPosition_eq hnonempty hshort hletters]
    rfl
  · have hfront : ∀ c ∈ name.take 3, isLabelLetter c :=
      fun c hc => hletters c (List.mem_of_mem_take hc)
    have hfrontne : name.take 3 ≠ [] := by simpa using hnonempty
    have hpos := position_pos hfrontne hfront
    have hcount : position name =
        (name.drop 3).foldl nextIndex (position (name.take 3) - 1) + 1 := by
      rw [← countOn_succ, Nat.sub_add_cancel hpos, ← position_append, List.take_append_drop]
    rw [if_neg hshort, if_pos (List.all_eq_true.mpr hletters),
      shortPosition_eq hfrontne (List.length_take_le 3 name) hfront, hcount]
    rfl

end Indices

namespace Label

/-- The index of a label, counted from zero. -/
def number (name : Label) : ℕ :=
  position name.text - 1

/-- The position of a label is one more than its index. -/
theorem position_eq (name : Label) : position name.text = name.number + 1 := by
  have hpos := position_pos name.ne_nil name.isLabelLetter
  rw [number]
  omega

/-- ASCII letters in upper case are a label. -/
def ofLetters (text : Text) (hne : text ≠ []) (h : ∀ c ∈ text, c.isAlpha) : Label where
  text := text.map Char.toUpper
  ne_nil := by simpa using hne
  isLabelLetter := List.forall_mem_map.mpr fun c hc => isLabelLetter_toUpper (h c hc)

/-- The label of an index. -/
def ofNumber (number : ℕ) : Label where
  text := letters (number + 1)
  ne_nil := letters_ne_nil (Nat.succ_ne_zero number)
  isLabelLetter _ := isLabelLetter_of_mem_letters

/-- The index of a label is its number, if that can be logged. -/
theorem index_text (name : Label) : index name.text = logged name.number := by
  have hcapital : name.text.map Char.toUpper = name.text := by
    refine (List.map_congr_left fun c hc => ?_).trans (List.map_id _)
    exact (isAlpha_and_toUpper_of_isLabelLetter (name.isLabelLetter c hc)).2
  rw [index_of_isAlpha name.ne_nil fun c hc =>
    (isAlpha_and_toUpper_of_isLabelLetter (name.isLabelLetter c hc)).1, hcapital]
  rfl

/-- The label of the index of a label is this label. -/
theorem ofNumber_number (name : Label) : ofNumber name.number = name := by
  refine Label.ext ?_
  show letters (name.number + 1) = name.text
  rw [← position_eq, letters_position name.isLabelLetter]

/-- The index of the label of an index is this index. -/
theorem number_ofNumber (index : ℕ) : (ofNumber index).number = index := by
  show position (letters (index + 1)) - 1 = index
  rw [position_letters, Nat.add_sub_cancel]

/-- Every number is the index of one label. -/
theorem number_bijective : Function.Bijective number :=
  Function.bijective_iff_has_inverse.mpr ⟨ofNumber, ofNumber_number, number_ofNumber⟩

/-- Labels are in the order of their indices. -/
theorem shortlex_iff_number_lt (name other : Label) :
    List.Shortlex (· < ·) name.text other.text ↔ name.number < other.number := by
  have hless : ∀ name other : Label, List.Shortlex (· < ·) name.text other.text →
      name.number < other.number := by
    intro name other h
    have hposition := position_lt_of_shortlex name.isLabelLetter other.isLabelLetter h
    rw [position_eq, position_eq] at hposition
    exact Nat.lt_of_succ_lt_succ hposition
  refine ⟨hless name other, fun hlt => ?_⟩
  by_contra hnot
  by_cases hmore : List.Shortlex (· < ·) other.text name.text
  · exact absurd (hless other name hmore) hlt.asymm
  · obtain rfl := Label.ext (Std.Trichotomous.trichotomous _ _ hnot hmore)
    exact absurd hlt (Nat.lt_irrefl _)

/-- The labels of up to three letters are those before `AAAA`. -/
theorem length_le_three_iff (name : Label) : name.text.length ≤ 3 ↔ name.number < 18278 := by
  have hbounds := position_bounds name.isLabelLetter
  have hfour : firstPosition 4 = 18279 := rfl
  have hposition := name.position_eq
  constructor
  · intro hshort
    have hnext : firstPosition (name.text.length + 1) ≤ firstPosition 4 :=
      firstPosition_strictMono.monotone (Nat.succ_le_succ hshort)
    omega
  · intro hlt
    by_contra hlong
    have hfirst : firstPosition 4 ≤ firstPosition name.text.length :=
      firstPosition_strictMono.monotone (Nat.lt_of_not_le hlong)
    omega

/-- The position of a label of up to three letters is found by weights. -/
theorem shortPosition_text (name : Label) (h : name.text.length ≤ 3) :
    shortPosition name.text = .ok (name.number + 1) := by
  rw [shortPosition_eq name.ne_nil h name.isLabelLetter, position_eq]

/-- The letters at the front of a label are a label. -/
def front (name : Label) : Label where
  text := name.text.take 3
  ne_nil := by simpa using name.ne_nil
  isLabelLetter c hc := name.isLabelLetter c (List.mem_of_mem_take hc)

end Label

/-- The index of a label from that of its first three letters. -/
theorem Label.number_eq_foldl (name : Label) :
    name.number = (name.text.drop 3).foldl nextIndex name.front.number := by
  have hcount : position name.text = countOn (position name.front.text) (name.text.drop 3) := by
    show position name.text = countOn (position (name.text.take 3)) (name.text.drop 3)
    rw [← position_append, List.take_append_drop]
  rw [name.position_eq, name.front.position_eq, countOn_succ] at hcount
  exact Nat.succ.inj hcount

/-- Labels of up to 3038 letters have numbers that can be written. -/
theorem Label.number_lt_of_length {name : Label} (h : name.text.length ≤ 3038) :
    name.number < 10 ^ Text.maxDigits := by
  -- The labels of up to 3038 letters stop before `firstPosition 3039`, a 25th of the power.
  have hbound : 26 ^ 3039 ≤ 25 * 10 ^ Text.maxDigits := by decide +kernel
  have hnext : firstPosition (name.text.length + 1) ≤ firstPosition 3039 :=
    firstPosition_strictMono.monotone (Nat.succ_le_succ h)
  have hlast := (position_bounds name.isLabelLetter).2
  have hposition := name.position_eq
  rw [← firstPosition_mul] at hbound
  generalize 10 ^ Text.maxDigits = bound at hbound ⊢
  omega

/-- Labels of 3040 letters and more have numbers with more digits. -/
theorem Label.le_number_of_length {name : Label} (h : 3040 ≤ name.text.length) :
    10 ^ Text.maxDigits ≤ name.number := by
  have hbound : 25 * (10 ^ Text.maxDigits + 1) < 26 ^ 3040 := by decide +kernel
  have hfirst : firstPosition 3040 ≤ firstPosition name.text.length :=
    firstPosition_strictMono.monotone h
  have hleast := (position_bounds name.isLabelLetter).1
  have hposition := name.position_eq
  rw [← firstPosition_mul] at hbound
  generalize 10 ^ Text.maxDigits = bound at hbound ⊢
  omega

/-- Labels of 3040 ASCII letters and more have no index. -/
theorem index_of_length {text : Text} (h : ∀ c ∈ text, c.isAlpha) (hlong : 3040 ≤ text.length) :
    index text = .error (.conversion .written) := by
  have hne : text ≠ [] := List.ne_nil_of_length_pos (by omega)
  have hlength : (Label.ofLetters text hne h).text.length = text.length := List.length_map _
  have hnumber := Label.le_number_of_length (hlong.trans_eq hlength.symm)
  exact (index_of_isAlpha hne h).trans (logged_of_le hnumber)

/-- Labels count the columns. Each number is the number of one label, upper and lower case alike,
and the labels are in the order of their lengths and then of the alphabet. The weights of the letters
give the labels of up to three letters, which come first, and the numbers of longer ones are counted
on, letter by letter, from those of their first three. The index of a label is its number, unless
the number has too many digits to be logged: up to 3038 letters it never has, and from 3040 letters
on it always has. -/
theorem index_counts_labels (text : Text) (hne : text ≠ []) (h : ∀ c ∈ text, c.isAlpha) :
    let name := Label.ofLetters text hne h
    (index text = .ok name.number ↔ name.number < 10 ^ Text.maxDigits) ∧
      (index text = .error (.conversion .written) ↔ 10 ^ Text.maxDigits ≤ name.number) ∧
      (text.length ≤ 3038 → name.number < 10 ^ Text.maxDigits) ∧
      (3040 ≤ text.length → 10 ^ Text.maxDigits ≤ name.number) ∧
      (name.text = text.map Char.toUpper ∧ index name.text = index text) ∧
      Function.Bijective Label.number ∧
      (∀ other : Label,
        List.Shortlex (· < ·) name.text other.text ↔ name.number < other.number) ∧
      (text.length ≤ 3 ↔ name.number < 18278) ∧
      (text.length ≤ 3 → shortPosition name.text = .ok (name.number + 1)) ∧
      shortPosition (name.text.take 3) = .ok (name.front.number + 1) ∧
      name.number = (name.text.drop 3).foldl nextIndex name.front.number := by
  intro name
  have hindex : index text = logged name.number := index_of_isAlpha hne h
  have hlength : name.text.length = text.length := List.length_map _
  rw [hindex, ← hlength]
  exact ⟨logged_eq_ok_iff, logged_eq_error_iff, Label.number_lt_of_length,
    Label.le_number_of_length, ⟨rfl, name.index_text⟩, Label.number_bijective,
    name.shortlex_iff_number_lt, name.length_le_three_iff, name.shortPosition_text,
    name.front.shortPosition_text (List.length_take_le 3 name.text), name.number_eq_foldl⟩

/-- A label whose first letters are in upper and lower case, and which is counted on after them. -/
theorem index_counts_mixed_case :
    "aBcD".toList ≠ [] ∧ (∀ c ∈ "aBcD".toList, c.isAlpha) ∧ index "aBcD".toList = .ok 19009 := by
  have hne : "aBcD".toList ≠ [] := by decide
  have hletters : ∀ c ∈ "aBcD".toList, c.isAlpha := by simp
  obtain ⟨hindex, -, hlength, -⟩ := index_counts_labels "aBcD".toList hne hletters
  have hnumber : (Label.ofLetters "aBcD".toList hne hletters).number = 19009 := by rfl
  rw [← hnumber]
  exact ⟨hne, hletters, hindex.mpr (hlength (by decide))⟩

/-- A label of so many letters that its number is not written. -/
def overlong : Text :=
  List.replicate 3040 'A'

/-- It is written with ASCII letters. -/
theorem isAlpha_of_mem_overlong : ∀ c ∈ overlong, c.isAlpha := by
  intro c hc
  rw [List.eq_of_mem_replicate hc]
  decide

/-- A label of ASCII letters without an index. -/
theorem overlong_has_no_index :
    (∀ c ∈ overlong, c.isAlpha) ∧ index overlong = .error (.conversion .written) :=
  ⟨isAlpha_of_mem_overlong, index_of_length isAlpha_of_mem_overlong
    (Nat.le_of_eq List.length_replicate.symm)⟩

/-! ## The columns with a label -/

/-- The columns up to `ZZZ` have their labels. -/
theorem label_of_lt {column : ℕ} (h : column < 18278) :
    label column = .ok (Label.ofNumber column).text := by
  have hlast := lastPosition_eq
  have hrange : 1 ≤ (column : ℤ) + 1 ∧ (column : ℤ) + 1 ≤ lastPosition := by omega
  exact if_pos hrange

/-- The columns after `ZZZ` have none. -/
theorem label_of_le {column : ℕ} (h : 18278 ≤ column) :
    label column = .error (.invalidPosition (column + 1)) := by
  have hlast := lastPosition_eq
  have hrange : ¬ (1 ≤ (column : ℤ) + 1 ∧ (column : ℤ) + 1 ≤ lastPosition) := by omega
  exact if_neg hrange

/-- Only the columns up to `ZZZ` have a label. -/
theorem lt_of_label_eq_ok {column : ℕ} {text : Text} (h : label column = .ok text) :
    column < 18278 := by
  by_contra hbeyond
  rw [label_of_le (Nat.le_of_not_lt hbeyond)] at h
  cases h

/-- The columns up to `ZZZ` have few digits. -/
theorem lt_of_lt_lastPosition {column : ℕ} (h : column < 18278) : column < 10 ^ Text.maxDigits := by
  have hfew : 10 ^ 5 ≤ 10 ^ Text.maxDigits := Nat.pow_le_pow_right (by decide) (by decide)
  exact Nat.lt_of_lt_of_le (Nat.lt_trans h (by decide)) hfew

/-- A logged index is the index. -/
theorem eq_of_logged {column number : ℕ} (h : logged column = .ok number) : column = number := by
  unfold logged at h
  split at h
  · exact Except.ok.inj h
  · cases h

/-- A label is given back for its index when it has up to three letters. -/
theorem label_number_iff (name : Label) :
    label name.number = .ok name.text ↔ name.text.length ≤ 3 := by
  rw [name.length_le_three_iff]
  refine ⟨lt_of_label_eq_ok, fun hlt => ?_⟩
  rw [label_of_lt hlt, name.ofNumber_number]

/-- The label of a column has the index of the column, and the index of a label has this label, for
the columns up to `ZZZ` and their labels and for no others: a column after them has no label, though
it is the index of one. -/
theorem label_inverse_iff (column : ℕ) (text : Text) :
    ((∃ name : Label, label column = .ok name.text ∧ index name.text = .ok column) ↔
        column < 18278) ∧
      (18278 ≤ column → label column = .error (.invalidPosition (column + 1))) ∧
      (text ≠ [] → (∀ c ∈ text, c.isAlpha) →
        ((∃ number : ℕ, index text = .ok number ∧ label number = .ok (text.map Char.toUpper)) ↔
          text.length ≤ 3) ∧
        (text.length ≤ 3038 → ∃ number : ℕ, index text = .ok number ∧
          (label number = .ok (text.map Char.toUpper) ↔ text.length ≤ 3))) := by
  refine ⟨⟨?_, fun hlt => ?_⟩, label_of_le, fun hne h => ?_⟩
  · rintro ⟨name, hlabel, -⟩
    exact lt_of_label_eq_ok hlabel
  · refine ⟨.ofNumber column, label_of_lt hlt, ?_⟩
    rw [Label.index_text, Label.number_ofNumber, logged_of_lt (lt_of_lt_lastPosition hlt)]
  · have hindex : index text = logged (Label.ofLetters text hne h).number := index_of_isAlpha hne h
    have hlength : (text.map Char.toUpper).length = text.length := List.length_map _
    have hgiven := label_number_iff (.ofLetters text hne h)
    have hwritten := @Label.number_lt_of_length (.ofLetters text hne h)
    rw [← hlength, hindex]
    refine ⟨⟨?_, fun hshort => ?_⟩, fun hfew => ?_⟩
    · rintro ⟨number, hlogged, hlabel⟩
      rw [← eq_of_logged hlogged] at hlabel
      exact hgiven.mp hlabel
    · exact ⟨_, logged_of_lt (hwritten (Nat.le_trans hshort (by decide))), hgiven.mpr hshort⟩
    · exact ⟨_, logged_of_lt (hwritten hfew), hgiven⟩

/-- The last label that is given back, and the first that is not. -/
theorem label_inverse_iff_last :
    (∃ name : Label, label (18277 : ℕ) = .ok name.text ∧ index name.text = .ok 18277) ∧
      label (18278 : ℕ) = .error (.invalidPosition 18279) ∧
      ∃ number : ℕ, index "zZz".toList = .ok number ∧ label number = .ok "ZZZ".toList := by
  obtain ⟨hcolumn, -, hlabels⟩ := label_inverse_iff 18277 "zZz".toList
  obtain ⟨-, hbeyond, -⟩ := label_inverse_iff 18278 "zZz".toList
  refine ⟨hcolumn.mpr (by decide), hbeyond (by decide), ?_⟩
  exact (hlabels (by decide) (by simp)).1.mpr (by decide)

/-- The label after `ZZZ` has an index. -/
theorem index_AAAA : index "AAAA".toList = .ok 18278 := by
  have hne : "AAAA".toList ≠ [] := by decide
  have hletters : ∀ c ∈ "AAAA".toList, c.isAlpha := by simp
  have hnumber : (Label.ofLetters "AAAA".toList hne hletters).number = 18278 := by rfl
  have hlt : (Label.ofLetters "AAAA".toList hne hletters).number < 10 ^ Text.maxDigits :=
    Label.number_lt_of_length (by decide : ("AAAA".toList.map Char.toUpper).length ≤ 3038)
  rw [← hnumber]
  exact (index_of_isAlpha hne hletters).trans (logged_of_lt hlt)

/-- The column after `ZZZ` is the index of `AAAA`, and has no label. -/
theorem label_not_inverse :
    index "AAAA".toList = .ok 18278 ∧
      ¬ ∃ name : Label, label (18278 : ℕ) = .ok name.text ∧ index name.text = .ok 18278 := by
  refine ⟨index_AAAA, ?_⟩
  rintro ⟨name, hlabel, -⟩
  exact absurd (lt_of_label_eq_ok hlabel) (Nat.lt_irrefl 18278)

end Column

end SheetCalc
