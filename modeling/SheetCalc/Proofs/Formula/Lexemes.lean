import SheetCalc.Proofs.Decimal.Plain
import SheetCalc.Token

/-!
# Lexemes

A formula is written with lexemes, each of which stands for a token, and with blanks between
them. Blanks are free, but a name or a numeral ends only where the next character cannot go on
with it: `Lexeme.Apart` says which lexemes can stand side by side without a blank. Main theorem:
`list_eq_ok_iff`. The tokens of a formula are those that its lexemes stand for, and a formula
that is not made of lexemes has none.
-/

namespace SheetCalc

open Text (isBlank)

namespace Numeral

variable {negative : Bool} {text : Text} {c : Char}

/-- The digits that are split off are digits. -/
theorem isDigit_ofUnsigned (h : c ∈ (ofUnsigned negative text).1.digits) : c.isDigit := by
  unfold ofUnsigned at h
  split at h
  · rcases List.mem_append.mp h with hwhole | hfraction
    · exact List.mem_takeWhile_imp hwhole
    · exact List.mem_takeWhile_imp hfraction
  · rcases List.mem_append.mp h with hwhole | hfraction
    · exact List.mem_takeWhile_imp hwhole
    · exact absurd hfraction List.not_mem_nil

/-- The digits before the point are those at the front of the text. -/
theorem whole_ofUnsigned : (ofUnsigned negative text).1.whole = text.takeWhile Char.isDigit := by
  unfold ofUnsigned
  split <;> rfl

/-- The sign is the one that was read before. -/
theorem negative_ofUnsigned : (ofUnsigned negative text).1.negative = negative := by
  unfold ofUnsigned
  split <;> rfl

/-- What follows does not go on with the digits. -/
theorem not_isDigit_ofUnsigned (h : c ∈ (ofUnsigned negative text).2.head?) : ¬ c.isDigit := by
  have hstop (text : Text) (hmem : c ∈ (text.dropWhile Char.isDigit).head?) : ¬ c.isDigit := by
    have hnot := List.head?_dropWhile_not Char.isDigit text
    rw [Option.mem_def.mp hmem] at hnot
    simpa using hnot
  unfold ofUnsigned at h
  split at h
  · exact hstop _ h
  · exact hstop _ h

/-- Behind a minus sign an unsigned numeral is split off, and otherwise at once. -/
theorem split_cons (c : Char) (text : Text) :
    split (c :: text) = if c = '-' then ofUnsigned true text else ofUnsigned false (c :: text) := by
  unfold split
  split
  · next h =>
    obtain ⟨rfl, rfl⟩ := List.cons.inj h
    exact (if_pos rfl).symm
  · next h =>
    have hminus : c ≠ '-' := by
      rintro rfl
      exact h text rfl
    exact (if_neg hminus).symm

/-- A numeral that is split off after a digit or a minus sign is spelled when it has a digit. -/
theorem isSpelled_split (hstart : c.isDigit ∨ c = '-')
    (hdigits : (split (c :: text)).1.digits ≠ []) : (split (c :: text)).1.IsSpelled := by
  rw [split_cons] at hdigits ⊢
  by_cases hminus : c = '-'
  · rw [if_pos hminus] at hdigits ⊢
    refine ⟨fun d => isDigit_ofUnsigned, ?_⟩
    by_cases hwhole : (ofUnsigned true text).1.whole = []
    · refine .inr ⟨negative_ofUnsigned, ?_⟩
      rwa [digits, hwhole, List.nil_append] at hdigits
    · exact .inl hwhole
  · rw [if_neg hminus]
    refine ⟨fun d => isDigit_ofUnsigned, .inl ?_⟩
    rw [whole_ofUnsigned, List.takeWhile_cons_of_pos (hstart.resolve_right hminus)]
    exact List.cons_ne_nil _ _

/-- What follows a numeral does not go on with its digits. -/
theorem not_isDigit_split {d : Char} (h : d ∈ (split (c :: text)).2.head?) : ¬ d.isDigit := by
  rw [split_cons] at h
  split at h <;> exact not_isDigit_ofUnsigned h

end Numeral

namespace Token

/-! ## Characters -/

theorem isDigit_iff {c : Char} : c.isDigit ↔ 48 ≤ c.toNat ∧ c.toNat ≤ 57 := by
  simp [Char.isDigit, UInt32.le_iff_toNat_le]

theorem startsName_iff {c : Char} :
    startsName c ↔ c = '_' ∨ (65 ≤ c.toNat ∧ c.toNat ≤ 90) ∨ (97 ≤ c.toNat ∧ c.toNat ≤ 122) := by
  have hupper : c.isUpper ↔ 65 ≤ c.toNat ∧ c.toNat ≤ 90 := by
    show decide (65 ≤ c.val ∧ c.val ≤ 90) = true ↔ _
    simp [UInt32.le_iff_toNat_le]
  have hlower : c.isLower ↔ 97 ≤ c.toNat ∧ c.toNat ≤ 122 := by
    show (decide (97 ≤ c.val) && decide (c.val ≤ 122)) = true ↔ _
    simp [UInt32.le_iff_toNat_le]
  have hname : startsName c = (c == '_' || (c.isUpper || c.isLower)) := rfl
  rw [hname, Bool.or_eq_true, Bool.or_eq_true, hupper, hlower, beq_iff_eq]

/-- Names start with ASCII characters. -/
theorem toNat_lt_of_startsName {c : Char} (h : startsName c) : c.toNat < 128 := by
  rcases startsName_iff.mp h with rfl | hletter
  · decide
  · omega

/-- A character that goes on with a numeral, or cannot stand behind one. -/
def continuesNumeral (c : Char) : Bool :=
  c.isDigit || c == '.' || c == '-'

/-- A character that goes on with a token. Marks and quoted texts end by themselves. -/
def goesOn : Token → Char → Bool
  | .identifier _ => continuesName
  | .number _ => continuesNumeral
  | .string _ | .mark .. => fun _ => false

/-- The rest of a text does not go on with a token. -/
def EndsAt (token : Token) (rest : Text) : Prop :=
  ∀ c ∈ rest.head?, ¬ token.goesOn c

/-- A blank goes on with no token. -/
theorem not_goesOn_of_isBlank {c : Char} (h : isBlank c) (token : Token) : ¬ token.goesOn c := by
  have hcode : c.toNat ≤ 32 ∨ 128 ≤ c.toNat := by
    simp only [isBlank, Bool.or_eq_true, Bool.and_eq_true, decide_eq_true_eq, beq_iff_eq] at h
    omega
  have hname : ¬ startsName c := by
    rw [startsName_iff]
    rintro (rfl | hletter)
    · exact absurd h (by decide)
    · omega
  have hdigit : ¬ c.isDigit := by
    rw [isDigit_iff]
    omega
  cases token with
  | identifier name => simpa [goesOn, continuesName, hname] using hdigit
  | number value =>
      have hpoint : c ≠ '.' := by
        rintro rfl
        exact absurd h (by decide)
      have hminus : c ≠ '-' := by
        rintro rfl
        exact absurd h (by decide)
      simp [goesOn, continuesNumeral, hdigit, hpoint, hminus]
  | string | mark => exact Bool.false_ne_true

/-- The marks are five characters, so that a property of all marks is checked on these. -/
theorem of_mark? {p : Char → Bool} (hall : [';', '(', ')', '[', ']'].all p) {c : Char} {sign : Mark}
    (h : mark? c = some sign) : p c := by
  have hmem : c ∈ [';', '(', ')', '[', ']'] := by
    unfold mark? at h
    split at h <;> simp_all
  exact List.all_eq_true.mp hall c hmem

/-- A mark goes on with no token. -/
theorem not_goesOn_of_mark? {c : Char} {sign : Mark} (h : mark? c = some sign) (token : Token) :
    ¬ token.goesOn c := by
  have hname : !continuesName c := of_mark? (p := fun c => !continuesName c) (by decide) h
  have hnumeral : !continuesNumeral c := of_mark? (p := fun c => !continuesNumeral c) (by decide) h
  cases token with
  | identifier name => simpa [goesOn] using hname
  | number value => simpa [goesOn] using hnumeral
  | string | mark => exact Bool.false_ne_true

/-- A character that starts a name starts nothing else. -/
theorem of_startsName {c : Char} (h : startsName c) :
    mark? c = none ∧ c ≠ '"' ∧ ¬ (c.isDigit ∨ c = '-') := by
  have hmark : mark? c = none := by
    rw [Option.eq_none_iff_forall_ne_some]
    intro sign hsign
    have hnot : !startsName c := of_mark? (p := fun c => !startsName c) (by decide) hsign
    simp [h] at hnot
  refine ⟨hmark, ?_, ?_⟩
  · rintro rfl
    exact absurd h (by decide)
  · rintro (hdigit | rfl)
    · rw [isDigit_iff] at hdigit
      rcases startsName_iff.mp h with rfl | hletter
      · exact absurd hdigit (by decide)
      · omega
    · exact absurd h (by decide)

/-- A character that starts a number is neither a mark nor a quote. -/
theorem of_startsNumber {c : Char} (h : c.isDigit ∨ c = '-') : mark? c = none ∧ c ≠ '"' := by
  have hmark : mark? c = none := by
    rw [Option.eq_none_iff_forall_ne_some]
    intro sign hsign
    have hnot : !(c.isDigit || c == '-') :=
      of_mark? (p := fun c => !(c.isDigit || c == '-')) (by decide) hsign
    rcases h with hdigit | rfl <;> simp_all
  refine ⟨hmark, ?_⟩
  rintro rfl
  exact absurd h (by decide)

/-! ## One token -/

/-- A text spells a token. -/
inductive Spells : Text → Token → Prop
  | mark {c : Char} {sign : Mark} : mark? c = some sign → Spells [c] (.mark sign [c])
  | string {content : Text} : '"' ∉ content → Spells ('"' :: (content ++ ['"'])) (.string content)
  | identifier {c : Char} {rest : Text} : startsName c → (∀ d ∈ rest, continuesName d) →
      Spells (c :: rest) (.identifier (c :: rest))
  | number {numeral : Numeral} : numeral.IsSpelled → Spells numeral.text (.number numeral.value)

/-- A spelled numeral starts with a digit or a minus sign. -/
theorem exists_cons_of_isSpelled {numeral : Numeral} (h : numeral.IsSpelled) :
    ∃ c rest, numeral.text = c :: rest ∧ (c.isDigit ∨ c = '-') := by
  obtain ⟨negative, whole, fraction⟩ := numeral
  cases negative with
  | true => exact ⟨'-', _, rfl, .inr rfl⟩
  | false =>
      have hwhole : whole ≠ [] := by simpa using h.starts
      obtain ⟨c, rest, rfl⟩ := List.exists_cons_of_ne_nil hwhole
      exact ⟨c, _, rfl, .inl (h.isDigit c List.mem_cons_self)⟩

/-- The number at the front of a text is a spelled numeral with which the rest does not go on. -/
theorem number?_eq_ok_iff {c : Char} {text rest : Text} {token : Token}
    (hstart : c.isDigit ∨ c = '-') :
    number? (c :: text) = .ok (token, rest) ↔
      ∃ numeral : Numeral, numeral.IsSpelled ∧ .number numeral.value = token ∧
        c :: text = numeral.text ++ rest ∧ ∀ d ∈ rest.head?, ¬ continuesNumeral d := by
  constructor
  · intro h
    unfold number? at h
    dsimp only at h
    split at h
    · cases h
    · cases h
    · next hpoint hminus =>
      split at h
      · cases h
      · next hdigits =>
        obtain ⟨rfl, rfl⟩ := Prod.mk.inj (Except.ok.inj h)
        refine ⟨_, Numeral.isSpelled_split hstart hdigits, rfl, (Numeral.text_split _).symm, ?_⟩
        intro d hd hgoesOn
        obtain ⟨after, hafter⟩ := List.head?_eq_some_iff.mp hd
        have hdigit := Numeral.not_isDigit_split hd
        simp only [continuesNumeral, Bool.or_eq_true, beq_iff_eq] at hgoesOn
        rcases hgoesOn with (hgoesOn | rfl) | rfl
        · exact hdigit hgoesOn
        · exact hpoint after hafter
        · exact hminus after hafter
  · rintro ⟨numeral, hspelled, rfl, htext, hends⟩
    have hrest : ∀ d ∈ rest.head?, ¬ d.isDigit ∧ d ≠ '.' := by
      intro d hd
      have hnot := hends d hd
      simp only [continuesNumeral, Bool.or_eq_true, beq_iff_eq] at hnot
      tauto
    rw [htext]
    unfold number?
    rw [Numeral.split_append hspelled.isNumber hrest]
    dsimp only
    split
    · exact absurd (hends '.' rfl) (by decide)
    · exact absurd (hends '-' rfl) (by decide)
    · exact if_neg hspelled.isNumber.digits_ne_nil

/-- The quoted text behind a quote ends at the next quote. -/
theorem first_quote_eq_ok_iff {text rest : Text} {token : Token} :
    first '"' text = .ok (token, rest) ↔
      ∃ content, '"' ∉ content ∧ .string content = token ∧ text = content ++ '"' :: rest := by
  have hmark : mark? '"' = none := rfl
  simp only [first, hmark, if_true]
  constructor
  · intro h
    have hsplit := List.takeWhile_append_dropWhile (p := (· ≠ '"')) (l := text)
    split at h
    · cases h
    · next c after hafter =>
      obtain ⟨rfl, rfl⟩ := Prod.mk.inj (Except.ok.inj h)
      have hquote : c = '"' := by
        have hnot := List.head?_dropWhile_not (· ≠ '"') text
        rw [hafter] at hnot
        simpa using hnot
      refine ⟨_, ?_, rfl, ?_⟩
      · intro hmem
        simpa using List.mem_takeWhile_imp hmem
      · refine hsplit.symm.trans ?_
        rw [hafter, hquote]
  · rintro ⟨content, hcontent, rfl, rfl⟩
    have hfront : ∀ c ∈ content, decide (c ≠ '"') = true := by
      intro c hc
      rw [decide_eq_true_eq]
      rintro rfl
      exact hcontent hc
    have hrest : ∀ c ∈ ('"' :: rest).head?, ¬ decide (c ≠ '"') = true := by
      intro c hc
      obtain rfl := Option.some.inj hc
      decide
    rw [Text.dropWhile_append_of_head hfront hrest, Text.takeWhile_append_of_head hfront hrest]

/-- A name at the front of a text is as long as the characters of names go on. -/
theorem first_name_eq_ok_iff {c : Char} {text rest : Text} {token : Token} (h : startsName c) :
    first c text = .ok (token, rest) ↔
      ∃ name, (∀ d ∈ name, continuesName d) ∧ .identifier (c :: name) = token ∧
        text = name ++ rest ∧ ∀ d ∈ rest.head?, ¬ continuesName d := by
  obtain ⟨hmark, hquote, hnumber⟩ := of_startsName h
  have hfirst : first c text =
      .ok (.identifier (c :: text.takeWhile continuesName), text.dropWhile continuesName) := by
    simp only [first, hmark, hquote, hnumber, h, if_true, if_false]
  rw [hfirst]
  constructor
  · intro hok
    obtain ⟨rfl, rfl⟩ := Prod.mk.inj (Except.ok.inj hok)
    refine ⟨_, fun d => List.mem_takeWhile_imp, rfl, List.takeWhile_append_dropWhile.symm, ?_⟩
    intro d hd
    have hnot := List.head?_dropWhile_not continuesName text
    rw [Option.mem_def.mp hd] at hnot
    simpa using hnot
  · rintro ⟨name, hname, rfl, rfl, hends⟩
    rw [Text.dropWhile_append_of_head hname hends, Text.takeWhile_append_of_head hname hends]

/-- A number is read where it starts. -/
theorem first_of_startsNumber {c : Char} (h : c.isDigit ∨ c = '-') (text : Text) :
    first c text = number? (c :: text) := by
  obtain ⟨hmark, hquote⟩ := of_startsNumber h
  simp only [first, hmark, hquote, h, if_true, if_false]

/-- Reading takes the text of a token, up to where the rest does not go on with it. -/
theorem first_eq_ok_iff {c : Char} {text rest : Text} {token : Token} :
    first c text = .ok (token, rest) ↔
      ∃ written, Spells written token ∧ c :: text = written ++ rest ∧ token.EndsAt rest := by
  constructor
  · intro h
    cases hmark : mark? c with
    | some sign =>
        simp only [first, hmark] at h
        obtain ⟨rfl, rfl⟩ := Prod.mk.inj (Except.ok.inj h)
        exact ⟨[c], .mark hmark, rfl, fun d _ => Bool.false_ne_true⟩
    | none =>
        by_cases hquote : c = '"'
        · obtain rfl := hquote
          obtain ⟨content, hcontent, rfl, rfl⟩ := first_quote_eq_ok_iff.mp h
          refine ⟨_, .string hcontent, ?_, fun d _ => Bool.false_ne_true⟩
          simp
        · by_cases hnumber : c.isDigit ∨ c = '-'
          · rw [first_of_startsNumber hnumber] at h
            obtain ⟨numeral, hspelled, rfl, htext, hends⟩ := (number?_eq_ok_iff hnumber).mp h
            exact ⟨_, .number hspelled, htext, hends⟩
          · by_cases hname : startsName c
            · obtain ⟨name, hall, rfl, rfl, hends⟩ := (first_name_eq_ok_iff hname).mp h
              exact ⟨_, .identifier hname hall, rfl, hends⟩
            · simp [first, hmark, hquote, hnumber, hname] at h
  · rintro ⟨written, hspells, htext, hends⟩
    cases hspells with
    | mark hmark =>
        obtain ⟨rfl, rfl⟩ := List.cons.inj htext
        simp only [first, hmark]
    | string hcontent =>
        obtain ⟨rfl, rfl⟩ := List.cons.inj htext
        exact first_quote_eq_ok_iff.mpr ⟨_, hcontent, rfl, by simp⟩
    | identifier hname hall =>
        obtain ⟨rfl, rfl⟩ := List.cons.inj htext
        exact (first_name_eq_ok_iff hname).mpr ⟨_, hall, rfl, rfl, hends⟩
    | number hspelled =>
        obtain ⟨d, after, hnumeral, hnumber⟩ := exists_cons_of_isSpelled hspelled
        obtain rfl : c = d := by
          rw [hnumeral] at htext
          exact (List.cons.inj htext).1
        rw [first_of_startsNumber hnumber]
        exact (number?_eq_ok_iff hnumber).mpr ⟨_, hspelled, rfl, htext, hends⟩

/-- The first character of a token is no blank. -/
theorem Spells.exists_cons {written : Text} {token : Token} (h : Spells written token) :
    ∃ c rest, written = c :: rest ∧ ¬ isBlank c := by
  cases h with
  | @mark c _ hmark =>
      have hnot : !isBlank c := of_mark? (p := fun c => !isBlank c) (by decide) hmark
      exact ⟨c, [], rfl, by simpa using hnot⟩
  | string hcontent => exact ⟨'"', _, rfl, by decide⟩
  | @identifier c rest hname hall =>
      refine ⟨c, rest, rfl, fun hblank => ?_⟩
      have hgoesOn : continuesName c := by simp [continuesName, hname]
      exact not_goesOn_of_isBlank hblank (.identifier []) hgoesOn
  | number hspelled =>
      obtain ⟨c, rest, hnumeral, hnumber⟩ := exists_cons_of_isSpelled hspelled
      refine ⟨c, rest, hnumeral, fun hblank => ?_⟩
      have hgoesOn : continuesNumeral c := by
        rcases hnumber with hdigit | rfl
        · simp [continuesNumeral, hdigit]
        · rfl
      exact not_goesOn_of_isBlank hblank (.number default) hgoesOn

/-! ## All tokens -/

/-- Blanks in front of a text are skipped. -/
theorem scan_blanks {blanks : Text} (h : ∀ c ∈ blanks, isBlank c) (text : Text) :
    scan (blanks ++ text) = scan text := by
  induction blanks with
  | nil => rfl
  | cons c blanks ih =>
      rw [List.cons_append, scan, if_pos (h c List.mem_cons_self)]
      exact ih fun d hd => h d (List.mem_cons_of_mem c hd)

/-- A text that starts with no blank has the tokens of its first token and of what follows. -/
theorem scan_cons_eq_ok_iff {c : Char} {text : Text} {tokens : List Token} (h : ¬ isBlank c) :
    scan (c :: text) = .ok tokens ↔
      ∃ token rest following, first c text = .ok (token, rest) ∧ scan rest = .ok following ∧
        token :: following = tokens := by
  rw [scan, if_neg h]
  cases hfirst : first c text with
  | error cause => simp
  | ok result =>
      obtain ⟨token, rest⟩ := result
      cases hscan : scan rest with
      | error cause => simp [hscan]
      | ok following => simp [hscan]

/-- A token in front of a text that does not go on with it is the first one. -/
theorem scan_append {written rest : Text} {token : Token} {following : List Token}
    (hspells : Spells written token) (hends : token.EndsAt rest)
    (hscan : scan rest = .ok following) :
    scan (written ++ rest) = .ok (token :: following) := by
  obtain ⟨c, after, rfl, hblank⟩ := hspells.exists_cons
  have hfirst : first c (after ++ rest) = .ok (token, rest) :=
    first_eq_ok_iff.mpr ⟨c :: after, hspells, rfl, hends⟩
  exact (scan_cons_eq_ok_iff hblank).mpr ⟨token, rest, following, hfirst, hscan, rfl⟩

end Token

/-- A token in a text: the blanks in front of it, and how it is written. -/
structure Lexeme where
  blanks : Text
  written : Text
  token : Token

namespace Lexeme

/-- The characters of a lexeme. -/
def text (lexeme : Lexeme) : Text :=
  lexeme.blanks ++ lexeme.written

/-- The blanks are blank, and what is written spells the token. -/
structure IsValid (lexeme : Lexeme) : Prop where
  isBlank : ∀ c ∈ lexeme.blanks, isBlank c
  spells : Token.Spells lexeme.written lexeme.token

/-- Two lexemes in a row are told apart. Without a blank between them, a name is not followed by a
name or by a number that starts with a digit, and a number is not followed by a number. -/
structure Apart (left right : Lexeme) : Prop where
  identifier : right.blanks = [] → left.token.kind = .identifier →
    right.token.kind ≠ .identifier ∧
      ¬ (right.token.kind = .number ∧ ∃ c ∈ right.written.head?, c.isDigit)
  number : right.blanks = [] → left.token.kind = .number → right.token.kind ≠ .number

open Token

/-- A lexeme goes on with a name if it is a name, or a number that starts with a digit. -/
theorem continuesName_head_iff {written : Text} {token : Token} (h : Spells written token) :
    (∃ c ∈ written.head?, continuesName c) ↔
      token.kind = .identifier ∨ token.kind = .number ∧ ∃ c ∈ written.head?, c.isDigit := by
  cases h with
  | mark hmark =>
      have hnot := not_goesOn_of_mark? hmark (.identifier [])
      simpa [kind, goesOn] using hnot
  | string =>
      have hquote : ¬ continuesName '"' := by decide
      simp [kind, hquote]
  | identifier hname => simp [kind, continuesName, hname]
  | number hspelled =>
      obtain ⟨c, rest, hnumeral, hnumber⟩ := exists_cons_of_isSpelled hspelled
      have hname : ¬ startsName c := fun hname => (of_startsName hname).2.2 hnumber
      simp [hnumeral, kind, continuesName, hname]

/-- A lexeme goes on with a number if it is a number. -/
theorem continuesNumeral_head_iff {written : Text} {token : Token} (h : Spells written token) :
    (∃ c ∈ written.head?, continuesNumeral c) ↔ token.kind = .number := by
  cases h with
  | mark hmark =>
      have hnot := not_goesOn_of_mark? hmark (.number default)
      simpa [kind, goesOn] using hnot
  | string => simp [kind, continuesNumeral, Char.isDigit]
  | @identifier c _ hname =>
      have hpoint : c ≠ '.' := by
        rintro rfl
        exact absurd hname (by decide)
      have hnumber := (of_startsName hname).2.2
      simp only [not_or] at hnumber
      simp [kind, continuesNumeral, hpoint, hnumber]
  | number hspelled =>
      obtain ⟨c, rest, hnumeral, hnumber⟩ := exists_cons_of_isSpelled hspelled
      rcases hnumber with hdigit | rfl
      · simp [hnumeral, kind, continuesNumeral, hdigit]
      · simp [hnumeral, kind, continuesNumeral]

/-- Lexemes are told apart where the second one does not go on with the first one. -/
theorem apart_iff {left right : Lexeme} (h : right.IsValid) :
    Apart left right ↔ left.token.EndsAt right.text := by
  obtain ⟨_, _, previous⟩ := left
  obtain ⟨blanks, written, token⟩ := right
  obtain ⟨hblanks, hspells⟩ := h
  cases blanks with
  | cons c blanks =>
      constructor
      · intro _ d hd
        obtain rfl := Option.some.inj hd
        exact not_goesOn_of_isBlank (hblanks _ List.mem_cons_self) previous
      · intro _
        exact ⟨nofun, nofun⟩
  | nil =>
      have hname := continuesName_head_iff hspells
      have hnumeral := continuesNumeral_head_iff hspells
      cases previous with
      | identifier name =>
          have hends : (Token.identifier name).EndsAt written ↔
              ¬ ∃ c ∈ written.head?, continuesName c := by simp [EndsAt, goesOn]
          show _ ↔ (Token.identifier name).EndsAt written
          rw [hends, hname, not_or]
          exact ⟨fun h => h.identifier rfl rfl, fun h => ⟨fun _ _ => h, nofun⟩⟩
      | number value =>
          have hends : (Token.number value).EndsAt written ↔
              ¬ ∃ c ∈ written.head?, continuesNumeral c := by simp [EndsAt, goesOn]
          show _ ↔ (Token.number value).EndsAt written
          rw [hends, hnumeral]
          exact ⟨fun h => h.number rfl rfl, fun h => ⟨nofun, fun _ _ => h⟩⟩
      | string | mark =>
          constructor
          · intro _ c _
            exact Bool.false_ne_true
          · intro _
            exact ⟨nofun, nofun⟩

end Lexeme

/-- A text is made of lexemes, each told apart from the next one, and of blanks after them. -/
structure ComposedOf (text : Text) (lexemes : List Lexeme) (last : Text) : Prop where
  text_eq : text = lexemes.flatMap Lexeme.text ++ last
  valid : ∀ lexeme ∈ lexemes, lexeme.IsValid
  apart : lexemes.IsChain Lexeme.Apart
  isBlank : ∀ c ∈ last, isBlank c

namespace ComposedOf

variable {text last : Text} {lexemes : List Lexeme}

/-- A text goes on with a token if its first lexeme does. -/
theorem endsAt_iff (h : ComposedOf text lexemes last) (token : Token) :
    token.EndsAt text ↔ ∀ lexeme ∈ lexemes.head?, token.EndsAt lexeme.text := by
  obtain ⟨rfl, hvalid, -, hlast⟩ := h
  cases lexemes with
  | nil =>
      constructor
      · intro _ lexeme hmem
        cases hmem
      · intro _ c hc
        exact Token.not_goesOn_of_isBlank (hlast c (List.mem_of_head? hc)) token
  | cons lexeme lexemes =>
      obtain ⟨c, rest, hwritten, -⟩ := (hvalid lexeme List.mem_cons_self).spells.exists_cons
      have hhead : ((lexeme :: lexemes).flatMap Lexeme.text ++ last).head? = lexeme.text.head? := by
        cases hblanks : lexeme.blanks <;> simp [Lexeme.text, hwritten, hblanks]
      rw [Token.EndsAt, hhead, List.head?_cons]
      exact ⟨fun h next hnext => Option.some.inj hnext ▸ h, fun h => h lexeme rfl⟩

/-- The blanks in front of a text belong to its first lexeme, or to its end. -/
theorem blank {c : Char} (h : ComposedOf text lexemes last) (hc : Text.isBlank c) :
    ∃ others rest, ComposedOf (c :: text) others rest ∧
      others.map Lexeme.token = lexemes.map Lexeme.token := by
  obtain ⟨rfl, hvalid, hapart, hlast⟩ := h
  cases lexemes with
  | nil =>
      refine ⟨[], c :: last, ⟨rfl, hvalid, hapart, ?_⟩, rfl⟩
      exact List.forall_mem_cons.mpr ⟨hc, hlast⟩
  | cons lexeme lexemes =>
      obtain ⟨hfirst, hrest⟩ := List.forall_mem_cons.mp hvalid
      obtain ⟨hnext, hchain⟩ := List.isChain_cons.mp hapart
      refine ⟨{ lexeme with blanks := c :: lexeme.blanks } :: lexemes, last,
        ⟨rfl, ?_, ?_, hlast⟩, rfl⟩
      · have hblanks : ∀ d ∈ c :: lexeme.blanks, Text.isBlank d :=
          List.forall_mem_cons.mpr ⟨hc, hfirst.isBlank⟩
        exact List.forall_mem_cons.mpr ⟨⟨hblanks, hfirst.spells⟩, hrest⟩
      · refine List.isChain_cons.mpr ⟨?_, hchain⟩
        intro next hmem
        exact ⟨(hnext next hmem).identifier, (hnext next hmem).number⟩

/-- A token in front of a text that does not go on with it is one more lexeme. -/
theorem cons {written : Text} {token : Token} (h : ComposedOf text lexemes last)
    (hspells : Token.Spells written token) (hends : token.EndsAt text) :
    ComposedOf (written ++ text) (⟨[], written, token⟩ :: lexemes) last := by
  have hnext := (h.endsAt_iff token).mp hends
  obtain ⟨rfl, hvalid, hapart, hlast⟩ := h
  refine ⟨?_, ?_, ?_, hlast⟩
  · rw [List.flatMap_cons, List.append_assoc]
    rfl
  · have hblanks : ∀ c ∈ ([] : Text), Text.isBlank c := fun c hc => absurd hc List.not_mem_nil
    exact List.forall_mem_cons.mpr ⟨⟨hblanks, hspells⟩, hvalid⟩
  · refine List.isChain_cons.mpr ⟨?_, hapart⟩
    intro next hmem
    exact (Lexeme.apart_iff (hvalid next (List.mem_of_head? hmem))).mpr (hnext next hmem)

/-- The tokens of a text are those of its lexemes. -/
theorem scan_eq (h : ComposedOf text lexemes last) :
    Token.scan text = .ok (lexemes.map Lexeme.token) := by
  induction lexemes generalizing text with
  | nil =>
      obtain ⟨rfl, -, -, hlast⟩ := h
      have hblanks := Token.scan_blanks hlast []
      rw [List.append_nil, Token.scan] at hblanks
      exact hblanks
  | cons lexeme lexemes ih =>
      obtain ⟨rfl, hvalid, hapart, hlast⟩ := h
      obtain ⟨hfirst, hrest⟩ := List.forall_mem_cons.mp hvalid
      obtain ⟨hnext, hchain⟩ := List.isChain_cons.mp hapart
      have hcomposed : ComposedOf (lexemes.flatMap Lexeme.text ++ last) lexemes last :=
        ⟨rfl, hrest, hchain, hlast⟩
      have hends : lexeme.token.EndsAt (lexemes.flatMap Lexeme.text ++ last) := by
        refine (hcomposed.endsAt_iff lexeme.token).mpr ?_
        intro next hmem
        exact (Lexeme.apart_iff (hrest next (List.mem_of_head? hmem))).mp (hnext next hmem)
      rw [List.flatMap_cons, Lexeme.text, List.append_assoc, List.append_assoc,
        Token.scan_blanks hfirst.isBlank]
      exact Token.scan_append hfirst.spells hends (ih hcomposed)

end ComposedOf

namespace Token

/-- A text that has tokens is composed of lexemes that stand for them. -/
theorem exists_composedOf_of_scan {text : Text} {tokens : List Token} (h : scan text = .ok tokens) :
    ∃ lexemes last, ComposedOf text lexemes last ∧ lexemes.map Lexeme.token = tokens := by
  induction hlength : text.length using Nat.strongRecOn generalizing text tokens with
  | ind length ih =>
      cases text with
      | nil =>
          rw [scan] at h
          obtain rfl := Except.ok.inj h
          have hnone : ∀ c ∈ ([] : Text), isBlank c := fun c hc => absurd hc List.not_mem_nil
          exact ⟨[], [], ⟨rfl, fun _ hmem => absurd hmem List.not_mem_nil, .nil, hnone⟩, rfl⟩
      | cons c text =>
          rw [List.length_cons] at hlength
          by_cases hblank : isBlank c
          · rw [scan, if_pos hblank] at h
            obtain ⟨lexemes, last, hcomposed, rfl⟩ := ih text.length (by omega) h rfl
            exact hcomposed.blank hblank
          · obtain ⟨token, rest, following, hfirst, hscan, rfl⟩ := (scan_cons_eq_ok_iff hblank).mp h
            have hshorter := length_of_first hfirst
            obtain ⟨lexemes, last, hcomposed, rfl⟩ := ih rest.length (by omega) hscan rfl
            obtain ⟨written, hspells, htext, hends⟩ := first_eq_ok_iff.mp hfirst
            rw [htext]
            exact ⟨_, last, hcomposed.cons hspells hends, rfl⟩

/-- The tokens of a formula are those of the lexemes that its trimmed text is composed of. A formula
whose text is composed of no lexemes has a lexical error. -/
theorem list_eq_ok_iff (formula : Text) :
    (∀ tokens, list formula = .ok tokens ↔
      ∃ lexemes last, ComposedOf (Text.trim formula) lexemes last ∧
        lexemes.map Lexeme.token = tokens) ∧
    ((∃ cause, list formula = .error cause) ↔
      ¬ ∃ lexemes last, ComposedOf (Text.trim formula) lexemes last) := by
  have htokens (tokens : List Token) : list formula = .ok tokens ↔
      ∃ lexemes last, ComposedOf (Text.trim formula) lexemes last ∧
        lexemes.map Lexeme.token = tokens := by
    constructor
    · intro h
      exact exists_composedOf_of_scan h
    · rintro ⟨lexemes, last, hcomposed, rfl⟩
      exact hcomposed.scan_eq
  refine ⟨htokens, ?_, ?_⟩
  · rintro ⟨cause, hcause⟩ ⟨lexemes, last, hcomposed⟩
    cases hcause.symm.trans hcomposed.scan_eq
  · intro hnone
    cases hlist : list formula with
    | error cause => exact ⟨cause, rfl⟩
    | ok tokens =>
        obtain ⟨lexemes, last, hcomposed, -⟩ := (htokens tokens).mp hlist
        exact absurd ⟨lexemes, last, hcomposed⟩ hnone

/-- A name and a negative number need no blank between them, but two numbers do. -/
example : list ['a', '-', '1'] = .ok [.identifier ['a'], .number ⟨true, 1, 0⟩] ∧
    list ['1', '-', '1'] = .error .innerMinus := by
  constructor <;> cbv

end Token

end SheetCalc
