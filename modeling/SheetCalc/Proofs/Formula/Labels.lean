import SheetCalc.Proofs.Formula.Cells
import SheetCalc.Proofs.Formula.Source
import SheetCalc.Proofs.Sheet.Columns

/-!
# The labels in a formula

A name of the formula language is written in ASCII, so the letters of a reference in a text are
those from `A` to `Z` in upper or lower case. Main theorem: `Formula.isWritable_of_ofText`. A
reference in a text has a column, a row counted from one and a text that is no more than these two.
`Reference.IsWritable.index_eq` gives the index of its column.
-/

namespace SheetCalc

/-! ## Names -/

namespace Token

/-- What spells an identifier is a name. -/
theorem Spells.isName {written name : Text} (h : Spells written (.identifier name)) :
    IsName name := by
  cases h with
  | identifier hstart hrest => exact ⟨_, _, rfl, hstart, hrest⟩

/-- An identifier in a text is a name. -/
theorem isName_of_list {text name : Text} {tokens : List Token} (h : list text = .ok tokens)
    (hmem : .identifier name ∈ tokens) : IsName name := by
  obtain ⟨lexemes, last, hcomposed, rfl⟩ := ((list_eq_ok_iff text).1 tokens).mp h
  obtain ⟨lexeme, hlexeme, htoken⟩ := List.mem_map.mp hmem
  exact (htoken ▸ (hcomposed.valid lexeme hlexeme).spells).isName

/-- The characters of a name go on with names. -/
theorem IsName.continuesName {name : Text} (h : IsName name) : ∀ c ∈ name, continuesName c := by
  obtain ⟨c, rest, rfl, hstart, hrest⟩ := h
  refine List.forall_mem_cons.mpr ⟨?_, hrest⟩
  simp [Token.continuesName, hstart]

end Token

/-- The letters in a name are ASCII letters. -/
theorem Text.isAlpha_of_continuesName {c : Char} (hname : Token.continuesName c)
    (hletter : isLetter c) : c.isAlpha := by
  have hstart : Token.startsName c := by
    rcases Bool.or_eq_true_iff.mp hname with hstart | hdigit
    · exact hstart
    · exact absurd hletter (not_isLetter_of_isDigit hdigit)
  rwa [isLetter_of_lt (Token.toNat_lt_of_startsName hstart)] at hletter

/-- A reference that a name spells is writable. -/
theorem Reference.Spells.isWritable {name : Text} {target : Reference} (h : Spells name target)
    (hname : Token.IsName name) : target.IsWritable := by
  have hall := hname.continuesName
  obtain ⟨first, rest, hfirst, hstart, -⟩ := hname
  cases h with
  | @mk column digits hcolumn hdigits hrow =>
      refine ⟨?_, ?_, Int.ofNat_le.mpr hrow, digits, hdigits, rfl, rfl⟩
      · -- Without a column the name would start with a digit.
        rintro rfl
        rw [List.nil_append] at hfirst
        have hdigit := hdigits first (hfirst ▸ List.mem_cons_self)
        exact (Token.of_startsName hstart).2.2 (.inl hdigit)
      · intro c hc
        exact Text.isAlpha_of_continuesName (hall c (List.mem_append_left _ hc)) (hcolumn c hc)

/-! ## References -/

/-- The label of a writable reference, in upper case. -/
def Reference.IsWritable.label {target : Reference} (h : target.IsWritable) : Column.Label :=
  .ofLetters target.column h.column_ne_nil h.isAlpha

/-- The index of the column of a writable reference is the number of its label, if that can be
logged. -/
theorem Reference.IsWritable.index_eq {target : Reference} (h : target.IsWritable) :
    Column.index target.column = Column.logged h.label.number :=
  Column.index_of_isAlpha h.column_ne_nil h.isAlpha

/-- The references in a text are writable. -/
theorem Formula.isWritable_of_ofText {line : Int} {text : Text} {formula : Formula Leaf}
    (h : ofText line text = .ok formula) {target : Reference}
    (htarget : .reference target ∈ formula.toExpr.leaves) : target.IsWritable := by
  obtain ⟨tokens, htokens, token, hmem, hatom⟩ := exists_token_of_ofText h htarget
  cases hatom with
  | reference hspells => exact hspells.isWritable (Token.isName_of_list htokens hmem)

end SheetCalc
