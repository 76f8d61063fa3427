import Mathlib
import SheetCalc.Proofs.Formula.Parsing

/-!
# Writing formulas out

The source of a tree is its text in a formula, with nothing but a semicolon between items. Where a
piece of source ends, a mark follows or the formula ends, so pieces are read one by one: this is
`Reads`. Main theorem: `ofText_source`. The source of a writable formula is read as the same
formula, with every call at the line that it is read for, unless a row is written with more digits
than are read.
-/

namespace SheetCalc

/-! ## Source -/

/-- A name of the formula language: a letter or an underscore, then letters, digits and
underscores. -/
def Token.IsName (name : Text) : Prop :=
  ∃ c rest, name = c :: rest ∧ startsName c ∧ ∀ d ∈ rest, continuesName d

/-- The text of a reference is a column of ASCII letters and the digits of its row, which is counted
from one and may have zeros in front. -/
structure Reference.IsWritable (target : Reference) : Prop where
  column_ne_nil : target.column ≠ []
  isAlpha : ∀ c ∈ target.column, c.isAlpha
  row_pos : 1 ≤ target.row
  text_eq : ∃ digits, (∀ c ∈ digits, c.isDigit) ∧ target.row = Text.toNat digits ∧
    target.text = target.column ++ digits

namespace Leaf

/-- The source of a leaf: a string stands in quotes, a number in plain notation. -/
def source : Leaf → Text
  | .reference target => target.text
  | .literal (.number value) => value.plain
  | .literal (.string content) => '"' :: (content ++ ['"'])
  | .literal (.boolean true) => "true".toList
  | .literal (.boolean false) => "false".toList

/-- A leaf that a formula can hold: a string has no quote, and a number needs no exponent. -/
def IsWritable : Leaf → Prop
  | .reference target => target.IsWritable
  | .literal (.number value) => value.exponent ≤ 0
  | .literal (.string content) => '"' ∉ content
  | .literal (.boolean _) => True

end Leaf

namespace Expr

mutual

/-- The source of a tree: items stand in parentheses or brackets, with semicolons between them. -/
def source : Expr Leaf → Text
  | .leaf content => content.source
  | .array elements => '[' :: (Text.join ";" (sources elements) ++ [']'])
  | .call name arguments _ => name ++ '(' :: (Text.join ";" (sources arguments) ++ [')'])

/-- The sources of trees. -/
def sources : List (Expr Leaf) → List Text
  | [] => []
  | expr :: exprs => expr.source :: sources exprs

end

mutual

/-- A tree that a formula can hold: its calls have names, and its leaves are writable. -/
def IsWritable : Expr Leaf → Prop
  | .leaf content => content.IsWritable
  | .array elements => AreWritable elements
  | .call name arguments _ => Token.IsName name ∧ AreWritable arguments

/-- Trees that a formula can hold. -/
def AreWritable : List (Expr Leaf) → Prop
  | [] => True
  | expr :: exprs => expr.IsWritable ∧ AreWritable exprs

end

end Expr

/-! ## Reading pieces of source -/

namespace Token

/-- A text is read as tokens wherever it ends or a mark follows. -/
def Reads (text : Text) (tokens : List Token) : Prop :=
  ∀ rest following, (∀ c ∈ rest.head?, (mark? c).isSome) → scan rest = .ok following →
    scan (text ++ rest) = .ok (tokens ++ following)

variable {text text' : Text} {tokens tokens' : List Token}

/-- Nothing is read as no tokens. -/
theorem Reads.nil : Reads [] [] := by
  intro rest following _ hscan
  exact hscan

/-- What spells a token is read as that token. -/
theorem Spells.reads {token : Token} (h : Spells text token) : Reads text [token] := by
  intro rest following hrest hscan
  refine scan_append h ?_ hscan
  intro c hc
  obtain ⟨sign, hsign⟩ := Option.isSome_iff_exists.mp (hrest c hc)
  exact not_goesOn_of_mark? hsign token

/-- A mark between two texts is read between their tokens. -/
theorem Reads.append_mark {c : Char} {sign : Mark} (h : Reads text tokens)
    (hsign : mark? c = some sign) (h' : Reads text' tokens') :
    Reads (text ++ c :: text') (tokens ++ .mark sign [c] :: tokens') := by
  intro rest following hrest hscan
  have hmark : (Token.mark sign [c]).EndsAt (text' ++ rest) := fun d _ => Bool.false_ne_true
  have hafter : scan ([c] ++ (text' ++ rest)) = .ok (.mark sign [c] :: (tokens' ++ following)) :=
    scan_append (.mark hsign) hmark (h' rest following hrest hscan)
  have hhead : ∀ d ∈ (c :: (text' ++ rest)).head?, (mark? d).isSome := by
    intro d hd
    obtain rfl := Option.some.inj hd
    rw [hsign]
    rfl
  have hall := h (c :: (text' ++ rest)) _ hhead hafter
  rwa [List.append_assoc, List.append_assoc]

/-- A name is found by checking its characters. -/
theorem IsName.of_all {c : Char} {rest : Text} (hstart : startsName c)
    (hall : rest.all continuesName) : IsName (c :: rest) :=
  ⟨c, rest, rfl, hstart, List.all_eq_true.mp hall⟩

/-- A name is read as an identifier. -/
theorem IsName.reads {name : Text} (h : IsName name) : Reads name [.identifier name] := by
  obtain ⟨c, rest, rfl, hstart, hrest⟩ := h
  exact (Spells.identifier hstart hrest).reads

end Token

/-! ## Reading trees -/

open Token Grammar

/-- The text of a writable reference is a name. -/
theorem Reference.IsWritable.isName {target : Reference} (h : target.IsWritable) :
    IsName target.text := by
  obtain ⟨digits, hdigits, -, htext⟩ := h.text_eq
  obtain ⟨c, rest, hcolumn⟩ := List.exists_cons_of_ne_nil h.column_ne_nil
  refine ⟨c, rest ++ digits, ?_, ?_, ?_⟩
  · rw [htext, hcolumn, List.cons_append]
  · simp [startsName, h.isAlpha c (hcolumn ▸ List.mem_cons_self)]
  · intro d hd
    rcases List.mem_append.mp hd with hletter | hdigit
    · simp [continuesName, startsName, h.isAlpha d (hcolumn ▸ List.mem_cons_of_mem c hletter)]
    · simp [continuesName, hdigits d hdigit]

/-- The text of a writable reference spells it. -/
theorem Reference.IsWritable.spells {target : Reference} (h : target.IsWritable) :
    target.Spells target.text := by
  obtain ⟨digits, hdigits, hrow, htext⟩ := h.text_eq
  obtain ⟨column, row, text⟩ := target
  dsimp only at hrow htext
  subst hrow htext
  exact .mk (fun c hc => Text.isLetter_of_isAlpha (h.isAlpha c hc)) hdigits
    (Int.ofNat_le.mp h.row_pos)

/-- The source of a writable leaf is read as a token that is this leaf by itself. -/
theorem Leaf.IsWritable.reads {leaf : Leaf} (h : leaf.IsWritable) :
    ∃ token, Reads leaf.source [token] ∧ Atom token leaf := by
  match leaf, h with
  | .reference target, h =>
    exact ⟨.identifier target.text, h.isName.reads, .reference h.spells⟩
  | .literal (.number value), h =>
    have hspells := Spells.number value.isWritten_numeral.isSpelled
    rw [value.text_numeral, value.value_numeral, Decimal.expanded_of_le h] at hspells
    exact ⟨.number value, hspells.reads, .number⟩
  | .literal (.string content), h => exact ⟨.string content, (Spells.string h).reads, .string⟩
  | .literal (.boolean true), _ =>
    have hname : IsName "true".toList := .of_all rfl (by decide)
    exact ⟨.identifier "true".toList, hname.reads, .true⟩
  | .literal (.boolean false), _ =>
    have hname : IsName "false".toList := .of_all rfl (by decide)
    exact ⟨.identifier "false".toList, hname.reads, .false⟩

variable (line : Int)

/-- The source of a call is read as a call, if the source of its arguments is read as items. -/
theorem Formula.reads_of_items {name : Text} (hname : IsName name) {inside : Text}
    {tokens : List Token} {arguments : List (Expr Leaf)} (hreads : Reads inside tokens)
    (hitems : Items line tokens arguments) :
    ∃ tokens, Reads (name ++ '(' :: (inside ++ [')'])) tokens ∧
      Call line tokens ⟨name, arguments, line⟩ := by
  have hclosed : Reads (inside ++ [')']) (tokens ++ [.mark .rightParen [')']]) :=
    hreads.append_mark rfl .nil
  exact ⟨_, hname.reads.append_mark rfl hclosed, .call hitems⟩

mutual

/-- The source of a writable tree is read as tokens that write it. -/
theorem Expr.reads_source : (expr : Expr Leaf) → expr.IsWritable →
    ∃ tokens, Reads expr.source tokens ∧ Expression line tokens (expr.atLine line)
  | .leaf content, h => by
    obtain ⟨token, hreads, hatom⟩ := Leaf.IsWritable.reads h
    exact ⟨[token], hreads, .atom hatom⟩
  | .array elements, h => by
    obtain ⟨tokens, hreads, hitems⟩ := Expr.reads_sources elements h
    have hclosed : Reads (Text.join ";" (sources elements) ++ [']'])
        (tokens ++ [.mark .rightBracket [']']]) := hreads.append_mark rfl .nil
    exact ⟨_, Reads.nil.append_mark rfl hclosed, .array hitems⟩
  | .call name arguments _, h => by
    obtain ⟨tokens, hreads, hitems⟩ := Expr.reads_sources arguments h.2
    obtain ⟨tokens', hreads', hcall⟩ := Formula.reads_of_items line h.1 hreads hitems
    exact ⟨tokens', hreads', .call hcall⟩

/-- The sources of writable trees, with semicolons between them, are read as items that write
them. -/
theorem Expr.reads_sources : (exprs : List (Expr Leaf)) → AreWritable exprs →
    ∃ tokens, Reads (Text.join ";" (sources exprs)) tokens ∧
      Items line tokens (atLineAll line exprs)
  | [], _ => ⟨[], Reads.nil, .nil⟩
  | [expr], h => by
    obtain ⟨tokens, hreads, hexpr⟩ := Expr.reads_source expr h.1
    have hitems := Items.cons hexpr .nil
    rw [List.append_nil] at hitems
    refine ⟨tokens, ?_, hitems⟩
    simpa [sources, Text.join] using hreads
  | expr :: next :: exprs, h => by
    obtain ⟨tokens, hreads, hexpr⟩ := Expr.reads_source expr h.1
    obtain ⟨others, hreads', hitems⟩ := Expr.reads_sources (next :: exprs) h.2
    have hjoin : Text.join ";" (sources (expr :: next :: exprs)) =
        expr.source ++ ';' :: Text.join ";" (sources (next :: exprs)) := by
      simp [sources, Text.join]
    refine ⟨tokens ++ .mark .semicolon [';'] :: others, ?_, .cons hexpr (.semicolon hitems)⟩
    rw [hjoin]
    exact hreads.append_mark rfl hreads'

end

/-- A text that starts and ends with no blank stays as it is when it is trimmed. -/
theorem Text.trim_of_ends {first last : Char} (hfirst : ¬ isBlank first) (hlast : ¬ isBlank last)
    (text : Text) : trim (first :: (text ++ [last])) = first :: (text ++ [last]) := by
  have hreverse : (first :: (text ++ [last])).reverse = last :: (first :: text).reverse := by simp
  rw [trim, trimStart, List.dropWhile_cons_of_neg hfirst, trimEnd, hreverse,
    List.dropWhile_cons_of_neg hlast, ← hreverse, List.reverse_reverse]

/-- The source of a writable formula starts with a letter or an underscore, and ends with a
parenthesis. -/
theorem Formula.exists_source_eq {formula : Formula Leaf} (h : formula.toExpr.IsWritable) :
    ∃ c rest, startsName c ∧ formula.toExpr.source = c :: (rest ++ [')']) := by
  obtain ⟨name, arguments, _⟩ := formula
  obtain ⟨⟨c, rest, rfl, hstart, -⟩, -⟩ : IsName name ∧ Expr.AreWritable arguments := h
  refine ⟨c, rest ++ '(' :: Text.join ";" (Expr.sources arguments), hstart, ?_⟩
  simp [toExpr, Expr.source]

/-- The source of a writable formula stays as it is when it is trimmed. -/
theorem Formula.trim_source {formula : Formula Leaf} (h : formula.toExpr.IsWritable) :
    Text.trim formula.toExpr.source = formula.toExpr.source := by
  obtain ⟨c, rest, hstart, hsource⟩ := exists_source_eq h
  have hblank : ¬ Text.isBlank c := fun hblank =>
    not_goesOn_of_isBlank hblank (.identifier []) (by simp [goesOn, continuesName, hstart])
  rw [hsource, Text.trim_of_ends hblank (by decide)]

/-- The source of a writable formula is the formula in a text that starts with an equal sign. -/
theorem Formula.body?_source {formula : Formula Leaf} (h : formula.toExpr.IsWritable) :
    body? ('=' :: formula.toExpr.source) = some formula.toExpr.source := by
  obtain ⟨c, rest, hstart, hsource⟩ := exists_source_eq h
  have hequal : ¬ c = '=' := by
    rintro rfl
    exact absurd hstart (by decide)
  have hdrop : ('=' :: formula.toExpr.source).dropWhile (· = '=') = formula.toExpr.source := by
    simp [hsource, hequal]
  rw [body?, if_pos List.head?_cons, hdrop, trim_source h]

/-- The source of a writable formula has tokens that write the formula, with every call at the line
that it is read for. -/
theorem Formula.exists_tokens_of_source (line : Int) (formula : Formula Leaf)
    (h : formula.toExpr.IsWritable) :
    ∃ tokens, Token.list formula.toExpr.source = .ok tokens ∧
      Call line tokens (formula.atLine line) := by
  have htrim := trim_source h
  obtain ⟨name, arguments, _⟩ := formula
  obtain ⟨hname, harguments⟩ : IsName name ∧ Expr.AreWritable arguments := h
  obtain ⟨inside, hinside, hitems⟩ := Expr.reads_sources line arguments harguments
  obtain ⟨tokens, hreads, hcall⟩ := reads_of_items line hname hinside hitems
  have hend : ∀ c ∈ ([] : Text).head?, (mark? c).isSome := by
    intro c hc
    cases hc
  have hscan := hreads [] [] hend (by rw [scan])
  rw [List.append_nil, List.append_nil] at hscan
  refine ⟨tokens, ?_, hcall⟩
  rw [Token.list, htrim]
  exact hscan

/-- The source of a writable formula with a long row is not read, for the number of its digits. -/
theorem Formula.ofText_source_of_long (line : Int) {formula : Formula Leaf}
    (h : formula.toExpr.IsWritable) (hlong : ¬ formula.HasShortRows) :
    ∃ count, ofText line formula.toExpr.source = .error (.conversion (.read count)) ∧
      Text.maxDigits < count := by
  obtain ⟨tokens, htokens, hcall⟩ := exists_tokens_of_source line formula h
  rw [← hasShortRows_atLine_iff line] at hlong
  obtain ⟨count, hstops, hcount⟩ := ofTokens_of_long hcall hlong
  refine ⟨count, ?_, hcount⟩
  rw [ofText, htokens]
  dsimp only
  rw [hstops]
  rfl

/-- The source of a writable formula with short rows is read as the formula, with every call at the
line that it is read for. -/
theorem Formula.ofText_source_of_short (line : Int) {formula : Formula Leaf}
    (h : formula.toExpr.IsWritable) (hshort : formula.HasShortRows) :
    ofText line formula.toExpr.source = .ok (formula.atLine line) := by
  obtain ⟨tokens, htokens, hcall⟩ := exists_tokens_of_source line formula h
  have hparsed := ofTokens_eq_ok_iff.mpr ⟨hcall, (hasShortRows_atLine_iff line).mpr hshort⟩
  rw [ofText, htokens]
  dsimp only
  rw [hparsed]
  rfl

/-- The source of a writable formula is read as the formula, with every call at the line that it is
read for, if and only if its rows have no more digits than are read. The source of one with a longer
row, be it for zeros in front, ends with a fault that has no line. -/
theorem Formula.ofText_source (line : Int) (formula : Formula Leaf)
    (h : formula.toExpr.IsWritable) :
    (ofText line formula.toExpr.source = .ok (formula.atLine line) ↔ formula.HasShortRows) ∧
      (¬ formula.HasShortRows → ∃ count,
        ofText line formula.toExpr.source = .error (.conversion (.read count)) ∧
          Text.maxDigits < count) := by
  refine ⟨⟨fun hread => ?_, ofText_source_of_short line h⟩, ofText_source_of_long line h⟩
  by_contra hlong
  obtain ⟨count, hstops, -⟩ := ofText_source_of_long line h hlong
  cases hread.symm.trans hstops

/-- A formula with every kind of leaf is read back, with its digits and with its own line in place
of the line of the tree. -/
theorem Formula.ofText_source_nested :
    let formula : Formula Leaf := ⟨"f_1".toList, [.leaf (.reference ⟨['a'], 1, "a01".toList⟩),
      .array [.leaf (.literal (.string "x; (".toList)), .leaf (.literal (.number ⟨true, 150, -2⟩)),
        .call ['g'] [] 7], .leaf (.literal (.boolean true))], 7⟩
    formula.toExpr.source = "f_1(a01;[\"x; (\";-1.50;g()];true)".toList ∧
      formula.toExpr.IsWritable ∧ ofText 2 formula.toExpr.source = .ok (formula.atLine 2) := by
  intro formula
  have hname : IsName "f_1".toList := .of_all rfl (by decide)
  have hreference : Reference.IsWritable ⟨['a'], 1, "a01".toList⟩ :=
    ⟨List.cons_ne_nil _ _, List.all_eq_true.mp (by decide), by decide, "01".toList,
      List.all_eq_true.mp (by decide), by decide, rfl⟩
  have hstring : '"' ∉ "x; (".toList := by decide
  have hcall : IsName ['g'] := .of_all rfl (by decide)
  have hnumber : (-2 : Int) ≤ 0 := by decide
  have hwritable : formula.toExpr.IsWritable :=
    ⟨hname, hreference, ⟨hstring, hnumber, ⟨hcall, trivial⟩, trivial⟩, trivial, trivial⟩
  exact ⟨by cbv, hwritable, (ofText_source 2 formula hwritable).1.mpr (by decide)⟩

/-- A call with a reference to the first row, whose digits are not read. -/
def Formula.paddedCall : Formula Leaf :=
  ⟨"print".toList, [.leaf (.reference .padded)], 1⟩

/-- A formula that can be written out is not read back for the zeros in front of a row. -/
theorem Formula.paddedCall_not_read :
    paddedCall.toExpr.IsWritable ∧
      ∃ count, ofText 1 paddedCall.toExpr.source = .error (.conversion (.read count)) := by
  have hreference : Reference.padded.IsWritable :=
    ⟨List.cons_ne_nil _ _, List.all_eq_true.mp (by decide),
      Int.ofNat_le.mpr Reference.toNat_paddedOne_pos, Reference.paddedOne,
      Reference.isDigit_of_mem_paddedOne, rfl, rfl⟩
  have hwritable : paddedCall.toExpr.IsWritable :=
    ⟨.of_all rfl (by decide), hreference, trivial⟩
  obtain ⟨count, hstops, -⟩ := ofText_source_of_long 1 hwritable fun hshort =>
    Reference.not_isShort_padded (hshort _ List.mem_cons_self)
  exact ⟨hwritable, count, hstops⟩

end SheetCalc
