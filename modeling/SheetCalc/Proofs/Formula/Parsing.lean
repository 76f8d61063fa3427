import SheetCalc.Formula.Text
import SheetCalc.Proofs.Formula.Grammar

/-!
# The parser and the grammar

The parser reads tokens from left to right and knows no more than the next one:
`of_gives_expression` and `of_gives_items` say once what its two recursive steps can do. Main
theorem: `ofTokens_decides`. The parser gives the one tree that tokens write, and a grammar error
for tokens that write none, unless it comes to a row with more digits than are read.
-/

namespace SheetCalc

/-! ## One step of the parser -/

namespace Formula

open Grammar

variable {line : Int} {tokens rest : List Token}

/-- A step gives a result and leaves `rest`. -/
def Gives {α : Type} {tokens : List Token} (outcome : Parsed α tokens) (result : α)
    (rest : List Token) : Prop :=
  ∃ shorter, outcome = .ok (result, ⟨rest, shorter⟩)

/-- A step that is known to succeed gives what it is known to give. -/
theorem gives_ok_iff {α : Type} {outcome result : α}
    {left : { rest : List Token // rest.length < tokens.length }} :
    Gives (.ok (outcome, left)) result rest ↔ result = outcome ∧ rest = left.val := by
  constructor
  · rintro ⟨shorter, h⟩
    obtain ⟨rfl, rfl⟩ := Prod.mk.inj (Except.ok.inj h)
    exact ⟨rfl, rfl⟩
  · rintro ⟨rfl, rfl⟩
    exact ⟨left.property, rfl⟩

/-- A step that fails gives nothing. -/
theorem not_gives_error {α : Type} {stop : Stop} {result : α} :
    ¬ Gives (.error stop : Parsed α tokens) result rest := by
  rintro ⟨shorter, h⟩
  cases h

/-- A token that is asked for is read when it has the right kind. -/
theorem gives_tokenOf_iff {kind : Token.Kind} {what : Text} {token : Token} :
    Gives (tokenOf kind what tokens) token rest ↔ tokens = token :: rest ∧ token.kind = kind := by
  constructor
  · intro h
    unfold tokenOf at h
    split at h
    · exact absurd h not_gives_error
    · split at h
      · next hkind =>
        obtain ⟨rfl, rfl⟩ := gives_ok_iff.mp h
        exact ⟨rfl, hkind⟩
      · exact absurd h not_gives_error
  · rintro ⟨rfl, hkind⟩
    rw [tokenOf, if_pos hkind]
    exact gives_ok_iff.mpr ⟨rfl, rfl⟩

/-- What can happen when the parser reads one expression. -/
theorem of_gives_expression {expr : Expr Leaf} (h : Gives (expression line tokens) expr rest) :
    (∃ name opening inside arguments,
      tokens = .identifier name :: .mark .leftParen opening :: inside ∧
      Gives (items line .rightParen inside) arguments rest ∧ expr = .call name arguments line) ∨
    (∃ token leaf, tokens = token :: rest ∧ Atom token leaf ∧ leaf.IsShort ∧
      expr = .leaf leaf) ∨
    (∃ opening inside elements, tokens = .mark .leftBracket opening :: inside ∧
      Gives (items line .rightBracket inside) elements rest ∧ expr = .array elements) := by
  unfold expression at h
  split at h
  · exact absurd h not_gives_error
  · next name opening inside =>
    split at h
    · exact absurd h not_gives_error
    · next arguments after shorter hitems =>
      obtain ⟨rfl, rfl⟩ := gives_ok_iff.mp h
      exact .inl ⟨name, opening, inside, arguments, rfl, ⟨shorter, hitems⟩, rfl⟩
  · next name after hcall =>
    right; left
    split at h
    · next htrue =>
      obtain ⟨rfl, rfl⟩ := gives_ok_iff.mp h
      exact ⟨.identifier name, .literal (.boolean true), rfl, htrue ▸ .true, trivial, rfl⟩
    · split at h
      · next hfalse =>
        obtain ⟨rfl, rfl⟩ := gives_ok_iff.mp h
        exact ⟨.identifier name, .literal (.boolean false), rfl, hfalse ▸ .false, trivial, rfl⟩
      · split at h
        · exact absurd h not_gives_error
        · next target htarget =>
          obtain ⟨rfl, rfl⟩ := gives_ok_iff.mp h
          obtain ⟨hspells, hshort⟩ := Reference.ofName_eq_ok_iff.mp htarget
          exact ⟨_, _, rfl, .reference hspells, hshort, rfl⟩
  · obtain ⟨rfl, rfl⟩ := gives_ok_iff.mp h
    exact .inr (.inl ⟨_, _, rfl, .number, trivial, rfl⟩)
  · obtain ⟨rfl, rfl⟩ := gives_ok_iff.mp h
    exact .inr (.inl ⟨_, _, rfl, .string, trivial, rfl⟩)
  · next opening inside =>
    split at h
    · exact absurd h not_gives_error
    · next elements after shorter hitems =>
      obtain ⟨rfl, rfl⟩ := gives_ok_iff.mp h
      exact .inr (.inr ⟨opening, inside, elements, rfl, ⟨shorter, hitems⟩, rfl⟩)
  · exact absurd h not_gives_error

/-- What can happen when the parser reads items up to a mark. -/
theorem of_gives_items {closer : Mark} {exprs : List (Expr Leaf)}
    (h : Gives (items line closer tokens) exprs rest) :
    (∃ written, tokens = .mark closer written :: rest ∧ exprs = []) ∨
    (∃ written after, tokens = .mark .semicolon written :: after ∧
      Gives (items line closer after) exprs rest) ∨
    (∃ expr after others, Gives (expression line tokens) expr after ∧
      Gives (items line closer after) others rest ∧ exprs = expr :: others) := by
  unfold items at h
  split at h
  · exact absurd h not_gives_error
  · next token after =>
    split at h
    · next hcloser =>
      obtain ⟨rfl, rfl⟩ := gives_ok_iff.mp h
      cases token with
      | mark sign written =>
        obtain rfl := Token.Kind.mark.inj hcloser
        exact .inl ⟨written, rfl, rfl⟩
      | identifier | string | number => cases hcloser
    · split at h
      · next hsemicolon =>
        split at h
        · exact absurd h not_gives_error
        · next exprs' rest' shorter hitems =>
          obtain ⟨rfl, rfl⟩ := gives_ok_iff.mp h
          cases token with
          | mark sign written =>
            obtain rfl := Token.Kind.mark.inj hsemicolon
            exact .inr (.inl ⟨written, after, rfl, shorter, hitems⟩)
          | identifier | string | number => cases hsemicolon
      · split at h
        · exact absurd h not_gives_error
        · next expr middle shorter hexpr =>
          split at h
          · exact absurd h not_gives_error
          · next others rest' shorter' hitems =>
            obtain ⟨rfl, rfl⟩ := gives_ok_iff.mp h
            exact .inr (.inr ⟨expr, middle, others, ⟨shorter, hexpr⟩, ⟨shorter', hitems⟩, rfl⟩)

/-! ## Steps on tokens of the grammar -/

/-- A step stops at a row with more digits than are read. -/
def StopsAtRow {α : Type} {tokens : List Token} (outcome : Parsed α tokens) : Prop :=
  ∃ count rest, outcome = .error ⟨.conversion (.read count), rest⟩ ∧ Text.maxDigits < count

/-- What a step can do with tokens that write a result with some leaves: it gives the result and
leaves `rest`, or it stops at a row with more digits than are read. -/
inductive Takes {α : Type} {tokens : List Token} (leaves : List Leaf) (outcome : Parsed α tokens)
    (result : α) (rest : List Token) : Prop
  | gives : (∀ leaf ∈ leaves, leaf.IsShort) → Gives outcome result rest →
      Takes leaves outcome result rest
  | stops {leaf : Leaf} : leaf ∈ leaves → ¬ leaf.IsShort → StopsAtRow outcome →
      Takes leaves outcome result rest

variable {leaves : List Leaf}

/-- A step that only goes on with the result of another one, and fails as that one does, takes what
that one takes. -/
theorem Takes.of_step {α β : Type} {tokens others : List Token} {inner : Parsed α tokens}
    {outer : Parsed β others} {result : α} {final : β} (h : Takes leaves inner result rest)
    (hgives : ∀ left, inner = .ok (result, left) → Gives outer final left.val)
    (hstops : ∀ stop, inner = .error stop → outer = .error stop) :
    Takes leaves outer final rest := by
  cases h with
  | gives hshort h =>
    obtain ⟨shorter, h⟩ := h
    exact .gives hshort (hgives _ h)
  | stops hmem hlong h =>
    obtain ⟨count, left, h, hcount⟩ := h
    exact .stops hmem hlong ⟨count, left, hstops _ h, hcount⟩

/-- A name in front of a left parenthesis is a call. -/
theorem takes_expression_call {name opening : Text} {inside : List Token}
    {arguments : List (Expr Leaf)}
    (h : Takes leaves (items line .rightParen inside) arguments rest) :
    Takes leaves (expression line (.identifier name :: .mark .leftParen opening :: inside))
      (.call name arguments line) rest := by
  refine h.of_step (fun left hitems => ?_) fun stop hitems => ?_
  · rw [expression, hitems]
    exact gives_ok_iff.mpr ⟨rfl, rfl⟩
  · rw [expression, hitems]

/-- A left bracket opens an array. -/
theorem takes_expression_array {opening : Text} {inside : List Token} {elements : List (Expr Leaf)}
    (h : Takes leaves (items line .rightBracket inside) elements rest) :
    Takes leaves (expression line (.mark .leftBracket opening :: inside)) (.array elements)
      rest := by
  refine h.of_step (fun left hitems => ?_) fun stop hitems => ?_
  · rw [expression, hitems]
    exact gives_ok_iff.mpr ⟨rfl, rfl⟩
  · rw [expression, hitems]

/-- A token that is an expression by itself is read alone, unless it is called. -/
theorem takes_expression_atom {token : Token} {leaf : Leaf} (h : Atom token leaf)
    (hrest : ∀ next ∈ rest.head?, next.kind ≠ .mark .leftParen) :
    Takes [leaf] (expression line (token :: rest)) (.leaf leaf) rest := by
  have hcall (opening : Text) (inside : List Token) :
      rest ≠ .mark .leftParen opening :: inside := by
    rintro rfl
    exact hrest _ rfl rfl
  cases h with
  | true =>
    refine .gives (List.forall_mem_singleton.mpr trivial) ?_
    rw [expression, if_pos rfl]
    · exact gives_ok_iff.mpr ⟨rfl, rfl⟩
    · exact hcall
  | false =>
    refine .gives (List.forall_mem_singleton.mpr trivial) ?_
    rw [expression, if_neg (by decide), if_pos rfl]
    · exact gives_ok_iff.mpr ⟨rfl, rfl⟩
    · exact hcall
  | @reference name target hspells =>
    have hwords : name ≠ "true".toList ∧ name ≠ "false".toList := hspells.ne_words
    by_cases hshort : target.IsShort
    · refine .gives (List.forall_mem_singleton.mpr hshort) ?_
      rw [expression, if_neg hwords.1, if_neg hwords.2,
        Reference.ofName_eq_ok_iff.mpr ⟨hspells, hshort⟩]
      · exact gives_ok_iff.mpr ⟨rfl, rfl⟩
      · exact hcall
    · have hlong := hspells.hasLongRow hshort
      refine .stops List.mem_cons_self hshort ⟨_, rest, ?_, hlong.lt⟩
      rw [expression, if_neg hwords.1, if_neg hwords.2,
        Reference.ofName_eq_conversion_iff.mpr ⟨_, rfl, hlong⟩]
      exact hcall
  | number | string =>
    refine .gives (List.forall_mem_singleton.mpr trivial) ?_
    rw [expression]
    exact gives_ok_iff.mpr ⟨rfl, rfl⟩

/-- Items end at the mark that closes them. -/
theorem takes_items_closer (closer : Mark) (written : Text) :
    Takes [] (items line closer (.mark closer written :: rest)) [] rest := by
  have hkind : (Token.mark closer written).kind = .mark closer := rfl
  refine .gives nofun ?_
  rw [items, if_pos hkind]
  exact gives_ok_iff.mpr ⟨rfl, rfl⟩

/-- A semicolon in front of items is skipped. -/
theorem takes_items_semicolon {closer : Mark} (hcloser : IsCloser closer) {written : Text}
    {exprs : List (Expr Leaf)} (h : Takes leaves (items line closer tokens) exprs rest) :
    Takes leaves (items line closer (.mark .semicolon written :: tokens)) exprs rest := by
  have hkind : (Token.mark .semicolon written).kind = .mark .semicolon := rfl
  have hne : (Token.mark .semicolon written).kind ≠ .mark closer := by
    rw [hkind]
    intro hmark
    exact hcloser.ne.1 (Token.Kind.mark.inj hmark).symm
  refine h.of_step (fun left hitems => ?_) fun stop hitems => ?_
  · rw [items, if_neg hne, if_pos hkind, hitems]
    exact gives_ok_iff.mpr ⟨rfl, rfl⟩
  · rw [items, if_neg hne, if_pos hkind, hitems]

/-- An expression in front of items is the first of them. -/
theorem takes_items_cons {closer : Mark} (hcloser : IsCloser closer) {token : Token}
    (hopens : Opens token) {after : List Token} {expr : Expr Leaf} {exprs : List (Expr Leaf)}
    (hexpr : Takes expr.leaves (expression line (token :: tokens)) expr after)
    (hexprs : Takes (Expr.leavesOf exprs) (items line closer after) exprs rest) :
    Takes (Expr.leavesOf (expr :: exprs)) (items line closer (token :: tokens)) (expr :: exprs)
      rest := by
  have hne : token.kind ≠ .mark closer := fun hkind => hcloser.ne.2 (hopens _ hkind)
  have hsemicolon : token.kind ≠ .mark .semicolon := fun hkind =>
    absurd (hopens _ hkind) (by decide)
  cases hexpr with
  | stops hmem hlong hfirst =>
    obtain ⟨count, left, hfirst, hcount⟩ := hfirst
    refine .stops (List.mem_append_left _ hmem) hlong ⟨count, left, ?_, hcount⟩
    rw [items, if_neg hne, if_neg hsemicolon, hfirst]
  | gives hshort hfirst =>
    obtain ⟨shorter, hfirst⟩ := hfirst
    cases hexprs with
    | stops hmem hlong hothers =>
      obtain ⟨count, left, hothers, hcount⟩ := hothers
      refine .stops (List.mem_append_right _ hmem) hlong ⟨count, left, ?_, hcount⟩
      rw [items, if_neg hne, if_neg hsemicolon, hfirst]
      dsimp only
      rw [hothers]
    | gives hshort' hothers =>
      obtain ⟨shorter', hothers⟩ := hothers
      refine .gives (List.forall_mem_append.mpr ⟨hshort, hshort'⟩) ?_
      rw [items, if_neg hne, if_neg hsemicolon, hfirst]
      dsimp only
      rw [hothers]
      exact gives_ok_iff.mpr ⟨rfl, rfl⟩

/-! ## The parser and the grammar -/

mutual

/-- The tokens that the parser takes for an expression write it, with short rows. -/
theorem expression_sound {tokens rest : List Token} {expr : Expr Leaf}
    (h : Gives (expression line tokens) expr rest) :
    ∃ front, tokens = front ++ rest ∧ Expression line front expr ∧
      ∀ leaf ∈ expr.leaves, leaf.IsShort := by
  rcases of_gives_expression h with ⟨name, opening, inside, arguments, htokens, hitems, rfl⟩ |
    ⟨token, leaf, rfl, hleaf, hshort, rfl⟩ | ⟨opening, inside, elements, htokens, hitems, rfl⟩
  · obtain ⟨front, closing, hinside, hfront, hshort⟩ := items_sound hitems
    refine ⟨.identifier name :: .mark .leftParen opening :: (front ++ [.mark .rightParen closing]),
      ?_, .call (.call hfront), hshort⟩
    simp [htokens, hinside]
  · exact ⟨[token], rfl, .atom hleaf, List.forall_mem_singleton.mpr hshort⟩
  · obtain ⟨front, closing, hinside, hfront, hshort⟩ := items_sound hitems
    refine ⟨.mark .leftBracket opening :: (front ++ [.mark .rightBracket closing]), ?_,
      .array hfront, hshort⟩
    simp [htokens, hinside]
-- Items may start with an expression on the same tokens, so an expression counts less than items.
termination_by (tokens.length, 0)
decreasing_by all_goals simp [htokens, Prod.lex_def]

/-- The tokens that the parser takes for items write them, with short rows, and the mark that closes
them follows. -/
theorem items_sound {closer : Mark} {tokens rest : List Token} {exprs : List (Expr Leaf)}
    (h : Gives (items line closer tokens) exprs rest) :
    ∃ front written, tokens = front ++ .mark closer written :: rest ∧ Items line front exprs ∧
      ∀ leaf ∈ Expr.leavesOf exprs, leaf.IsShort := by
  rcases of_gives_items h with ⟨written, rfl, rfl⟩ | ⟨written, after, htokens, hitems⟩ |
    ⟨expr, after, others, hexpr, hitems, rfl⟩
  · exact ⟨[], written, rfl, .nil, nofun⟩
  · obtain ⟨front, closing, hafter, hfront, hshort⟩ := items_sound hitems
    refine ⟨.mark .semicolon written :: front, closing, ?_, .semicolon hfront, hshort⟩
    rw [htokens, hafter, List.cons_append]
  · obtain ⟨first, htokens, hfirst, hshort⟩ := expression_sound hexpr
    obtain ⟨front, closing, hafter, hfront, hshort'⟩ := items_sound hitems
    refine ⟨first ++ front, closing, ?_, .cons hfirst hfront,
      List.forall_mem_append.mpr ⟨hshort, hshort'⟩⟩
    rw [htokens, hafter, List.append_assoc]
termination_by (tokens.length, 1)
decreasing_by
  · simp [htokens, Prod.lex_def]
  · simp [Prod.lex_def]
  · have := hexpr.choose
    simp [Prod.lex_def]
    omega

end

mutual

/-- What the parser does with an expression that tokens write, unless it is a name that is
called. -/
theorem takes_of_expression {tokens rest : List Token} {expr : Expr Leaf} :
    Expression line tokens expr → (∀ next ∈ rest.head?, next.kind ≠ .mark .leftParen) →
      Takes expr.leaves (expression line (tokens ++ rest)) expr rest
  | .call (@Call.call _ _ _ closing _ _ hinside), _ => by
    have hitems := takes_of_items (.inl rfl) closing rest hinside
    rw [List.cons_append, List.cons_append, List.append_assoc]
    exact takes_expression_call hitems
  | .atom hleaf, hrest => takes_expression_atom hleaf hrest
  | @Expression.array _ _ closing _ _ hinside, _ => by
    have hitems := takes_of_items (.inr rfl) closing rest hinside
    rw [List.cons_append, List.append_assoc]
    exact takes_expression_array hitems

/-- What the parser does with items that tokens write, up to the mark that closes them. -/
theorem takes_of_items {closer : Mark} {tokens : List Token} {exprs : List (Expr Leaf)}
    (hcloser : IsCloser closer) (written : Text) (rest : List Token) : Items line tokens exprs →
      Takes (Expr.leavesOf exprs) (items line closer (tokens ++ .mark closer written :: rest))
        exprs rest
  | .nil => takes_items_closer closer written
  | .semicolon hrest => takes_items_semicolon hcloser (takes_of_items hcloser written rest hrest)
  | .cons hexpr hrest => by
    have hfirst := takes_of_expression hexpr (hrest.head_append_ne hcloser written rest)
    have hothers := takes_of_items hcloser written rest hrest
    obtain ⟨token, after, rfl, hopens⟩ := hexpr.exists_cons
    rw [List.append_assoc]
    exact takes_items_cons hcloser hopens hfirst hothers

end

/-- The parser reads an expression with short rows that tokens write, unless it is a name that is
called. -/
theorem gives_of_expression {expr : Expr Leaf} (h : Expression line tokens expr)
    (hshort : ∀ leaf ∈ expr.leaves, leaf.IsShort)
    (hrest : ∀ next ∈ rest.head?, next.kind ≠ .mark .leftParen) :
    Gives (expression line (tokens ++ rest)) expr rest := by
  cases takes_of_expression h hrest with
  | gives _ hgives => exact hgives
  | stops hmem hlong => exact absurd (hshort _ hmem) hlong

/-- What happens when the parser reads a call. -/
theorem of_gives_call {formula : Formula Leaf} (h : Gives (call line tokens) formula rest) :
    ∃ name opening inside arguments,
      tokens = .identifier name :: .mark .leftParen opening :: inside ∧
      Gives (items line .rightParen inside) arguments rest ∧ formula = ⟨name, arguments, line⟩ := by
  unfold call at h
  split at h
  · exact absurd h not_gives_error
  · next first afterName hshorter hname =>
    split at h
    · exact absurd h not_gives_error
    · next second inside hshorter' hopening =>
      split at h
      · exact absurd h not_gives_error
      · next arguments after shorter hitems =>
        obtain ⟨rfl, rfl⟩ := gives_ok_iff.mp h
        obtain ⟨htokens, hfirst⟩ := gives_tokenOf_iff.mp ⟨hshorter, hname⟩
        obtain ⟨hafter, hsecond⟩ := gives_tokenOf_iff.mp ⟨hshorter', hopening⟩
        cases first with
        | identifier name =>
          cases second with
          | mark sign opening =>
            obtain rfl := Token.Kind.mark.inj hsecond
            exact ⟨name, opening, inside, arguments, hafter ▸ htokens, ⟨shorter, hitems⟩, rfl⟩
          | identifier | string | number => cases hsecond
        | mark | string | number => cases hfirst

/-- A name, a left parenthesis, and items up to a right one are read as a call. -/
theorem takes_call {leaves : List Leaf} {name opening : Text} {inside : List Token}
    {arguments : List (Expr Leaf)}
    (h : Takes leaves (items line .rightParen inside) arguments rest) :
    Takes leaves (call line (.identifier name :: .mark .leftParen opening :: inside))
      ⟨name, arguments, line⟩ rest := by
  obtain ⟨_, hname⟩ : Gives (tokenOf .identifier "identifier".toList
      (.identifier name :: .mark .leftParen opening :: inside)) (.identifier name) _ :=
    gives_tokenOf_iff.mpr ⟨rfl, rfl⟩
  obtain ⟨_, hopening⟩ : Gives (tokenOf (.mark .leftParen) "left parenthesis".toList
      (.mark .leftParen opening :: inside)) (.mark .leftParen opening) _ :=
    gives_tokenOf_iff.mpr ⟨rfl, rfl⟩
  unfold call
  refine h.of_step (fun left hitems => ?_) fun stop hitems => ?_
  · simp only [hname, hopening, hitems]
    exact gives_ok_iff.mpr ⟨rfl, rfl⟩
  · simp only [hname, hopening, hitems]

/-- What the parser does with tokens that write a call. -/
theorem takes_of_call {formula : Formula Leaf} (h : Call line tokens formula) (rest : List Token) :
    Takes formula.toExpr.leaves (call line (tokens ++ rest)) formula rest := by
  cases h with
  | @call name opening closing inside arguments hinside =>
    rw [List.cons_append, List.cons_append, List.append_assoc]
    exact takes_call (takes_of_items (.inl rfl) closing rest hinside)

/-- A formula is a call with nothing after it. -/
theorem ofTokens_eq_ok_iff_gives {formula : Formula Leaf} :
    ofTokens line tokens = .ok formula ↔ Gives (call line tokens) formula [] := by
  unfold ofTokens whole
  cases hcall : call line tokens with
  | error stop => simp [not_gives_error]
  | ok step =>
    obtain ⟨parsed, after, shorter⟩ := step
    rw [gives_ok_iff]
    cases after with
    | nil => simp [eq_comm]
    | cons token after => simp

/-- The formula that tokens write is the one that the parser gives, if its rows are short. -/
theorem ofTokens_eq_ok_iff {formula : Formula Leaf} :
    ofTokens line tokens = .ok formula ↔ Call line tokens formula ∧ formula.HasShortRows := by
  rw [ofTokens_eq_ok_iff_gives]
  constructor
  · intro h
    obtain ⟨name, opening, inside, arguments, rfl, hitems, rfl⟩ := of_gives_call h
    obtain ⟨front, closing, rfl, hfront, hshort⟩ := items_sound hitems
    exact ⟨.call hfront, hshort⟩
  · rintro ⟨hcall, hshort⟩
    have htakes := takes_of_call hcall []
    rw [List.append_nil] at htakes
    cases htakes with
    | gives _ hgives => exact hgives
    | stops hmem hlong => exact absurd (hshort _ hmem) hlong

/-- Tokens that write a formula with a long row are not parsed, for the number of its digits. -/
theorem ofTokens_of_long {formula : Formula Leaf} (h : Call line tokens formula)
    (hlong : ¬ formula.HasShortRows) :
    ∃ count, ofTokens line tokens = .error (.conversion (.read count)) ∧
      Text.maxDigits < count := by
  have htakes := takes_of_call h []
  rw [List.append_nil] at htakes
  cases htakes with
  | gives hshort => exact absurd hshort hlong
  | stops _ _ hstops =>
    obtain ⟨count, left, hcall, hcount⟩ := hstops
    refine ⟨count, ?_, hcount⟩
    rw [ofTokens, whole, hcall]

/-! ## Long rows -/

/-- One of the tokens is a name that fails for a cause, since it has a long row. -/
def BlamesRow (tokens : List Token) (cause : DigitLimit) : Prop :=
  ∃ name count, .identifier name ∈ tokens ∧ Reference.HasLongRow name count ∧ cause = .read count

/-- A name that is blamed among some tokens is blamed among more. -/
theorem BlamesRow.mono {others : List Token} {cause : DigitLimit} (h : BlamesRow tokens cause)
    (hsub : tokens ⊆ others) : BlamesRow others cause := by
  obtain ⟨name, count, hmem, hlong⟩ := h
  exact ⟨name, count, hsub hmem, hlong⟩

/-- What happens when reading an expression stops at a row. -/
theorem of_expression_conversion {cause : DigitLimit}
    (h : expression line tokens = .error ⟨.conversion cause, rest⟩) :
    (∃ name opening inside, tokens = .identifier name :: .mark .leftParen opening :: inside ∧
      items line .rightParen inside = .error ⟨.conversion cause, rest⟩) ∨
    (∃ name after, tokens = .identifier name :: after ∧
      Reference.ofName name = .error (.conversion cause)) ∨
    (∃ opening inside, tokens = .mark .leftBracket opening :: inside ∧
      items line .rightBracket inside = .error ⟨.conversion cause, rest⟩) := by
  unfold expression at h
  split at h
  · cases h
  · next name opening inside =>
    split at h
    · next stop hitems =>
      obtain rfl := Except.error.inj h
      exact .inl ⟨name, opening, inside, rfl, hitems⟩
    · cases h
  · next name after hcall =>
    right; left
    split at h
    · cases h
    · split at h
      · cases h
      · split at h
        · next failure hname =>
          obtain ⟨rfl, -⟩ := Stop.mk.inj (Except.error.inj h)
          exact ⟨name, after, rfl, hname⟩
        · cases h
  · cases h
  · cases h
  · next opening inside =>
    split at h
    · next stop hitems =>
      obtain rfl := Except.error.inj h
      exact .inr (.inr ⟨opening, inside, rfl, hitems⟩)
    · cases h
  · cases h

/-- What happens when reading items stops at a row. -/
theorem of_items_conversion {closer : Mark} {cause : DigitLimit}
    (h : items line closer tokens = .error ⟨.conversion cause, rest⟩) :
    (∃ token after, tokens = token :: after ∧
      items line closer after = .error ⟨.conversion cause, rest⟩) ∨
    expression line tokens = .error ⟨.conversion cause, rest⟩ ∨
    ∃ expr after, Gives (expression line tokens) expr after ∧
      items line closer after = .error ⟨.conversion cause, rest⟩ := by
  unfold items at h
  split at h
  · cases h
  · next token after =>
    split at h
    · cases h
    · split at h
      · split at h
        · next stop hitems =>
          obtain rfl := Except.error.inj h
          exact .inl ⟨token, after, rfl, hitems⟩
        · cases h
      · split at h
        · next stop hexpr =>
          obtain rfl := Except.error.inj h
          exact .inr (.inl hexpr)
        · next expr middle shorter hexpr =>
          split at h
          · next stop hitems =>
            obtain rfl := Except.error.inj h
            exact .inr (.inr ⟨expr, middle, ⟨shorter, hexpr⟩, hitems⟩)
          · cases h

mutual

/-- Reading an expression stops at a row of one of its names. -/
theorem blamesRow_of_expression {tokens rest : List Token} {cause : DigitLimit}
    (h : expression line tokens = .error ⟨.conversion cause, rest⟩) : BlamesRow tokens cause := by
  rcases of_expression_conversion h with ⟨name, opening, inside, htokens, hitems⟩ |
    ⟨name, after, rfl, hname⟩ | ⟨opening, inside, htokens, hitems⟩
  · refine (blamesRow_of_items hitems).mono ?_
    rw [htokens]
    exact fun token hmem => List.mem_cons_of_mem _ (List.mem_cons_of_mem _ hmem)
  · obtain ⟨count, rfl, hlong⟩ := Reference.ofName_eq_conversion_iff.mp hname
    exact ⟨name, count, List.mem_cons_self, hlong, rfl⟩
  · refine (blamesRow_of_items hitems).mono ?_
    rw [htokens]
    exact fun token hmem => List.mem_cons_of_mem _ hmem
termination_by (tokens.length, 0)
decreasing_by all_goals simp [htokens, Prod.lex_def]

/-- Reading items stops at a row of one of their names. -/
theorem blamesRow_of_items {closer : Mark} {tokens rest : List Token} {cause : DigitLimit}
    (h : items line closer tokens = .error ⟨.conversion cause, rest⟩) : BlamesRow tokens cause := by
  rcases of_items_conversion h with ⟨token, after, htokens, hitems⟩ | hexpr |
    ⟨expr, after, hexpr, hitems⟩
  · refine (blamesRow_of_items hitems).mono ?_
    rw [htokens]
    exact fun other hmem => List.mem_cons_of_mem _ hmem
  · exact blamesRow_of_expression hexpr
  · obtain ⟨front, hfront, -, -⟩ := expression_sound hexpr
    refine (blamesRow_of_items hitems).mono ?_
    rw [hfront]
    exact fun token hmem => List.mem_append_right _ hmem
termination_by (tokens.length, 1)
decreasing_by
  · simp [htokens, Prod.lex_def]
  · simp [Prod.lex_def]
  · have := hexpr.choose
    simp [Prod.lex_def]
    omega

end

/-- A token that is asked for has no row. -/
theorem tokenOf_ne_conversion {kind : Token.Kind} {what : Text} {cause : DigitLimit} :
    tokenOf kind what tokens ≠ .error ⟨.conversion cause, rest⟩ := by
  intro h
  unfold tokenOf at h
  split at h
  · cases h
  · split at h <;> cases h

/-- Reading a call stops at a row of one of its names. -/
theorem blamesRow_of_call {cause : DigitLimit}
    (h : call line tokens = .error ⟨.conversion cause, rest⟩) : BlamesRow tokens cause := by
  unfold call at h
  split at h
  · next stop hname =>
    obtain rfl := Except.error.inj h
    exact absurd hname tokenOf_ne_conversion
  · next first afterName shorter hname =>
    split at h
    · next stop hopening =>
      obtain rfl := Except.error.inj h
      exact absurd hopening tokenOf_ne_conversion
    · next second inside shorter' hopening =>
      split at h
      · next stop hitems =>
        obtain rfl := Except.error.inj h
        obtain ⟨rfl, -⟩ := gives_tokenOf_iff.mp ⟨shorter, hname⟩
        obtain ⟨rfl, -⟩ := gives_tokenOf_iff.mp ⟨shorter', hopening⟩
        exact (blamesRow_of_items hitems).mono fun token hmem =>
          List.mem_cons_of_mem _ (List.mem_cons_of_mem _ hmem)
      · cases h

/-- Tokens that are not parsed for a number of digits hold a name with a long row. -/
theorem blamesRow_of_ofTokens {cause : DigitLimit}
    (h : ofTokens line tokens = .error (.conversion cause)) : BlamesRow tokens cause := by
  unfold ofTokens whole at h
  cases hcall : call line tokens with
  | error stop =>
    rw [hcall] at h
    obtain ⟨failure, left⟩ := stop
    obtain rfl := Except.error.inj h
    exact blamesRow_of_call hcall
  | ok step =>
    obtain ⟨parsed, after, shorter⟩ := step
    rw [hcall] at h
    cases after <;> cases h

/-- The parser decides the grammar, up to the number of digits in a row. It gives the one tree that
tokens write as a call, with its own line on every call, if the rows in the tree have no more digits
than are read. Tokens that write no call are reported as a grammar error at the line. The other
faults have no line, and come with a name among the tokens that has a long row. -/
theorem ofTokens_decides (line : Int) (tokens : List Token) :
    (∀ formula, ofTokens line tokens = .ok formula ↔
      Call line tokens formula ∧ formula.HasShortRows) ∧
    (∀ formula, Call line tokens formula → formula.atLine line = formula) ∧
    (∀ formula other, Call line tokens formula → Call line tokens other → formula = other) ∧
    (∀ formula, Call line tokens formula → ¬ formula.HasShortRows →
      ∃ cause, (ofTokens line tokens).mapError (ParseFailure.fault line) =
        .error (.conversion cause) ∧ BlamesRow tokens cause) ∧
    ((¬ ∃ formula, Call line tokens formula) →
      (∃ cause, (ofTokens line tokens).mapError (ParseFailure.fault line) =
        .error (.grammar cause line)) ∨
      ∃ cause, (ofTokens line tokens).mapError (ParseFailure.fault line) =
        .error (.conversion cause) ∧ BlamesRow tokens cause) := by
  refine ⟨fun formula => ofTokens_eq_ok_iff, fun formula => atLine_of_call, fun formula other =>
    Call.unique, fun formula hcall hlong => ?_, fun hnone => ?_⟩
  · obtain ⟨count, hstops, -⟩ := ofTokens_of_long hcall hlong
    exact ⟨.read count, by rw [hstops]; rfl, blamesRow_of_ofTokens hstops⟩
  · cases hparsed : ofTokens line tokens with
    | ok formula => exact absurd ⟨formula, (ofTokens_eq_ok_iff.mp hparsed).1⟩ hnone
    | error failure =>
      cases failure with
      | grammar cause => exact .inl ⟨cause, rfl⟩
      | conversion cause => exact .inr ⟨cause, rfl, blamesRow_of_ofTokens hparsed⟩

/-- A formula with one reference: the parser gives its tree, with the line of the formula. -/
theorem ofTokens_decides_at_call :
    let tokens : List Token := [.identifier ['f'], .mark .leftParen ['('],
      .identifier ['a', '1'], .mark .rightParen [')']]
    let formula : Formula Leaf := ⟨['f'], [.leaf (.reference ⟨['a'], 1, ['a', '1']⟩)], 2⟩
    Call 2 tokens formula ∧ ofTokens 2 tokens = .ok formula ∧ formula.atLine 2 = formula ∧
      ∀ other, Call 2 tokens other → formula = other := by
  intro tokens formula
  obtain ⟨hgives, hline, hunique, -, -⟩ := ofTokens_decides 2 tokens
  have hspells : Reference.Spells ['a', '1'] ⟨['a'], 1, ['a', '1']⟩ :=
    @Reference.Spells.mk ['a'] ['1'] (List.all_eq_true.mp (by decide))
      (List.all_eq_true.mp (by decide)) (by decide)
  have hcall : Call 2 tokens formula := .call (.cons (.atom (.reference hspells)) .nil)
  exact ⟨hcall, (hgives formula).mpr ⟨hcall, by decide⟩, hline formula hcall,
    fun other => hunique formula other hcall⟩

/-- The tokens of a call with a reference to the first row, whose digits are not read. -/
def paddedTokens : List Token :=
  [.identifier "print".toList, .mark .leftParen ['('], .identifier Reference.padded.text,
    .mark .rightParen [')']]

/-- The tokens write a call, and are not parsed: neither its tree nor a grammar error comes out. -/
theorem paddedTokens_not_parsed :
    (∃ formula, Call 1 paddedTokens formula) ∧
      ∃ cause, ofTokens 1 paddedTokens = .error (.conversion cause) := by
  have hcall : Call 1 paddedTokens ⟨"print".toList, [.leaf (.reference .padded)], 1⟩ :=
    .call (.cons (.atom (.reference Reference.spells_padded)) .nil)
  obtain ⟨count, hstops, -⟩ := ofTokens_of_long hcall fun hshort =>
    Reference.not_isShort_padded (hshort _ List.mem_cons_self)
  exact ⟨⟨_, hcall⟩, _, hstops⟩

end Formula

end SheetCalc
