import SheetCalc.Proofs.Formula.Rows

/-!
# The grammar of formulas

`Grammar.Call`, `Grammar.Items` and `Grammar.Expression` say which tokens write which tree. A
reference is written with any number of digits. Tokens write at most one tree: where an expression
ends is determined by its tokens and by what can follow them, which `Expression.unique` and
`Items.unique` say of the front of a list of tokens. This gives `Call.unique`.
-/

namespace SheetCalc

/-! ## Lines -/

namespace Expr

variable {α : Type}

mutual

/-- The tree with every call at one line. -/
def atLine (line : Int) : Expr α → Expr α
  | .leaf content => .leaf content
  | .array elements => .array (atLineAll line elements)
  | .call name arguments _ => .call name (atLineAll line arguments) line

/-- Trees with every call at one line. -/
def atLineAll (line : Int) : List (Expr α) → List (Expr α)
  | [] => []
  | expr :: exprs => expr.atLine line :: atLineAll line exprs

end

mutual

/-- The leaves of a tree stay when its calls are put at one line. -/
theorem leaves_atLine (line : Int) : (expr : Expr α) → (expr.atLine line).leaves = expr.leaves
  | .leaf _ => rfl
  | .array elements => leavesOf_atLineAll line elements
  | .call _ arguments _ => leavesOf_atLineAll line arguments

/-- The leaves of trees stay when their calls are put at one line. -/
theorem leavesOf_atLineAll (line : Int) :
    (exprs : List (Expr α)) → leavesOf (atLineAll line exprs) = leavesOf exprs
  | [] => rfl
  | expr :: exprs => by
    rw [atLineAll, leavesOf, leavesOf, leaves_atLine line expr, leavesOf_atLineAll line exprs]

end

end Expr

/-- The formula with every call at one line. -/
def Formula.atLine {α : Type} (line : Int) (formula : Formula α) : Formula α :=
  ⟨formula.name, Expr.atLineAll line formula.arguments, line⟩

/-- The rows of a formula stay when its calls are put at one line. -/
theorem Formula.hasShortRows_atLine_iff (line : Int) {formula : Formula Leaf} :
    (formula.atLine line).HasShortRows ↔ formula.HasShortRows := by
  have hleaves : (formula.atLine line).toExpr.leaves = formula.toExpr.leaves :=
    Expr.leavesOf_atLineAll line formula.arguments
  rw [HasShortRows, hleaves, HasShortRows]

/-! ## The grammar -/

namespace Grammar

/-- A token that is an expression by itself. -/
inductive Atom : Token → Leaf → Prop
  | true : Atom (.identifier "true".toList) (.literal (.boolean true))
  | false : Atom (.identifier "false".toList) (.literal (.boolean false))
  | reference {name : Text} {target : Reference} : target.Spells name →
      Atom (.identifier name) (.reference target)
  | number {value : Decimal} : Atom (.number value) (.literal (.number value))
  | string {content : Text} : Atom (.string content) (.literal (.string content))

mutual

/-- Tokens write a call: a name, and items in parentheses. -/
inductive Call (line : Int) : List Token → Formula Leaf → Prop
  | call {name opening closing : Text} {inside : List Token} {arguments : List (Expr Leaf)} :
      Items line inside arguments →
      Call line
        (.identifier name :: .mark .leftParen opening :: (inside ++ [.mark .rightParen closing]))
        ⟨name, arguments, line⟩

/-- Tokens write items: expressions one after another, with semicolons anywhere between them. -/
inductive Items (line : Int) : List Token → List (Expr Leaf) → Prop
  | nil : Items line [] []
  | semicolon {written : Text} {tokens : List Token} {exprs : List (Expr Leaf)} :
      Items line tokens exprs → Items line (.mark .semicolon written :: tokens) exprs
  | cons {front tokens : List Token} {expr : Expr Leaf} {exprs : List (Expr Leaf)} :
      Expression line front expr → Items line tokens exprs →
      Items line (front ++ tokens) (expr :: exprs)

/-- Tokens write an expression: a call, a token by itself, or items in brackets. -/
inductive Expression (line : Int) : List Token → Expr Leaf → Prop
  | call {tokens : List Token} {formula : Formula Leaf} :
      Call line tokens formula → Expression line tokens formula.toExpr
  | atom {token : Token} {leaf : Leaf} : Atom token leaf → Expression line [token] (.leaf leaf)
  | array {opening closing : Text} {inside : List Token} {elements : List (Expr Leaf)} :
      Items line inside elements →
      Expression line (.mark .leftBracket opening :: (inside ++ [.mark .rightBracket closing]))
        (.array elements)

end

variable {line : Int} {tokens : List Token}

mutual

/-- Every call in a formula that tokens write is at the line of the formula. -/
theorem atLine_of_call {tokens : List Token} {formula : Formula Leaf} :
    Call line tokens formula → formula.atLine line = formula
  | .call hinside => by rw [Formula.atLine, atLine_of_items hinside]

/-- Every call in items that tokens write is at the line of the formula. -/
theorem atLine_of_items {tokens : List Token} {exprs : List (Expr Leaf)} :
    Items line tokens exprs → Expr.atLineAll line exprs = exprs
  | .nil => rfl
  | .semicolon hrest => atLine_of_items hrest
  | .cons hexpr hrest => by
    rw [Expr.atLineAll, atLine_of_expression hexpr, atLine_of_items hrest]

/-- Every call in an expression that tokens write is at the line of the formula. -/
theorem atLine_of_expression {tokens : List Token} {expr : Expr Leaf} :
    Expression line tokens expr → expr.atLine line = expr
  | .call hcall => congrArg Formula.toExpr (atLine_of_call hcall)
  | .atom _ => rfl
  | .array hinside => by rw [Expr.atLine, atLine_of_items hinside]

end

/-- A mark that ends items, where no expression can start. -/
def IsCloser (sign : Mark) : Prop :=
  sign = .rightParen ∨ sign = .rightBracket

/-- A token that an expression can start with. -/
def Opens (token : Token) : Prop :=
  ∀ sign, token.kind = .mark sign → sign = .leftBracket

/-- An expression starts with a token that is no mark but a left bracket. -/
theorem Expression.exists_cons {expr : Expr Leaf} (h : Expression line tokens expr) :
    ∃ token rest, tokens = token :: rest ∧ Opens token := by
  cases h with
  | call hcall =>
    cases hcall with
    | call => exact ⟨_, _, rfl, fun sign h => nomatch h⟩
  | atom hleaf =>
    refine ⟨_, _, rfl, fun sign h => ?_⟩
    cases hleaf <;> cases h
  | array => exact ⟨_, _, rfl, fun sign h => (Token.Kind.mark.inj h).symm⟩

/-- No left parenthesis is the first token of items and of the mark that closes them. -/
theorem Items.head_append_ne {exprs : List (Expr Leaf)} (h : Items line tokens exprs)
    {closer : Mark} (hcloser : IsCloser closer) (written : Text) (rest : List Token) :
    ∀ token ∈ (tokens ++ .mark closer written :: rest).head?, token.kind ≠ .mark .leftParen := by
  intro token htoken hkind
  cases h with
  | nil =>
    obtain rfl := Option.some.inj htoken
    obtain rfl := Token.Kind.mark.inj hkind
    exact absurd hcloser (by simp [IsCloser])
  | semicolon =>
    obtain rfl := Option.some.inj htoken
    cases hkind
  | cons hexpr =>
    obtain ⟨first, after, rfl, hopens⟩ := hexpr.exists_cons
    obtain rfl := Option.some.inj htoken
    exact absurd (hopens _ hkind) (by decide)

/-! ## Tokens write one tree -/

/-- A token writes at most one leaf. -/
theorem Atom.unique {token : Token} {leaf other : Leaf} (h : Atom token leaf)
    (hother : Atom token other) : leaf = other := by
  generalize hsame : token = kept at hother
  cases h with
  | true =>
    cases hother with
    | true => rfl
    | reference hspells => exact absurd (Token.identifier.inj hsame).symm hspells.ne_words.1
    | false | number | string => cases hsame
  | false =>
    cases hother with
    | false => rfl
    | reference hspells => exact absurd (Token.identifier.inj hsame).symm hspells.ne_words.2
    | true | number | string => cases hsame
  | reference hspells =>
    cases hother with
    | true => exact absurd (Token.identifier.inj hsame) hspells.ne_words.1
    | false => exact absurd (Token.identifier.inj hsame) hspells.ne_words.2
    | reference hspells' => rw [hspells.unique (Token.identifier.inj hsame ▸ hspells')]
    | number | string => cases hsame
  | number | string =>
    subst hsame
    cases hother
    rfl

/-- An expression does not start with a mark that separates or closes items. -/
theorem Opens.ne_mark {token : Token} (h : Opens token) {sign : Mark} (hsign : sign ≠ .leftBracket)
    (written : Text) : token ≠ .mark sign written := by
  rintro rfl
  exact hsign (h sign rfl)

/-- A mark that closes items is neither a semicolon nor a left bracket. -/
theorem IsCloser.ne {closer : Mark} (h : IsCloser closer) :
    closer ≠ .semicolon ∧ closer ≠ .leftBracket := by
  rcases h with rfl | rfl <;> decide

/-- An expression does not start where a semicolon or the mark that closes items stands. -/
theorem Expression.append_ne {front rest rest' : List Token} {expr : Expr Leaf} {sign : Mark}
    (h : Expression line front expr) (hsign : sign ≠ .leftBracket) (written : Text) :
    front ++ rest ≠ .mark sign written :: rest' := by
  obtain ⟨token, after, rfl, hopens⟩ := h.exists_cons
  intro hsame
  exact hopens.ne_mark hsign written (List.cons.inj hsame).1

mutual

/-- Expressions at the front of the same tokens are the same, if neither is a name that is
called. -/
theorem Expression.unique {tokens tokens' rest rest' : List Token} {expr expr' : Expr Leaf}
    (hrest : ∀ next ∈ rest.head?, next.kind ≠ .mark .leftParen)
    (hrest' : ∀ next ∈ rest'.head?, next.kind ≠ .mark .leftParen)
    (hsame : tokens ++ rest = tokens' ++ rest') :
    Expression line tokens expr → Expression line tokens' expr' → tokens = tokens' ∧ expr = expr'
  | .call (@Call.call _ name opening closing inside arguments hinside), h' => by
    cases h' with
    | call hcall' =>
      cases hcall' with
      | @call _ _ closing' inside' arguments' hinside' =>
        simp only [List.cons_append, List.append_assoc, List.cons.injEq, Token.identifier.injEq,
          Token.mark.injEq, true_and, List.nil_append] at hsame
        obtain ⟨rfl, rfl, hinner⟩ := hsame
        obtain ⟨rfl, rfl⟩ := Items.unique (.inl rfl) (.inl rfl) hinner hinside hinside'
        obtain ⟨hclosing, -⟩ := List.cons.inj (List.append_cancel_left hinner)
        exact ⟨by rw [hclosing], rfl⟩
    | atom hatom =>
      obtain rfl : _ = rest' := (List.cons.inj hsame).2
      exact absurd rfl (hrest' _ rfl)
    | array => cases (List.cons.inj hsame).1
  | .atom hatom, h' => by
    cases h' with
    | call hcall' =>
      cases hcall' with
      | call hinside' =>
        obtain rfl : rest = _ := (List.cons.inj hsame).2
        exact absurd rfl (hrest _ rfl)
    | atom hatom' =>
      obtain rfl := (List.cons.inj hsame).1
      exact ⟨rfl, congrArg Expr.leaf (hatom.unique hatom')⟩
    | array =>
      obtain rfl := (List.cons.inj hsame).1
      cases hatom
  | @Expression.array _ opening closing inside elements hinside, h' => by
    cases h' with
    | call hcall' =>
      cases hcall' with
      | call hinside' => cases (List.cons.inj hsame).1
    | atom hatom =>
      obtain rfl := (List.cons.inj hsame).1
      cases hatom
    | @array _ closing' inside' elements' hinside' =>
      simp only [List.cons_append, List.append_assoc, List.cons.injEq, Token.mark.injEq, true_and,
        List.nil_append] at hsame
      obtain ⟨rfl, hinner⟩ := hsame
      obtain ⟨rfl, rfl⟩ := Items.unique (.inr rfl) (.inr rfl) hinner hinside hinside'
      obtain ⟨hclosing, -⟩ := List.cons.inj (List.append_cancel_left hinner)
      exact ⟨by rw [hclosing], rfl⟩

/-- Items in front of closing marks in the same tokens are the same. -/
theorem Items.unique {tokens tokens' rest rest' : List Token} {exprs exprs' : List (Expr Leaf)}
    {closer closer' : Mark} {written written' : Text} (hcloser : IsCloser closer)
    (hcloser' : IsCloser closer')
    (hsame : tokens ++ .mark closer written :: rest = tokens' ++ .mark closer' written' :: rest') :
    Items line tokens exprs → Items line tokens' exprs' → tokens = tokens' ∧ exprs = exprs'
  | .nil, h' => by
    cases h' with
    | nil => exact ⟨rfl, rfl⟩
    | semicolon => exact absurd (Token.mark.inj (List.cons.inj hsame).1).1 hcloser.ne.1
    | cons hexpr' =>
      rw [List.append_assoc] at hsame
      exact absurd hsame.symm (hexpr'.append_ne hcloser.ne.2 written)
  | .semicolon hothers, h' => by
    cases h' with
    | nil => exact absurd (Token.mark.inj (List.cons.inj hsame).1).1.symm hcloser'.ne.1
    | semicolon hothers' =>
      obtain ⟨hmark, hafter⟩ := List.cons.inj hsame
      obtain ⟨rfl, rfl⟩ := Items.unique hcloser hcloser' hafter hothers hothers'
      exact ⟨by rw [hmark], rfl⟩
    | cons hexpr' =>
      rw [List.append_assoc] at hsame
      exact absurd hsame.symm (hexpr'.append_ne (by decide) _)
  | .cons hexpr hothers, h' => by
    rw [List.append_assoc] at hsame
    cases h' with
    | nil => exact absurd hsame (hexpr.append_ne hcloser'.ne.2 written')
    | semicolon => exact absurd hsame (hexpr.append_ne (by decide) _)
    | cons hexpr' hothers' =>
      rw [List.append_assoc] at hsame
      obtain ⟨rfl, rfl⟩ := Expression.unique (hothers.head_append_ne hcloser written rest)
        (hothers'.head_append_ne hcloser' written' rest') hsame hexpr hexpr'
      obtain ⟨rfl, rfl⟩ := Items.unique hcloser hcloser' (List.append_cancel_left hsame) hothers
        hothers'
      exact ⟨rfl, rfl⟩

end

/-- Tokens write one formula as a call. -/
theorem Call.unique {formula other : Formula Leaf} (h : Call line tokens formula)
    (hother : Call line tokens other) : formula = other := by
  have hnone : ∀ next ∈ ([] : List Token).head?, next.kind ≠ .mark .leftParen := nofun
  obtain ⟨-, hsame⟩ := Expression.unique hnone hnone rfl (.call h) (.call hother)
  obtain ⟨name, arguments, number⟩ := formula
  obtain ⟨rfl, rfl, rfl⟩ := Expr.call.inj hsame
  rfl

end Grammar

end SheetCalc
