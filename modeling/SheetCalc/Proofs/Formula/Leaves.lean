import SheetCalc.Proofs.Formula.Calls

/-!
# The leaves of parsed tokens

Some tokens are arguments by themselves: numbers, quoted texts, and names that no parenthesis
follows. Main theorem: `leaves_in_order`. The leaves of a parsed formula are what these tokens
write, from left to right, and the formula has a call for each left parenthesis and an array for
each left bracket.
-/

namespace SheetCalc

/-! ## Tokens that are arguments -/

/-- A token in front of others is an argument by itself: a number, a quoted text, or a name that no
left parenthesis follows. -/
def Token.isArgument (token : Token) (rest : List Token) : Bool :=
  match token with
  | .number _ | .string _ => true
  | .identifier _ => rest.head?.map Token.kind ≠ some (.mark .leftParen)
  | .mark _ _ => false

/-- The tokens that are arguments by themselves, from left to right. -/
def Token.argumentsIn : List Token → List Token
  | [] => []
  | token :: tokens =>
    if token.isArgument tokens then token :: argumentsIn tokens else argumentsIn tokens

/-- The number of marks of one kind. -/
def Token.countMarks (sign : Mark) (tokens : List Token) : Nat :=
  tokens.countP fun token => token.kind = .mark sign

namespace Token

/-- A token is or is not an argument whatever follows later, unless it comes to be in front of a
left parenthesis. -/
theorem isArgument_append (token : Token) (tokens : List Token) {rest : List Token}
    (hrest : ∀ next ∈ rest.head?, next.kind ≠ .mark .leftParen) :
    token.isArgument (tokens ++ rest) = token.isArgument tokens := by
  cases token with
  | identifier name =>
      cases tokens with
      | cons next tokens => rfl
      | nil =>
          cases rest with
          | nil => rfl
          | cons next rest => simpa [isArgument] using hrest next rfl
  | string | number | mark => rfl

/-- The arguments in two rows of tokens are those of the first row and those of the second one. -/
theorem argumentsIn_append (tokens : List Token) {rest : List Token}
    (hrest : ∀ next ∈ rest.head?, next.kind ≠ .mark .leftParen) :
    argumentsIn (tokens ++ rest) = argumentsIn tokens ++ argumentsIn rest := by
  induction tokens with
  | nil => rfl
  | cons token tokens ih =>
      rw [List.cons_append, argumentsIn, argumentsIn, token.isArgument_append tokens hrest, ih]
      split <;> rfl

/-- A mark is no argument. -/
@[simp]
theorem argumentsIn_mark (sign : Mark) (written : Text) (tokens : List Token) :
    argumentsIn (.mark sign written :: tokens) = argumentsIn tokens :=
  rfl

/-- A name that is called is no argument. -/
@[simp]
theorem argumentsIn_called (name opening : Text) (tokens : List Token) :
    argumentsIn (.identifier name :: .mark .leftParen opening :: tokens) = argumentsIn tokens :=
  rfl

@[simp]
theorem countMarks_append (sign : Mark) (tokens rest : List Token) :
    countMarks sign (tokens ++ rest) = countMarks sign tokens + countMarks sign rest :=
  List.countP_append

@[simp]
theorem countMarks_nil (sign : Mark) : countMarks sign [] = 0 :=
  rfl

@[simp]
theorem countMarks_cons (sign : Mark) (token : Token) (tokens : List Token) :
    countMarks sign (token :: tokens) =
      countMarks sign tokens + if token.kind = .mark sign then 1 else 0 := by
  simp [countMarks, List.countP_cons]

end Token

/-! ## Arrays in a tree -/

namespace Expr

variable {α : Type}

mutual

/-- The number of arrays in a tree. -/
def arrayCount : Expr α → Nat
  | .leaf _ => 0
  | .array elements => arrayCountOf elements + 1
  | .call _ arguments _ => arrayCountOf arguments

/-- The number of arrays in trees in a row. -/
def arrayCountOf : List (Expr α) → Nat
  | [] => 0
  | expr :: exprs => expr.arrayCount + arrayCountOf exprs

end

end Expr

/-! ## What tokens write -/

namespace Grammar

open Token (argumentsIn countMarks)

variable {line : Int}

/-- A token that writes a leaf is an argument. -/
theorem Atom.argumentsIn_eq {token : Token} {leaf : Leaf} (h : Atom token leaf) :
    argumentsIn [token] = [token] := by
  cases h <;> rfl

/-- A token that writes a leaf is no mark. -/
theorem Atom.countMarks_eq {token : Token} {leaf : Leaf} (h : Atom token leaf) (sign : Mark) :
    countMarks sign [token] = 0 := by
  cases h <;> rfl

/-- No left parenthesis is the first token of items. -/
theorem Items.head_ne {tokens : List Token} {exprs : List (Expr Leaf)}
    (h : Items line tokens exprs) : ∀ token ∈ tokens.head?, token.kind ≠ .mark .leftParen :=
  fun token htoken => h.head_append_ne (.inl rfl) [')'] [] token
    (List.mem_head?_append_of_mem_head? htoken)

/-- The mark that closes items is no argument. -/
theorem argumentsIn_closed (tokens : List Token) {closer : Mark} (hcloser : IsCloser closer)
    (written : Text) : argumentsIn (tokens ++ [.mark closer written]) = argumentsIn tokens := by
  rw [Token.argumentsIn_append, Token.argumentsIn_mark, argumentsIn, List.append_nil]
  intro next hnext hkind
  obtain rfl := Option.some.inj hnext
  obtain rfl := Token.Kind.mark.inj hkind
  exact absurd hcloser (by simp [IsCloser])

mutual

/-- The arguments in the tokens of an expression write its leaves, one by one. -/
theorem Expression.leaves_written {tokens : List Token} {expr : Expr Leaf} :
    Expression line tokens expr → List.Forall₂ Atom (argumentsIn tokens) expr.leaves
  | .call (.call hinside) => by
    rw [Token.argumentsIn_called, argumentsIn_closed _ (.inl rfl)]
    exact hinside.leaves_written
  | .atom hatom => by
    rw [hatom.argumentsIn_eq]
    exact .cons hatom .nil
  | .array hinside => by
    rw [Token.argumentsIn_mark, argumentsIn_closed _ (.inr rfl)]
    exact hinside.leaves_written

/-- The arguments in the tokens of items write the leaves of the items, one by one. -/
theorem Items.leaves_written {tokens : List Token} {exprs : List (Expr Leaf)} :
    Items line tokens exprs → List.Forall₂ Atom (argumentsIn tokens) (Expr.leavesOf exprs)
  | .nil => .nil
  | .semicolon hrest => hrest.leaves_written
  | .cons hexpr hrest => by
    rw [Token.argumentsIn_append _ hrest.head_ne]
    exact List.rel_append hexpr.leaves_written hrest.leaves_written

end

mutual

/-- The tokens of an expression have a left parenthesis for each call and a left bracket for each
array. -/
theorem Expression.counts {tokens : List Token} {expr : Expr Leaf} :
    Expression line tokens expr → expr.calls.length = countMarks .leftParen tokens ∧
      expr.arrayCount = countMarks .leftBracket tokens
  | .call (.call hinside) => by
    obtain ⟨hcalls, harrays⟩ := hinside.counts
    simp [Formula.toExpr, Expr.calls, Expr.arrayCount, hcalls, harrays, Token.kind]
  | .atom hatom => by
    rw [hatom.countMarks_eq, hatom.countMarks_eq]
    exact ⟨rfl, rfl⟩
  | .array hinside => by
    obtain ⟨hcalls, harrays⟩ := hinside.counts
    simp [Expr.calls, Expr.arrayCount, hcalls, harrays, Token.kind]

/-- The tokens of items have a left parenthesis for each call and a left bracket for each array. -/
theorem Items.counts {tokens : List Token} {exprs : List (Expr Leaf)} :
    Items line tokens exprs → (Expr.callsOf exprs).length = countMarks .leftParen tokens ∧
      Expr.arrayCountOf exprs = countMarks .leftBracket tokens
  | .nil => ⟨rfl, rfl⟩
  | .semicolon hrest => by
    obtain ⟨hcalls, harrays⟩ := hrest.counts
    simp [hcalls, harrays, Token.kind]
  | .cons hexpr hrest => by
    obtain ⟨hcalls, harrays⟩ := hexpr.counts
    obtain ⟨hcallsRest, harraysRest⟩ := hrest.counts
    simp [Expr.callsOf, Expr.arrayCountOf, hcalls, harrays, hcallsRest, harraysRest]

end

end Grammar

namespace Formula

open Grammar

/-- No argument of a formula is lost, doubled or moved. The leaves are what the numbers, the quoted
texts and the names that are not called write, in the order of the tokens, and there is a call for
each left parenthesis and an array for each left bracket. -/
theorem leaves_in_order {line : Int} {tokens : List Token} {formula : Formula Leaf}
    (h : ofTokens line tokens = .ok formula) :
    (∀ leaves, List.Forall₂ Atom (Token.argumentsIn tokens) leaves ↔
      leaves = formula.toExpr.leaves) ∧
    formula.calls.length = Token.countMarks .leftParen tokens ∧
    formula.toExpr.arrayCount = Token.countMarks .leftBracket tokens := by
  have hexpr : Expression line tokens formula.toExpr := .call (ofTokens_eq_ok_iff.mp h).1
  have hunique : Relator.RightUnique Atom := fun _ _ _ => Atom.unique
  obtain ⟨hcalls, harrays⟩ := hexpr.counts
  refine ⟨fun leaves => ⟨fun hleaves => ?_, ?_⟩, hcalls, harrays⟩
  · exact List.right_unique_forall₂' hunique hleaves hexpr.leaves_written
  · rintro rfl
    exact hexpr.leaves_written

/-- The tokens of `f(;[2] g(true) a1)` write the leaves `2`, `true` and `a1`, in two calls and an
array. -/
theorem leaves_in_order_nested :
    let tokens : List Token := [.identifier ['f'], .mark .leftParen ['('], .mark .semicolon [';'],
      .mark .leftBracket ['['], .number ⟨false, 2, 0⟩, .mark .rightBracket [']'],
      .identifier ['g'], .mark .leftParen ['('], .identifier "true".toList,
      .mark .rightParen [')'], .identifier ['a', '1'], .mark .rightParen [')']]
    let formula : Formula Leaf := ⟨['f'], [.array [.leaf (.literal (.number ⟨false, 2, 0⟩))],
      .call ['g'] [.leaf (.literal (.boolean true))] 4,
      .leaf (.reference ⟨['a'], 1, ['a', '1']⟩)], 4⟩
    ofTokens 4 tokens = .ok formula ∧
      List.Forall₂ Atom [.number ⟨false, 2, 0⟩, .identifier "true".toList, .identifier ['a', '1']]
        formula.toExpr.leaves ∧
      formula.calls.length = 2 ∧ formula.toExpr.arrayCount = 1 := by
  intro tokens formula
  have hspells : Reference.Spells ['a', '1'] ⟨['a'], 1, ['a', '1']⟩ :=
    @Reference.Spells.mk ['a'] ['1'] (List.all_eq_true.mp (by decide))
      (List.all_eq_true.mp (by decide)) (by decide)
  have hcall : Call 4 tokens formula :=
    .call (.semicolon (.cons (.array (.cons (.atom .number) .nil))
      (.cons (.call (.call (.cons (.atom .true) .nil)))
        (.cons (.atom (.reference hspells)) .nil))))
  have hparsed : ofTokens 4 tokens = .ok formula := ofTokens_eq_ok_iff.mpr ⟨hcall, by decide⟩
  obtain ⟨hleaves, hcalls, harrays⟩ := leaves_in_order hparsed
  exact ⟨hparsed, (hleaves _).mpr rfl, hcalls, harrays⟩

end Formula

end SheetCalc
