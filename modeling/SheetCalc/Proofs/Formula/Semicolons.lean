import SheetCalc.Proofs.Formula.Parsing

/-!
# Semicolons

Semicolons separate arguments for the reader only. `Token.Thinned` takes some of them away, and
`Token.Spaced` puts more of them in, anywhere but between a name and the parenthesis that makes it a
call. Main theorem: `semicolons_unread`. Both leave a parsed formula as it is, since what tokens
write by the grammar is not changed by either: `Items.thinned` and `Items.spaced`.
-/

namespace SheetCalc

namespace Token

/-- The second row of tokens is the first one without some of its semicolons. -/
inductive Thinned : List Token → List Token → Prop
  | nil : Thinned [] []
  | keep (token : Token) {tokens others : List Token} :
      Thinned tokens others → Thinned (token :: tokens) (token :: others)
  | drop (written : Text) {tokens others : List Token} :
      Thinned tokens others → Thinned (.mark .semicolon written :: tokens) others

/-- The second row of tokens is the first one, which stands behind the token `last`, with more
semicolons. None is put between a name and a left parenthesis that follows it. -/
inductive Spaced : Token → List Token → List Token → Prop
  | nil {last : Token} : Spaced last [] []
  | keep {last : Token} (token : Token) {tokens others : List Token} :
      Spaced token tokens others → Spaced last (token :: tokens) (token :: others)
  | put {last : Token} (written : Text) {tokens others : List Token} :
      (last.kind = .identifier → ∀ next ∈ tokens.head?, next.kind ≠ .mark .leftParen) →
      Spaced last tokens others → Spaced last tokens (.mark .semicolon written :: others)

/-- Semicolons in a row. -/
def semicolons (written : List Text) : List Token :=
  written.map (.mark .semicolon)

variable {last token : Token} {front back tokens others : List Token}

/-- Two rows of tokens lose their semicolons one after the other. -/
theorem Thinned.of_append (h : Thinned (front ++ back) others) :
    ∃ first second, others = first ++ second ∧ Thinned front first ∧ Thinned back second := by
  induction front generalizing others with
  | nil => exact ⟨[], others, rfl, .nil, h⟩
  | cons token front ih =>
      cases h with
      | keep _ hrest =>
          obtain ⟨first, second, rfl, hfirst, hsecond⟩ := ih hrest
          exact ⟨token :: first, second, rfl, .keep token hfirst, hsecond⟩
      | drop written hrest =>
          obtain ⟨first, second, rfl, hfirst, hsecond⟩ := ih hrest
          exact ⟨first, second, rfl, .drop written hfirst, hsecond⟩

/-- A mark that closes items is no semicolon, so it is not taken away. -/
theorem Thinned.of_closed {closer : Mark} (hcloser : closer ≠ .semicolon) {written : Text}
    (h : Thinned (tokens ++ [.mark closer written]) others) :
    ∃ inside, others = inside ++ [.mark closer written] ∧ Thinned tokens inside := by
  obtain ⟨inside, closing, rfl, hinside, hclosing⟩ := h.of_append
  cases hclosing with
  | keep _ hnil =>
      cases hnil
      exact ⟨inside, rfl, hinside⟩
  | drop => exact absurd rfl hcloser

/-- Where there are no tokens, only semicolons can be put. -/
theorem Spaced.of_nil (h : Spaced last [] others) : ∃ written, others = semicolons written := by
  generalize htokens : [] = tokens at h
  induction h with
  | nil => exact ⟨[], rfl⟩
  | keep => cases htokens
  | put written _ _ ih =>
      obtain ⟨more, rfl⟩ := ih htokens
      exact ⟨written :: more, rfl⟩

/-- Semicolons are put in front of the first token, or behind it. -/
theorem Spaced.of_cons (h : Spaced last (token :: tokens) others) :
    ∃ written rest, others = semicolons written ++ token :: rest ∧ Spaced token tokens rest := by
  generalize hall : token :: tokens = all at h
  induction h with
  | nil => cases hall
  | keep _ hrest =>
      obtain ⟨rfl, rfl⟩ := List.cons.inj hall
      exact ⟨[], _, rfl, hrest⟩
  | put written _ _ ih =>
      obtain ⟨more, rest, rfl, hrest⟩ := ih hall
      exact ⟨written :: more, rest, rfl, hrest⟩

/-- No semicolon is put in front of the parenthesis of a call. -/
theorem Spaced.of_called (hname : last.kind = .identifier)
    (hopening : token.kind = .mark .leftParen) (h : Spaced last (token :: tokens) others) :
    ∃ rest, others = token :: rest ∧ Spaced token tokens rest := by
  cases h with
  | keep _ hrest => exact ⟨_, rfl, hrest⟩
  | put written hplace _ => exact absurd hopening (hplace hname token rfl)

/-- Semicolons are put into two rows of tokens one after the other. What is put between the rows
belongs to the second one. -/
theorem Spaced.of_append (h : Spaced last (front ++ back) others) :
    ∃ middle first second, others = first ++ second ∧ Spaced last front first ∧
      Spaced middle back second := by
  generalize htokens : front ++ back = tokens at h
  induction h generalizing front with
  | nil =>
      obtain ⟨rfl, rfl⟩ := List.append_eq_nil_iff.mp htokens
      exact ⟨last, [], [], rfl, .nil, .nil⟩
  | @keep before token _ _ hrest ih =>
      cases front with
      | nil =>
          obtain rfl : back = _ := htokens
          exact ⟨before, [], _, rfl, .nil, .keep token hrest⟩
      | cons first front =>
          obtain ⟨rfl, hsplit⟩ := List.cons.inj htokens
          obtain ⟨middle, left, right, rfl, hleft, hright⟩ := ih hsplit
          exact ⟨middle, first :: left, right, rfl, .keep first hleft, hright⟩
  | @put before written _ _ hplace hrest ih =>
      cases front with
      | nil =>
          obtain rfl : back = _ := htokens
          exact ⟨before, [], _, rfl, .nil, .put written hplace hrest⟩
      | cons first front =>
          obtain ⟨middle, left, right, rfl, hleft, hright⟩ := ih htokens
          subst htokens
          -- What follows the semicolon is the first token of the front, so it may be put there too.
          exact ⟨middle, .mark .semicolon written :: left, right, rfl, .put written hplace hleft,
            hright⟩

end Token

/-! ## What tokens write -/

namespace Grammar

open Token (Thinned Spaced semicolons)

variable {line : Int} {last : Token} {tokens others : List Token}

/-- Semicolons in front of items are no items. -/
theorem Items.behind {exprs : List (Expr Leaf)} (h : Items line tokens exprs)
    (written : List Text) : Items line (semicolons written ++ tokens) exprs := by
  induction written with
  | nil => exact h
  | cons first written ih => exact .semicolon ih

/-- Semicolons alone write no items. -/
theorem items_semicolons (written : List Text) : Items line (semicolons written) [] := by
  have hitems : Items line (semicolons written ++ []) [] := Items.nil.behind written
  rwa [List.append_nil] at hitems

/-- Items in two rows are items in one row. -/
theorem Items.append {tokens others : List Token} {exprs rest : List (Expr Leaf)} :
    Items line tokens exprs → Items line others rest → Items line (tokens ++ others) (exprs ++ rest)
  | .nil, hrest => hrest
  | .semicolon hitems, hrest => .semicolon (hitems.append hrest)
  | .cons hexpr hitems, hrest => by
    rw [List.append_assoc]
    exact .cons hexpr (hitems.append hrest)

/-- An expression between semicolons is one item. -/
theorem Expression.item {expr : Expr Leaf} (h : Expression line tokens expr)
    (before behind : List Text) :
    Items line (semicolons before ++ (tokens ++ semicolons behind)) [expr] :=
  (Items.cons h (items_semicolons behind)).behind before

mutual

/-- Tokens without some of their semicolons write the same call. -/
theorem Call.thinned {tokens others : List Token} {formula : Formula Leaf} :
    Call line tokens formula → Thinned tokens others → Call line others formula
  | .call hinside, .keep _ (.keep _ hrest) => by
    obtain ⟨inside, rfl, hthinned⟩ := Thinned.of_closed (by decide) hrest
    exact .call (hinside.thinned hthinned)

/-- Tokens without some of their semicolons write the same items. -/
theorem Items.thinned {tokens others : List Token} {exprs : List (Expr Leaf)} :
    Items line tokens exprs → Thinned tokens others → Items line others exprs
  | .nil, .nil => .nil
  | .semicolon hitems, .keep _ hrest => .semicolon (hitems.thinned hrest)
  | .semicolon hitems, .drop _ hrest => hitems.thinned hrest
  | .cons hexpr hitems, h => by
    obtain ⟨first, second, rfl, hfirst, hsecond⟩ := h.of_append
    exact .cons (hexpr.thinned hfirst) (hitems.thinned hsecond)

/-- Tokens without some of their semicolons write the same expression. -/
theorem Expression.thinned {tokens others : List Token} {expr : Expr Leaf} :
    Expression line tokens expr → Thinned tokens others → Expression line others expr
  | .call hcall, h => .call (hcall.thinned h)
  | .atom hatom, h => by
    cases h with
    | keep _ hnil =>
      cases hnil
      exact .atom hatom
    | drop written => cases hatom
  | .array hinside, .keep _ hrest => by
    obtain ⟨inside, rfl, hthinned⟩ := Thinned.of_closed (by decide) hrest
    exact .array (hinside.thinned hthinned)

end

/-- Semicolons that are put in front of the mark that closes items belong to the items, and those
behind it do not. -/
theorem Items.spaced_closed {inside : List Token} {exprs : List (Expr Leaf)} {closing : Token}
    (hinside : ∀ {others}, Spaced last inside others → Items line others exprs)
    (h : Spaced last (inside ++ [closing]) others) :
    ∃ between behind, others = (between ++ [closing]) ++ semicolons behind ∧
      Items line between exprs := by
  obtain ⟨middle, first, second, rfl, hfirst, hsecond⟩ := h.of_append
  -- What is put behind the last item is found in front of the mark.
  obtain ⟨before, rest, rfl, hrest⟩ := hsecond.of_cons
  obtain ⟨behind, rfl⟩ := hrest.of_nil
  have hitems := (hinside hfirst).append (items_semicolons before)
  rw [List.append_nil] at hitems
  refine ⟨first ++ semicolons before, behind, ?_, hitems⟩
  simp only [List.append_assoc, List.singleton_append]

mutual

/-- Tokens with more semicolons write the same items. -/
theorem Items.spaced {last : Token} {tokens others : List Token} {exprs : List (Expr Leaf)} :
    Items line tokens exprs → Spaced last tokens others → Items line others exprs
  | .nil, h => by
    obtain ⟨written, rfl⟩ := h.of_nil
    exact items_semicolons written
  | .semicolon hitems, h => by
    obtain ⟨written, rest, rfl, hrest⟩ := h.of_cons
    exact (Items.semicolon (hitems.spaced hrest)).behind written
  | .cons hexpr hitems, h => by
    obtain ⟨middle, first, second, rfl, hfirst, hsecond⟩ := h.of_append
    exact (hexpr.spaced hfirst).append (hitems.spaced hsecond)

/-- The tokens of an expression with more semicolons write the expression as the only item. -/
theorem Expression.spaced {last : Token} {tokens others : List Token} {expr : Expr Leaf} :
    Expression line tokens expr → Spaced last tokens others → Items line others [expr]
  | .call (.call hinside), h => by
    obtain ⟨written, called, rfl, hcalled⟩ := h.of_cons
    obtain ⟨closed, rfl, hclosed⟩ := hcalled.of_called rfl rfl
    obtain ⟨between, behind, rfl, hbetween⟩ := Items.spaced_closed hinside.spaced hclosed
    exact (Expression.call (.call hbetween)).item written behind
  | .atom hatom, h => by
    obtain ⟨written, rest, rfl, hrest⟩ := h.of_cons
    obtain ⟨behind, rfl⟩ := hrest.of_nil
    exact (Expression.atom hatom).item written behind
  | .array hinside, h => by
    obtain ⟨written, closed, rfl, hclosed⟩ := h.of_cons
    obtain ⟨between, behind, rfl, hbetween⟩ := Items.spaced_closed hinside.spaced hclosed
    exact (Expression.array hbetween).item written behind

end

end Grammar

namespace Formula

open Grammar Token

/-- Semicolons carry no meaning. A formula stays as it is when any of its semicolons are taken away,
and when more of them are put in between the parentheses of its call, anywhere but between a name
and the left parenthesis that follows it. -/
theorem semicolons_unread {line : Int} {tokens : List Token} {formula : Formula Leaf}
    (h : ofTokens line tokens = .ok formula) :
    (∀ others, Thinned tokens others → ofTokens line others = .ok formula) ∧
    ∃ name opening inside closing,
      tokens = .identifier name :: .mark .leftParen opening ::
        (inside ++ [.mark .rightParen closing]) ∧
      ∀ others, Spaced (.mark .leftParen opening) inside others →
        ofTokens line (.identifier name :: .mark .leftParen opening ::
          (others ++ [.mark .rightParen closing])) = .ok formula := by
  obtain ⟨hcall, hshort⟩ := ofTokens_eq_ok_iff.mp h
  refine ⟨fun others hthinned => ofTokens_eq_ok_iff.mpr ⟨hcall.thinned hthinned, hshort⟩, ?_⟩
  cases hcall with
  | call hinside =>
      refine ⟨_, _, _, _, rfl, fun others hspaced => ?_⟩
      exact ofTokens_eq_ok_iff.mpr ⟨.call (hinside.spaced hspaced), hshort⟩

/-- The tokens of `f(1;a1)` without the semicolon, and with four more of them. -/
theorem semicolons_unread_between_arguments :
    let name : Token := .identifier ['f']
    let opening : Token := .mark .leftParen ['(']
    let closing : Token := .mark .rightParen [')']
    let semicolon : Token := .mark .semicolon [';']
    let first : Token := .number ⟨false, 1, 0⟩
    let second : Token := .identifier ['a', '1']
    let formula : Formula Leaf := ⟨['f'], [.leaf (.literal (.number ⟨false, 1, 0⟩)),
      .leaf (.reference ⟨['a'], 1, ['a', '1']⟩)], 4⟩
    ofTokens 4 [name, opening, first, semicolon, second, closing] = .ok formula ∧
      ofTokens 4 [name, opening, first, second, closing] = .ok formula ∧
      ofTokens 4 [name, opening, semicolon, first, semicolon, semicolon, semicolon, second,
        semicolon, closing] = .ok formula := by
  intro name opening closing semicolon first second formula
  have hspells : Reference.Spells ['a', '1'] ⟨['a'], 1, ['a', '1']⟩ :=
    @Reference.Spells.mk ['a'] ['1'] (List.all_eq_true.mp (by decide))
      (List.all_eq_true.mp (by decide)) (by decide)
  have hparsed : ofTokens 4 [name, opening, first, semicolon, second, closing] = .ok formula :=
    ofTokens_eq_ok_iff.mpr ⟨.call (.cons (.atom .number)
      (.semicolon (.cons (.atom (.reference hspells)) .nil))), by decide⟩
  obtain ⟨hthinned, _, _, inside, _, htokens, hspaced⟩ := semicolons_unread hparsed
  obtain ⟨hname, htail⟩ := List.cons.inj htokens
  obtain ⟨hopening, hrest⟩ := List.cons.inj htail
  obtain ⟨rfl, hlast⟩ : [first, semicolon, second] = inside ∧ [closing] = _ :=
    List.append_inj' hrest rfl
  have hspacing : Spaced opening [first, semicolon, second]
      [semicolon, first, semicolon, semicolon, semicolon, second, semicolon] :=
    .put _ (fun h => nomatch h) (.keep _ (.put _ (fun h => nomatch h) (.keep _
      (.put _ (fun h => nomatch h) (.keep _ (.put _ (fun _ _ h => nomatch h) .nil))))))
  refine ⟨hparsed, hthinned _ ?_, ?_⟩
  · exact .keep _ (.keep _ (.keep _ (.drop _ (.keep _ (.keep _ .nil)))))
  · rw [hname, hopening, (List.cons.inj hlast).1]
    exact hspaced _ (hopening ▸ hspacing)

end Formula

end SheetCalc
