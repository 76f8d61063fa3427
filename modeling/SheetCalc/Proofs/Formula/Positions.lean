import SheetCalc.Formula.Cursor
import SheetCalc.Proofs.Formula.Parsing

/-!
# Positions of a cursor

Every step of the parser leaves an end of the tokens that it was given, also when it fails. So a
cursor that takes steps, and goes on after failures, stays within its tokens and never moves back:
`Cursor.Within.take` for one step and `Cursor.Within.run` for a run. Main theorem:
`Cursor.positions_sound`. An expression is read off the tokens that are passed, and off nothing
else: `Cursor.exists_passed_of_expression`.
-/

namespace SheetCalc

namespace Formula

open Grammar

variable {line : Int}

/-- The tokens that a step leaves, whether it gives a result or fails. -/
def unread {α : Type} {tokens : List Token} : Parsed α tokens → List Token
  | .ok (_, rest) => rest.val
  | .error stop => stop.rest

/-! ## What the steps leave -/

/-- A token that is asked for is read, or nothing is. -/
theorem unread_tokenOf (kind : Token.Kind) (what : Text) (tokens : List Token) :
    unread (tokenOf kind what tokens) <:+ tokens := by
  unfold tokenOf
  split
  · exact List.suffix_refl []
  · split
    · exact List.suffix_cons _ _
    · exact List.suffix_refl _

/-- The next token is read, or there is none. -/
theorem unread_anyToken (tokens : List Token) : unread (anyToken tokens) <:+ tokens := by
  unfold anyToken
  split
  · exact List.suffix_refl []
  · exact List.suffix_cons _ _

/-- A token of the wrong kind is left. -/
theorem rest_of_tokenOf_error {kind : Token.Kind} {what : Text} {tokens : List Token} {stop : Stop}
    (h : tokenOf kind what tokens = .error stop) : stop.rest = tokens := by
  unfold tokenOf at h
  split at h
  · obtain rfl := Except.error.inj h
    rfl
  · split at h
    · cases h
    · obtain rfl := Except.error.inj h
      rfl

/-- There is nothing to leave where no token can be read. -/
theorem rest_of_anyToken_error {tokens : List Token} {stop : Stop}
    (h : anyToken tokens = .error stop) : stop.rest = tokens := by
  unfold anyToken at h
  split at h
  · obtain rfl := Except.error.inj h
    rfl
  · cases h

mutual

/-- An expression is read from the front of the tokens. -/
theorem unread_expression (tokens : List Token) : unread (expression line tokens) <:+ tokens := by
  unfold expression
  split
  · exact List.suffix_refl []
  · next name opening inside =>
    have hinside := unread_items .rightParen inside
    have hskip : inside <:+ .identifier name :: .mark .leftParen opening :: inside :=
      ⟨[.identifier name, .mark .leftParen opening], rfl⟩
    split
    · next hitems => exact (hitems ▸ hinside).trans hskip
    · next hitems => exact (hitems ▸ hinside).trans hskip
  · -- A name that is not called is passed, also when it is no reference.
    repeat' split
    all_goals exact List.suffix_cons _ _
  · exact List.suffix_cons _ _
  · exact List.suffix_cons _ _
  · next opening inside =>
    have hinside := unread_items .rightBracket inside
    have hskip := List.suffix_cons (.mark .leftBracket opening) inside
    split
    · next hitems => exact (hitems ▸ hinside).trans hskip
    · next hitems => exact (hitems ▸ hinside).trans hskip
  · exact List.suffix_refl _
termination_by (tokens.length, 0)

/-- Items are read from the front of the tokens. -/
theorem unread_items (closer : Mark) : (tokens : List Token) →
    unread (items line closer tokens) <:+ tokens
  | [] => by
    unfold items
    exact List.suffix_refl []
  | token :: after => by
    have hskip := List.suffix_cons token after
    unfold items
    split
    · exact hskip
    · split
      · have hafter := unread_items closer after
        split
        · next hitems => exact (hitems ▸ hafter).trans hskip
        · next hitems => exact (hitems ▸ hafter).trans hskip
      · have hfirst := unread_expression (token :: after)
        split
        · next hexpr => rwa [hexpr] at hfirst
        · next expr middle shorter hexpr =>
          have hmiddle : middle <:+ token :: after := by rwa [hexpr] at hfirst
          have hothers := unread_items closer middle
          split
          · next hitems => exact (hitems ▸ hothers).trans hmiddle
          · next hitems => exact (hitems ▸ hothers).trans hmiddle
termination_by tokens => (tokens.length, 1)

end

/-- A call is read from the front of the tokens. -/
theorem unread_call (tokens : List Token) : unread (call line tokens) <:+ tokens := by
  have hname := unread_tokenOf .identifier "identifier".toList tokens
  unfold call
  split
  · next hfirst => rwa [hfirst] at hname
  · next afterName shorter hfirst =>
    rw [hfirst] at hname
    have hopening := unread_tokenOf (.mark .leftParen) "left parenthesis".toList afterName
    split
    · next hsecond => exact (hsecond ▸ hopening).trans hname
    · next inside shorter' hsecond =>
      rw [hsecond] at hopening
      have hinside : unread (items line .rightParen inside) <:+ inside := unread_items _ _
      split
      · next hitems => exact ((hitems ▸ hinside).trans hopening).trans hname
      · next hitems => exact ((hitems ▸ hinside).trans hopening).trans hname

/-- An array is read from the front of the tokens. -/
theorem unread_array (tokens : List Token) : unread (array line tokens) <:+ tokens := by
  have hopening := unread_tokenOf (.mark .leftBracket) "left bracket".toList tokens
  unfold array
  split
  · next hfirst => rwa [hfirst] at hopening
  · next inside shorter hfirst =>
    rw [hfirst] at hopening
    have hinside : unread (items line .rightBracket inside) <:+ inside := unread_items _ _
    split
    · next hitems => exact (hitems ▸ hinside).trans hopening
    · next hitems => exact (hitems ▸ hinside).trans hopening

/-- A token that is read as a reference is passed, also when it is none. -/
theorem unread_reference (tokens : List Token) : unread (reference tokens) <:+ tokens := by
  have htoken := unread_anyToken tokens
  unfold reference
  split
  · next hread => rwa [hread] at htoken
  · next hread =>
    rw [hread] at htoken
    split
    · exact htoken
    · exact htoken

end Formula

/-! ## One step of a cursor -/

namespace Cursor

open Formula

variable {line : Int} {cursor after : Cursor} {α : Type}
  {step : (tokens : List Token) → Parsed α tokens}

/-- The cursor stands behind its last token, or in front of one of its tokens. -/
def Within (cursor : Cursor) : Prop :=
  cursor.position ≤ cursor.tokens.length

/-- The second cursor stands within the tokens of the first one, and not in front of it. -/
structure Leads (cursor after : Cursor) : Prop where
  tokens_eq : after.tokens = cursor.tokens
  position_le : cursor.position ≤ after.position
  within : after.Within

/-- A cursor that stays where it is leads there. -/
theorem Within.leads (h : cursor.Within) : cursor.Leads cursor :=
  ⟨rfl, Nat.le_refl _, h⟩

/-- Moving on twice is moving on. -/
theorem Leads.trans {last : Cursor} (h : cursor.Leads after) (hlast : after.Leads last) :
    cursor.Leads last :=
  ⟨hlast.tokens_eq.trans h.tokens_eq, h.position_le.trans hlast.position_le, hlast.within⟩

/-- The tokens in front of which a cursor stands are all that is left. -/
theorem length_rest (cursor : Cursor) :
    cursor.rest.length = cursor.tokens.length - cursor.position :=
  List.length_drop

/-- What is left after a move is what the move was to leave. -/
theorem rest_moveTo {rest : List Token} (h : rest <:+ cursor.rest) :
    (cursor.moveTo rest).rest = rest :=
  (List.suffix_iff_eq_drop.mp (h.trans (List.drop_suffix _ _))).symm

/-- A cursor moves on when it leaves an end of what was left. -/
theorem Within.moveTo (hwithin : cursor.Within) {rest : List Token} (h : rest <:+ cursor.rest) :
    cursor.Leads (cursor.moveTo rest) := by
  have hlength := h.length_le
  rw [length_rest] at hlength
  refine ⟨rfl, ?_, Nat.sub_le _ _⟩
  show cursor.position ≤ cursor.tokens.length - rest.length
  unfold Within at hwithin
  omega

/-- A cursor that leaves all that was left does not move. -/
theorem Within.moveTo_rest (h : cursor.Within) : cursor.moveTo cursor.rest = cursor := by
  have hposition : cursor.tokens.length - cursor.rest.length = cursor.position := by
    rw [length_rest]
    exact Nat.sub_sub_self h
  unfold Cursor.moveTo
  rw [hposition]

/-- A step moves the cursor to what it leaves. -/
theorem advance_snd : (cursor.advance step).2 = cursor.moveTo (unread (step cursor.rest)) := by
  unfold advance
  cases step cursor.rest <;> rfl

/-- A step that gives a result moves the cursor to the rest. -/
theorem advance_eq_ok_iff {result : α} :
    cursor.advance step = (.ok result, after) ↔
      ∃ rest, Gives (step cursor.rest) result rest ∧ after = cursor.moveTo rest := by
  unfold advance
  cases step cursor.rest with
  | error stop => simp [not_gives_error]
  | ok outcome =>
      obtain ⟨found, left⟩ := outcome
      constructor
      · intro h
        obtain ⟨hresult, rfl⟩ := Prod.mk.inj h
        exact ⟨left.val, gives_ok_iff.mpr ⟨(Except.ok.inj hresult).symm, rfl⟩, rfl⟩
      · rintro ⟨rest, hgives, rfl⟩
        obtain ⟨rfl, rfl⟩ := gives_ok_iff.mp hgives
        rfl

/-- A step leads on when it leaves an end of what was left. -/
theorem Within.advance (hwithin : cursor.Within)
    (hstep : unread (step cursor.rest) <:+ cursor.rest) :
    cursor.Leads (cursor.advance step).2 := by
  rw [advance_snd]
  exact hwithin.moveTo hstep

/-- A failed step does not move the cursor when it leaves all that was left. -/
theorem Within.of_advance_error (hwithin : cursor.Within) {cause : ParseFailure}
    (h : cursor.advance step = (.error cause, after))
    (hstep : ∀ stop, step cursor.rest = .error stop → stop.rest = cursor.rest) :
    after = cursor := by
  unfold Cursor.advance at h
  split at h
  · cases h
  · next stop hstop =>
    obtain ⟨-, rfl⟩ := Prod.mk.inj h
    rw [hstep stop hstop, hwithin.moveTo_rest]

/-- An expression is read off the tokens that the cursor passes, and off nothing else. -/
theorem exists_passed_of_expression {expr : Expr Leaf}
    (h : cursor.advance (Formula.expression line) = (.ok expr, after)) :
    ∃ token passed, cursor.rest = token :: passed ++ after.rest ∧
      after.position = cursor.position + (passed.length + 1) ∧
      (start (token :: passed)).advance (Formula.expression line) =
        (.ok expr, ⟨token :: passed, passed.length + 1⟩) := by
  obtain ⟨rest, hgives, rfl⟩ := advance_eq_ok_iff.mp h
  obtain ⟨front, hsplit, hfront, hshort⟩ := expression_sound hgives
  obtain ⟨token, passed, rfl, -⟩ := hfront.exists_cons
  have hrest : rest <:+ cursor.rest := ⟨_, hsplit.symm⟩
  have hlength := congrArg List.length hsplit
  simp only [length_rest, List.length_append, List.length_cons] at hlength
  refine ⟨token, passed, ?_, ?_, advance_eq_ok_iff.mpr ⟨[], ?_, rfl⟩⟩
  · rw [rest_moveTo hrest, hsplit]
  · show cursor.tokens.length - rest.length = _
    omega
  · have halone : Gives (Formula.expression line (token :: passed ++ [])) expr [] :=
      gives_of_expression hfront hshort fun _ hnext => nomatch hnext
    rwa [List.append_nil] at halone

/-! ## Runs -/

/-- A step that can be asked of a cursor. -/
inductive Step where
  /-- A token of any kind is read. -/
  | token
  /-- A token of one kind is read. -/
  | tokenOf (kind : Token.Kind) (what : Text)
  /-- An expression is read. -/
  | expression
  /-- A call is read. -/
  | call
  /-- An array is read. -/
  | array
  /-- A token is read as a reference. -/
  | reference

/-- The cursor that a step leaves, whether the step gives a result or fails. -/
def take (line : Int) (cursor : Cursor) : Step → Cursor
  | .token => (cursor.advance anyToken).2
  | .tokenOf kind what => (cursor.advance (Formula.tokenOf kind what)).2
  | .expression => (cursor.advance (Formula.expression line)).2
  | .call => (cursor.advance (Formula.call line)).2
  | .array => (cursor.advance (Formula.array line)).2
  | .reference => (cursor.advance Formula.reference).2

/-- The cursor after steps, of which each one starts where the one before it has stopped, also when
it has failed. -/
def run (line : Int) (cursor : Cursor) (steps : List Step) : Cursor :=
  steps.foldl (take line) cursor

/-- A step leads on. -/
theorem Within.take (hwithin : cursor.Within) (line : Int) (step : Step) :
    cursor.Leads (cursor.take line step) := by
  cases step with
  | token => exact hwithin.advance (unread_anyToken _)
  | tokenOf kind what => exact hwithin.advance (unread_tokenOf kind what _)
  | expression => exact hwithin.advance (unread_expression _)
  | call => exact hwithin.advance (unread_call _)
  | array => exact hwithin.advance (unread_array _)
  | reference => exact hwithin.advance (unread_reference _)

/-- Steps lead on, each one from where the one before it has stopped. -/
theorem Within.run (hwithin : cursor.Within) (line : Int) (steps : List Step) :
    cursor.Leads (cursor.run line steps) := by
  induction steps generalizing cursor with
  | nil => exact hwithin.leads
  | cons step steps ih =>
      have hstep := hwithin.take line step
      exact hstep.trans (ih hstep.within)

/-- A cursor in front of the first token stands within its tokens. -/
theorem within_start (tokens : List Token) : (start tokens).Within :=
  Nat.zero_le _

/-- The position of a cursor is sound after any steps. It lies within the tokens, further steps
never move it back, and a token that cannot be read leaves it as it is. An expression that is read
moves it by one token at least, and is what the tokens on the way give when they are all there
is. -/
theorem positions_sound (line : Int) (tokens : List Token) (steps : List Step) :
    let cursor := (start tokens).run line steps
    cursor.tokens = tokens ∧ cursor.position ≤ tokens.length ∧
    (∀ further, cursor.position ≤ (cursor.run line further).position) ∧
    (∀ cause after, cursor.advance anyToken = (.error cause, after) → after = cursor) ∧
    (∀ kind what cause after,
      cursor.advance (tokenOf kind what) = (.error cause, after) → after = cursor) ∧
    ∀ expr after, cursor.advance (expression line) = (.ok expr, after) →
      let passed := (tokens.drop cursor.position).take (after.position - cursor.position)
      cursor.position < after.position ∧
      (start passed).advance (expression line) = (.ok expr, ⟨passed, passed.length⟩) := by
  intro cursor
  have hleads : (start tokens).Leads cursor := (within_start tokens).run line steps
  have htokens : cursor.tokens = tokens := hleads.tokens_eq
  have hwithin : cursor.Within := hleads.within
  refine ⟨htokens, htokens ▸ hwithin, fun further => (hwithin.run line further).position_le,
    fun cause after h => ?_, fun kind what cause after h => ?_, fun expr after h => ?_⟩
  · exact hwithin.of_advance_error h fun _ => rest_of_anyToken_error
  · exact hwithin.of_advance_error h fun _ => rest_of_tokenOf_error
  · obtain ⟨token, front, hrest, hposition, halone⟩ := exists_passed_of_expression h
    have hpassed : (tokens.drop cursor.position).take (after.position - cursor.position) =
        token :: front := by
      have hcount : after.position - cursor.position = (token :: front).length := by
        rw [hposition, Nat.add_sub_cancel_left, List.length_cons]
      rw [← htokens, hcount]
      show cursor.rest.take _ = _
      rw [hrest, List.take_left]
    refine ⟨by omega, ?_⟩
    rw [hpassed]
    exact halone

/-- No name is read where a semicolon stands, and nothing is read at the end. Behind the semicolon,
the call `f(1)` is read in front of another parenthesis, and is read in the same way when it is
alone. -/
theorem positions_sound_after_failure :
    let passed : List Token := [.identifier ['f'], .mark .leftParen ['('], .number ⟨false, 1, 0⟩,
      .mark .rightParen [')']]
    let tokens : List Token := .mark .semicolon [';'] :: (passed ++ [.mark .rightParen [')']])
    let expr : Expr Leaf := .call ['f'] [.leaf (.literal (.number ⟨false, 1, 0⟩))] 7
    let name : Step := .tokenOf .identifier "identifier".toList
    let cursor := (start tokens).run 7 [name, .token]
    let last := (start tokens).run 7 (List.replicate 6 .token)
    (start tokens).take 7 name = start tokens ∧ last.take 7 .token = last ∧
      cursor.advance (expression 7) = (.ok expr, ⟨tokens, 5⟩) ∧ cursor.position < 5 ∧
      (start passed).advance (expression 7) = (.ok expr, ⟨passed, 4⟩) := by
  intro passed tokens expr name cursor last
  obtain ⟨-, -, -, -, hname, -⟩ := positions_sound 7 tokens []
  obtain ⟨-, -, -, htoken, -, -⟩ := positions_sound 7 tokens (List.replicate 6 .token)
  obtain ⟨-, -, -, -, -, hexpression⟩ := positions_sound 7 tokens [name, .token]
  have hcall : Grammar.Expression 7 passed expr := .call (.call (.cons (.atom .number) .nil))
  have hread : cursor.advance (expression 7) = (.ok expr, ⟨tokens, 5⟩) := by
    refine advance_eq_ok_iff.mpr ⟨[.mark .rightParen [')']], ?_, rfl⟩
    exact gives_of_expression hcall (by decide) fun next hnext => by
      obtain rfl := Option.some.inj hnext
      decide
  obtain ⟨hmoved, halone⟩ := hexpression expr ⟨tokens, 5⟩ hread
  have hkept : (start tokens).take 7 name = start tokens :=
    hname .identifier "identifier".toList
      (.grammar (.expected "identifier".toList (some (.mark .semicolon)))) _ rfl
  exact ⟨hkept, htoken (.grammar .endOfFormula) _ rfl, hread, hmoved, halone⟩

end Cursor

end SheetCalc
