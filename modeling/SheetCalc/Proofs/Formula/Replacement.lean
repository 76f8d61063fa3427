import SheetCalc.Proofs.Formula.Arithmetic
import SheetCalc.Proofs.Formula.Calls

/-!
# Calls replaced by their values

A frame is a formula in which one place is left open; the calls inside a formula are what stands at
such places: `Formula.mem_callsOf_iff`. The value of a formula depends on the tree at an open place
through the value of that tree alone. A call stands for what its text reads as, so it can be
replaced by this literal: main theorem `Formula.value_of_replaced`.
-/

namespace SheetCalc

variable {α : Type}

namespace Expr

/-- A tree with an open place: the place itself, or an array or a call with trees before and after
the one in which the place is. -/
inductive Frame (α : Type) where
  | here
  | array (before : List (Expr α)) (inside : Frame α) (after : List (Expr α))
  | call (name : Text) (before : List (Expr α)) (inside : Frame α) (after : List (Expr α))
    (line : Int)

/-- The tree with another one at its open place. -/
def Frame.plug : Frame α → Expr α → Expr α
  | .here, expr => expr
  | .array before inside after, expr => .array (before ++ inside.plug expr :: after)
  | .call name before inside after line, expr =>
    .call name (before ++ inside.plug expr :: after) line

end Expr

/-- A formula with an open place inside its call, in one of the arguments. -/
structure Formula.Frame (α : Type) where
  name : Text
  before : List (Expr α)
  inside : Expr.Frame α
  after : List (Expr α)
  line : Int

/-- The formula with a tree at its open place. -/
def Formula.Frame.plug (frame : Frame α) (expr : Expr α) : Formula α :=
  ⟨frame.name, frame.before ++ frame.inside.plug expr :: frame.after, frame.line⟩

/-! ## The places of calls -/

namespace Expr

/-- The calls in trees in a row are the calls in one after the other. -/
theorem callsOf_eq_flatMap (exprs : List (Expr α)) : callsOf exprs = exprs.flatMap calls := by
  induction exprs with
  | nil => rfl
  | cons expr exprs ih => simp [callsOf, ih]

/-- A call is in trees in a row if it is in one of them. -/
theorem mem_callsOf_append_cons {call : Formula α} {expr : Expr α} (h : call ∈ expr.calls)
    (before after : List (Expr α)) : call ∈ callsOf (before ++ expr :: after) := by
  rw [callsOf_eq_flatMap]
  exact List.mem_flatMap.mpr ⟨expr, by simp, h⟩

/-- A call at an open place is in the tree. -/
theorem Frame.mem_calls_plug (call : Formula α) :
    (frame : Frame α) → call ∈ (frame.plug call.toExpr).calls
  | .here => List.mem_cons_self
  | .array before inside after => mem_callsOf_append_cons (inside.mem_calls_plug call) before after
  | .call _ before inside after _ =>
    List.mem_cons_of_mem _ (mem_callsOf_append_cons (inside.mem_calls_plug call) before after)

mutual

/-- Each call in a tree is at an open place of a frame. -/
theorem exists_frame_of_mem_calls {call : Formula α} : (expr : Expr α) → call ∈ expr.calls →
    ∃ frame : Frame α, frame.plug call.toExpr = expr
  | .leaf _, h => absurd h List.not_mem_nil
  | .array elements, h => by
    obtain ⟨before, inside, after, rfl⟩ := exists_frame_of_mem_callsOf elements h
    exact ⟨.array before inside after, rfl⟩
  | .call name arguments line, h => by
    rcases List.mem_cons.mp h with rfl | hinside
    · exact ⟨.here, rfl⟩
    · obtain ⟨before, inside, after, rfl⟩ := exists_frame_of_mem_callsOf arguments hinside
      exact ⟨.call name before inside after line, rfl⟩

/-- Each call in trees in a row is at an open place in one of them. -/
theorem exists_frame_of_mem_callsOf {call : Formula α} : (exprs : List (Expr α)) →
    call ∈ callsOf exprs →
    ∃ (before : List (Expr α)) (inside : Frame α) (after : List (Expr α)),
      before ++ inside.plug call.toExpr :: after = exprs
  | [], h => absurd h List.not_mem_nil
  | expr :: exprs, h => by
    rcases List.mem_append.mp h with hfirst | hothers
    · obtain ⟨inside, rfl⟩ := exists_frame_of_mem_calls expr hfirst
      exact ⟨[], inside, exprs, rfl⟩
    · obtain ⟨before, inside, after, rfl⟩ := exists_frame_of_mem_callsOf exprs hothers
      exact ⟨expr :: before, inside, after, rfl⟩

end

end Expr

/-- The calls inside a formula are those at the open places of its frames. -/
theorem Formula.mem_callsOf_iff {formula call : Formula α} :
    call ∈ Expr.callsOf formula.arguments ↔
      ∃ frame : Frame α, frame.plug call.toExpr = formula := by
  constructor
  · intro h
    obtain ⟨name, arguments, line⟩ := formula
    obtain ⟨before, inside, after, rfl⟩ := Expr.exists_frame_of_mem_callsOf arguments h
    exact ⟨⟨name, before, inside, after, line⟩, rfl⟩
  · rintro ⟨frame, rfl⟩
    exact Expr.mem_callsOf_append_cons (frame.inside.mem_calls_plug call) _ _

/-! ## Values -/

namespace Expr

variable {expr other : Expr Literal} (h : expr.value = other.value)
include h

/-- The values of trees in a row depend on each tree through its value. -/
theorem values_append_cons (before after : List (Expr Literal)) :
    values (before ++ expr :: after) = values (before ++ other :: after) := by
  induction before with
  | nil => rw [List.nil_append, List.nil_append, values, values, h]
  | cons first before ih => rw [List.cons_append, List.cons_append, values, values, ih]

/-- The value of a tree depends on the tree at an open place through its value. -/
theorem Frame.value_plug (frame : Frame Literal) :
    (frame.plug expr).value = (frame.plug other).value := by
  induction frame with
  | here => exact h
  | array before inside after ih => rw [plug, plug, value, value, values_append_cons ih]
  | call name before inside after line ih =>
      rw [plug, plug, value, value, values_append_cons ih]

end Expr

/-- A call with a text has the value of the literal that the text reads as. -/
theorem Formula.value_toExpr {call : Formula Literal} {text : Text} (h : call.value = .ok text) :
    call.toExpr.value = (Expr.leaf (.ofText text)).value := by
  rw [value] at h
  cases hvalues : Expr.values call.arguments with
  | error fault =>
      rw [hvalues] at h
      cases h
  | ok values =>
      rw [hvalues] at h
      exact Expr.value_of_apply hvalues h

/-- A nested call can be replaced by its value. The calls inside a formula, in its arguments or in
arrays at any depth, are those at the open places of its frames. When such a call has a text, the
formula with the literal that the text reads as in place of the call has the same outcome: the same
text, or the same fault. -/
theorem Formula.value_of_replaced (formula call : Formula Literal) :
    (call ∈ Expr.callsOf formula.arguments ↔
      ∃ frame : Frame Literal, frame.plug call.toExpr = formula) ∧
    ∀ (frame : Frame Literal) (text : Text), frame.plug call.toExpr = formula →
      call.value = .ok text → (frame.plug (.leaf (.ofText text))).value = formula.value := by
  refine ⟨mem_callsOf_iff, ?_⟩
  rintro frame text rfl hcall
  have hinside := frame.inside.value_plug (value_toExpr hcall)
  rw [value, value, Frame.plug, Frame.plug, Expr.values_append_cons hinside]

/-- In `print(mul(2;3);[sum(1;1)])` the sum can be replaced by `2`. -/
theorem Formula.value_of_replaced_sum :
    let one : Expr Literal := .leaf (.number ⟨false, 1, 0⟩)
    let product : Expr Literal :=
      .call "mul".toList [.leaf (.number ⟨false, 2, 0⟩), .leaf (.number ⟨false, 3, 0⟩)] 2
    let sum : Formula Literal := ⟨"sum".toList, [one, one], 2⟩
    let frame : Frame Literal := ⟨"print".toList, [product], .array [] .here [], [], 2⟩
    sum ∈ Expr.callsOf (frame.plug sum.toExpr).arguments ∧
    sum.value = .ok "2".toList ∧
    (frame.plug (.leaf (.ofText "2".toList))).value = (frame.plug sum.toExpr).value ∧
    (frame.plug sum.toExpr).value = .ok "6, [2]".toList := by
  intro one product sum frame
  have htext : sum.value = .ok "2".toList := by cbv
  obtain ⟨hcalls, hreplaced⟩ := value_of_replaced (frame.plug sum.toExpr) sum
  exact ⟨hcalls.mpr ⟨frame, rfl⟩, htext, hreplaced frame _ rfl htext, by cbv⟩

end SheetCalc
