import SheetCalc.Evaluation.Cell
import SheetCalc.Proofs.Formula.Cells
import SheetCalc.Proofs.Formula.Leafwise

/-!
# The calls of a formula

A formula is a call, and its arguments hold further calls. A formula of literals has no value only
because one of its calls has none, although the arguments of that call have values:
`Formula.exists_call_of_value_error`. The calls of a formula that a text writes all stand in the
line of the text.
-/

namespace SheetCalc

variable {α : Type}

namespace Expr

mutual

/-- The calls in a tree, each one before the calls in its arguments. -/
def calls : Expr α → List (Formula α)
  | .leaf _ => []
  | .array elements => callsOf elements
  | .call name arguments line => ⟨name, arguments, line⟩ :: callsOf arguments

/-- The calls in trees in a row. -/
def callsOf : List (Expr α) → List (Formula α)
  | [] => []
  | expr :: exprs => expr.calls ++ callsOf exprs

end

end Expr

/-- The calls of a formula: the one at its root, and those in its arguments. -/
def Formula.calls (formula : Formula α) : List (Formula α) :=
  formula.toExpr.calls

namespace Expr

/-! ## Leaves and lines -/

mutual

/-- The leaves of a call in a tree are leaves of the tree. -/
theorem leaves_of_mem_calls {call : Formula α} {leaf : α} : (expr : Expr α) →
    call ∈ expr.calls → leaf ∈ leavesOf call.arguments → leaf ∈ expr.leaves
  | .leaf _ => fun hcall => absurd hcall List.not_mem_nil
  | .array elements => leaves_of_mem_callsOf elements
  | .call name arguments _ => fun hcall hleaf => by
    rcases List.mem_cons.mp hcall with rfl | harguments
    · exact hleaf
    · exact leaves_of_mem_callsOf arguments harguments hleaf

/-- The leaves of a call in trees are leaves of the trees. -/
theorem leaves_of_mem_callsOf {call : Formula α} {leaf : α} : (exprs : List (Expr α)) →
    call ∈ callsOf exprs → leaf ∈ leavesOf call.arguments → leaf ∈ leavesOf exprs
  | [] => fun hcall => absurd hcall List.not_mem_nil
  | expr :: exprs => fun hcall hleaf => by
    rcases List.mem_append.mp hcall with hfirst | hothers
    · exact List.mem_append_left _ (leaves_of_mem_calls expr hfirst hleaf)
    · exact List.mem_append_right _ (leaves_of_mem_callsOf exprs hothers hleaf)

end

mutual

/-- The calls of a tree at one line stand in this line. -/
theorem line_of_mem_calls_atLine {line : Int} : (expr : Expr α) →
    ∀ call ∈ (expr.atLine line).calls, call.line = line
  | .leaf _ => fun _ hcall => absurd hcall List.not_mem_nil
  | .array elements => line_of_mem_callsOf_atLineAll elements
  | .call name arguments _ => fun call hcall => by
    rcases List.mem_cons.mp hcall with rfl | harguments
    · rfl
    · exact line_of_mem_callsOf_atLineAll arguments call harguments

/-- The calls of trees at one line stand in this line. -/
theorem line_of_mem_callsOf_atLineAll {line : Int} : (exprs : List (Expr α)) →
    ∀ call ∈ callsOf (atLineAll line exprs), call.line = line
  | [] => fun _ hcall => absurd hcall List.not_mem_nil
  | expr :: exprs => fun call hcall => by
    rcases List.mem_append.mp hcall with hfirst | hothers
    · exact line_of_mem_calls_atLine expr call hfirst
    · exact line_of_mem_callsOf_atLineAll exprs call hothers

end

mutual

/-- When two trees have related leaves, each call in the second one has its counterpart in the
first one. -/
theorem Leafwise.exists_call_of_mem_calls {β : Type} {Related : α → β → Prop} {result : Formula β}
    {expr : Expr α} {other : Expr β} : Leafwise Related expr other → result ∈ other.calls →
    ∃ call ∈ expr.calls, call.toExpr.Leafwise Related result.toExpr
  | .leaf _ => fun hresult => absurd hresult List.not_mem_nil
  | .array helements => helements.exists_call_of_mem_callsOf
  | .call harguments => fun hresult => by
    rcases List.mem_cons.mp hresult with rfl | hinside
    · exact ⟨_, List.mem_cons_self, .call harguments⟩
    · obtain ⟨call, hcall, hleaves⟩ := harguments.exists_call_of_mem_callsOf hinside
      exact ⟨call, List.mem_cons_of_mem _ hcall, hleaves⟩

/-- When rows of trees have related leaves, each call in the second row has its counterpart in the
first one. -/
theorem LeafwiseAll.exists_call_of_mem_callsOf {β : Type} {Related : α → β → Prop}
    {result : Formula β} {exprs : List (Expr α)} {others : List (Expr β)} :
    LeafwiseAll Related exprs others → result ∈ callsOf others →
    ∃ call ∈ callsOf exprs, call.toExpr.Leafwise Related result.toExpr
  | .nil => fun hresult => absurd hresult List.not_mem_nil
  | .cons hfirst hrest => fun hresult => by
    rcases List.mem_append.mp hresult with hfront | hback
    · obtain ⟨call, hcall, hleaves⟩ := hfirst.exists_call_of_mem_calls hfront
      exact ⟨call, List.mem_append_left _ hcall, hleaves⟩
    · obtain ⟨call, hcall, hleaves⟩ := hrest.exists_call_of_mem_callsOf hback
      exact ⟨call, List.mem_append_right _ hcall, hleaves⟩

end

end Expr

/-! ## Calls without a text -/

/-- The call itself fails: it has no text, although its arguments have values. -/
def Formula.FailsItself (call : Formula Literal) (fault : Fault) : Prop :=
  ∃ values, Expr.values call.arguments = .ok values ∧
    Expr.apply call.name values call.line = .error fault

/-- A fault of two results in a row is that of the first one, or that of the second one. -/
theorem of_bind_eq_error {β : Type} {first : Except Fault α} {next : α → Except Fault β}
    {fault : Fault} (h : first >>= next = .error fault) :
    first = .error fault ∨ ∃ result, first = .ok result ∧ next result = .error fault := by
  cases first with
  | error cause => exact .inl (congrArg Except.error (Except.error.inj h))
  | ok result => exact .inr ⟨result, rfl, h⟩

/-- The result of two results in a row is that of the second one. -/
theorem of_bind_eq_ok {β : Type} {first : Except Fault α} {next : α → Except Fault β} {final : β}
    (h : first >>= next = .ok final) : ∃ result, first = .ok result ∧ next result = .ok final := by
  cases first with
  | error cause => cases h
  | ok result => exact ⟨result, rfl, h⟩

namespace Expr

mutual

/-- A tree without a value holds a call that has none. -/
theorem exists_call_of_value_error {fault : Fault} : (expr : Expr Literal) →
    expr.value = .error fault → ∃ call ∈ expr.calls, call.FailsItself fault
  | .leaf _, h => nomatch h
  | .array elements, h => by
    rcases of_bind_eq_error h with helements | ⟨_, _, hnone⟩
    · exact exists_call_of_values_error elements helements
    · cases hnone
  | .call name arguments line, h => by
    rcases of_bind_eq_error h with harguments | ⟨values, hvalues, hrest⟩
    · obtain ⟨call, hcall, hfails⟩ := exists_call_of_values_error arguments harguments
      exact ⟨call, List.mem_cons_of_mem _ hcall, hfails⟩
    · rcases of_bind_eq_error hrest with happly | ⟨_, _, hnone⟩
      · exact ⟨⟨name, arguments, line⟩, List.mem_cons_self, values, hvalues, happly⟩
      · cases hnone

/-- Trees without values hold a call that has none. -/
theorem exists_call_of_values_error {fault : Fault} : (exprs : List (Expr Literal)) →
    values exprs = .error fault → ∃ call ∈ callsOf exprs, call.FailsItself fault
  | [], h => nomatch h
  | expr :: exprs, h => by
    rcases of_bind_eq_error h with hfirst | ⟨_, _, hrest⟩
    · obtain ⟨call, hcall, hfails⟩ := exists_call_of_value_error expr hfirst
      exact ⟨call, List.mem_append_left _ hcall, hfails⟩
    · rcases of_bind_eq_error hrest with hothers | ⟨_, _, hnone⟩
      · obtain ⟨call, hcall, hfails⟩ := exists_call_of_values_error exprs hothers
        exact ⟨call, List.mem_append_right _ hcall, hfails⟩
      · cases hnone

end

/-- A call has no text because its builtin function has no result for the values, or because there
is no builtin function of its name. -/
theorem apply_eq_error_iff {name : Text} {values : List Value} {line : Int} {fault : Fault} :
    apply name values line = .error fault ↔
      (∃ cause, Builtin.call? name values = some (.error cause) ∧
        fault = .evaluation (.builtin cause) line) ∨
      (Builtin.ofName? name = none ∧
        fault = .evaluation (.unknownFunction name
          ((Builtin.nearest? name Builtin.suggestionThreshold).map Builtin.name)) line) := by
  unfold apply Builtin.call?
  cases Builtin.ofName? name with
  | none => simp [eq_comm]
  | some builtin =>
    cases hcall : builtin.call values with
    | ok text => simp [hcall]
    | error cause => simp [hcall, eq_comm]

end Expr

namespace Formula

/-- A formula of literals without a value has a call that has none. -/
theorem exists_call_of_value_error {formula : Formula Literal} {fault : Fault}
    (h : formula.value = .error fault) : ∃ call ∈ formula.calls, call.FailsItself fault := by
  rcases of_bind_eq_error h with harguments | ⟨values, hvalues, happly⟩
  · obtain ⟨call, hcall, hfails⟩ := Expr.exists_call_of_values_error _ harguments
    exact ⟨call, List.mem_cons_of_mem _ hcall, hfails⟩
  · exact ⟨formula, List.mem_cons_self, values, hvalues, happly⟩

/-- All calls of a formula that a text writes stand in the line of the text. -/
theorem line_of_mem_calls {line : Int} {text : Text} {formula call : Formula Leaf}
    (h : ofText line text = .ok formula) (hcall : call ∈ formula.calls) : call.line = line := by
  obtain ⟨tokens, -, hwritten⟩ := call_of_ofText h
  have hline : formula.atLine line = formula := Grammar.atLine_of_call hwritten
  rw [← hline] at hcall
  exact Expr.line_of_mem_calls_atLine formula.toExpr call hcall

/-- The calls of a formula that a text writes refer to addressable cells only. -/
theorem addressable_of_mem_calls {line : Int} {text : Text} {formula call : Formula Leaf}
    (h : ofText line text = .ok formula) (hcall : call ∈ formula.calls) {cell : Cell}
    (hcell : cell ∈ call.cells) : cell.Addressable := by
  obtain ⟨leaf, hleaf, haddress⟩ := List.mem_filterMap.mp hcell
  have hinside : leaf ∈ Expr.leavesOf formula.arguments :=
    Expr.leaves_of_mem_calls formula.toExpr hcall hleaf
  exact addressable_of_cell? (leaves_of_ofText h leaf hinside) haddress

end Formula

end SheetCalc
