import SheetCalc.Proofs.Evaluation.References
import SheetCalc.Proofs.Formula.Calls

/-!
# The formula that causes a fault

A text that is no formula, a column without an index and a call without a text are faults of a
formula itself, and are reported with its line; a row that is not read is a fault of the formula
without a line. `Formula.Causes` says what is wrong with the formula in each case. Main theorem:
`exists_caused_of_unguarded`. When the evaluation of a cell ends with such a fault, references lead
from the cell to one whose formula causes the fault. For a text outside the sheet the formula is in
this text or in a cell: this is `Evaluator.causedIn_of_textValue`.
-/

namespace SheetCalc

open Evaluation Relation

/-- A fault of two evaluations in a row is that of the first one, or that of the second one. -/
theorem Evaluation.error_of_bind {α β : Type} {first : Evaluation α} {next : α → Evaluation β}
    {context : Context} {fault : Fault} (hkeeps : first.Keeps context)
    (h : ((first >>= next).outcome context).1 = .error fault) :
    (first.outcome context).1 = .error fault ∨
      ∃ result, (first.outcome context).1 = .ok result ∧
        ((next result).outcome context).1 = .error fault := by
  rw [outcome_bind_of_keeps hkeeps] at h
  cases hfirst : (first.outcome context).1 with
  | error cause =>
      rw [hfirst] at h
      exact .inl (congrArg Except.error (Except.error.inj h))
  | ok result =>
      rw [hfirst] at h
      exact .inr ⟨result, rfl, h⟩

/-- A leaf that is not filled is a reference without a column, or refers to a cell without a
value. -/
theorem Leaf.error_of_fill {lookup : Lookup} {line : Int} {context : Context}
    (hkeeps : ∀ cell line, (lookup cell line).Keeps context) {leaf : Leaf} {fault : Fault}
    (h : ((leaf.fill lookup line).outcome context).1 = .error fault) :
    (∃ target cause, leaf = .reference target ∧ Column.index target.column = .error cause ∧
        fault = .evaluation (.invalidColumn target.column target.text) line) ∨
      ∃ cell, leaf.cell? = some cell ∧ ((lookup cell line).outcome context).1 = .error fault := by
  cases leaf with
  | literal content => cases h
  | reference target =>
      rw [Leaf.fill] at h
      rw [Leaf.cell?]
      cases hcolumn : Column.index target.column with
      | error cause =>
          rw [hcolumn] at h
          exact .inl ⟨target, cause, rfl, hcolumn, (Except.error.inj h).symm⟩
      | ok column =>
          rw [hcolumn] at h
          rcases error_of_bind (hkeeps _ line) h with hlookup | ⟨_, _, hnone⟩
          · exact .inr ⟨_, rfl, hlookup⟩
          · cases hnone

namespace Expr

section Error

variable {α β : Type} {f : α → Evaluation β} {context : Context} {fault : Fault}
  (hkeeps : ∀ leaf, (f leaf).Keeps context)
include hkeeps

mutual

/-- A tree that is not filled has a leaf on which the action fails. -/
theorem exists_leaf_of_traverse_error : (expr : Expr α) →
    ((expr.traverse f).outcome context).1 = .error fault →
    ∃ leaf ∈ expr.leaves, ((f leaf).outcome context).1 = .error fault
  | .leaf content, h => by
    rcases error_of_bind (hkeeps content) h with hleaf | ⟨_, _, hnone⟩
    · exact ⟨content, List.mem_cons_self, hleaf⟩
    · cases hnone
  | .array elements, h => by
    rcases error_of_bind (traverseAll_keeps hkeeps elements) h with helements | ⟨_, _, hnone⟩
    · exact exists_leaf_of_traverseAll_error elements helements
    · cases hnone
  | .call name arguments line, h => by
    rcases error_of_bind (traverseAll_keeps hkeeps arguments) h with harguments | ⟨_, _, hnone⟩
    · exact exists_leaf_of_traverseAll_error arguments harguments
    · cases hnone

/-- Trees that are not filled have a leaf on which the action fails. -/
theorem exists_leaf_of_traverseAll_error : (exprs : List (Expr α)) →
    ((traverseAll f exprs).outcome context).1 = .error fault →
    ∃ leaf ∈ leavesOf exprs, ((f leaf).outcome context).1 = .error fault
  | [], h => nomatch h
  | expr :: exprs, h => by
    rcases error_of_bind (traverse_keeps hkeeps expr) h with hfirst | ⟨_, _, hrest⟩
    · obtain ⟨leaf, hleaf, hfault⟩ := exists_leaf_of_traverse_error expr hfirst
      exact ⟨leaf, List.mem_append_left _ hleaf, hfault⟩
    · rcases error_of_bind (traverseAll_keeps hkeeps exprs) hrest with hothers | ⟨_, _, hnone⟩
      · obtain ⟨leaf, hleaf, hfault⟩ := exists_leaf_of_traverseAll_error exprs hothers
        exact ⟨leaf, List.mem_append_right _ hleaf, hfault⟩
      · cases hnone

end

end Error

end Expr

namespace Formula

variable {lookup : Lookup} {line : Int} {context : Context}
  (hkeeps : ∀ cell line, (lookup cell line).Keeps context)
include hkeeps

/-- A call that is filled keeps its name and its line. -/
theorem name_and_line_of_fill_ok {formula : Formula Leaf} {filled : Formula Literal}
    (h : ((formula.fill lookup line).outcome context).1 = .ok filled) :
    filled.name = formula.name ∧ filled.line = formula.line := by
  obtain ⟨arguments, -, rfl⟩ := exists_arguments_of_fill_ok hkeeps h
  exact ⟨rfl, rfl⟩

/-- A call in a formula that is filled is a call of the formula, filled. -/
theorem exists_call_of_fill_ok {formula : Formula Leaf} {filled result : Formula Literal}
    (h : ((formula.fill lookup line).outcome context).1 = .ok filled)
    (hresult : result ∈ filled.calls) :
    ∃ call ∈ formula.calls, ((call.fill lookup line).outcome context).1 = .ok result := by
  obtain ⟨call, hcall, hleaves⟩ :=
    ((fill_eq_ok_iff hkeeps).mp h).exists_call_of_mem_calls hresult
  exact ⟨call, hcall, (fill_eq_ok_iff hkeeps).mpr hleaves⟩

end Formula

/-! ## Causes -/

/-- The error is that of a formula itself, not that of a missing cell or of a file. -/
def EvaluationError.IsOwn : EvaluationError → Prop
  | .invalidColumn .. | .builtin _ | .unknownFunction .. => True
  | .unreadable _ | .rowBeyond .. | .columnBeyond .. | .editBeyond .. | .notOpened _
  | .notWritten _ | .notFlushed _ => False

/-- The fault is that of a formula itself, and is reported with its line. -/
def Fault.IsOwn : Fault → Prop
  | .lexical .. | .grammar .. => True
  | .evaluation cause _ => cause.IsOwn
  | .cycle .. | .column _ | .outOfRange _ | .access _ | .conversion _ | .endless => False

/-- The fault of a formula itself is plain. -/
theorem Fault.IsOwn.isPlain {fault : Fault} (h : fault.IsOwn) : fault.IsPlain := by
  cases fault <;> trivial

/-- The fault is that of a formula itself, or of a number in it. -/
def Fault.IsOfFormula (fault : Fault) : Prop :=
  fault.IsOwn ∨ ∃ cause, fault = .conversion cause

/-- The fault of a formula is plain. -/
theorem Fault.IsOfFormula.isPlain {fault : Fault} (h : fault.IsOfFormula) : fault.IsPlain := by
  rcases h with hown | ⟨cause, rfl⟩
  · exact hown.isPlain
  · trivial

/-- What is wrong with a formula in `line` that causes a fault: `body` has no tokens, its tokens
are no call, they stop at a row that is not read, a reference has a column without an index, or
there is a call of a function that there is not, or of a builtin function without a result for the
values of its arguments. -/
inductive Formula.Causes (lookup : Lookup) (context : Context) (line : Int) (body : Text) :
    Fault → Prop
  | lexical {cause : LexicalError} : Token.list body = .error cause →
      Causes lookup context line body (.lexical cause line)
  | grammar {tokens : List Token} {cause : GrammarError} : Token.list body = .ok tokens →
      ofTokens line tokens = .error (.grammar cause) →
      Causes lookup context line body (.grammar cause line)
  | conversion {tokens : List Token} {cause : DigitLimit} : Token.list body = .ok tokens →
      ofTokens line tokens = .error (.conversion cause) →
      Causes lookup context line body (.conversion cause)
  | invalidColumn {formula : Formula Leaf} {target : Reference} {cause : ColumnError} :
      ofText line body = .ok formula → .reference target ∈ Expr.leavesOf formula.arguments →
      Column.index target.column = .error cause →
      Causes lookup context line body
        (.evaluation (.invalidColumn target.column target.text) line)
  | unknownFunction {formula call : Formula Leaf} : ofText line body = .ok formula →
      call ∈ formula.calls → Builtin.ofName? call.name = none →
      Causes lookup context line body (.evaluation (.unknownFunction call.name
        ((Builtin.nearest? call.name Builtin.suggestionThreshold).map Builtin.name)) line)
  | builtin {formula call : Formula Leaf} {filled : Formula Literal} {values : List Value}
      {cause : CallError} : ofText line body = .ok formula → call ∈ formula.calls →
      ((call.fill lookup line).outcome context).1 = .ok filled →
      Expr.values filled.arguments = .ok values →
      Builtin.call? call.name values = some (.error cause) →
      Causes lookup context line body (.evaluation (.builtin cause) line)

namespace Formula

variable {lookup : Lookup} {line : Int} {context : Context} {body : Text} {fault : Fault}

/-- A fault is reported with the line of the formula that causes it. -/
theorem Causes.line?_eq (h : Causes lookup context line body fault) (hown : fault.IsOwn) :
    fault.line? = some line := by
  cases h <;> first | rfl | exact hown.elim

/-- A text that is no formula is itself the cause. -/
theorem causes_of_ofText_error (h : ofText line body = .error fault) :
    Causes lookup context line body fault := by
  unfold ofText at h
  cases htokens : Token.list body with
  | error cause =>
      rw [htokens] at h
      obtain rfl := Except.error.inj h
      exact .lexical htokens
  | ok tokens =>
      rw [htokens] at h
      dsimp only at h
      cases hformula : ofTokens line tokens with
      | error failure =>
          rw [hformula] at h
          obtain rfl := Except.error.inj h
          cases failure with
          | grammar cause => exact .grammar htokens hformula
          | conversion cause => exact .conversion htokens hformula
      | ok formula =>
          rw [hformula] at h
          cases h

variable (hkeeps : ∀ cell line, (lookup cell line).Keeps context)
include hkeeps

/-- A formula that is not filled has a reference without a column, or refers to a cell without a
value. -/
theorem causes_or_refers_of_fill_error {formula : Formula Leaf}
    (hwritten : ofText line body = .ok formula)
    (h : ((formula.fill lookup line).outcome context).1 = .error fault) :
    Causes lookup context line body fault ∨
      ∃ cell ∈ formula.cells, ((lookup cell line).outcome context).1 = .error fault := by
  have hfill := Leaf.fill_keeps hkeeps line
  rcases error_of_bind (Expr.traverseAll_keeps hfill formula.arguments) h with
    harguments | ⟨_, _, hnone⟩
  · obtain ⟨leaf, hleaf, hfault⟩ :=
      Expr.exists_leaf_of_traverseAll_error hfill formula.arguments harguments
    rcases Leaf.error_of_fill hkeeps hfault with ⟨target, cause, rfl, hcolumn, rfl⟩ | hrefers
    · exact .inl (.invalidColumn hwritten hleaf hcolumn)
    · obtain ⟨cell, hcell, hlookup⟩ := hrefers
      exact .inr ⟨cell, List.mem_filterMap.mpr ⟨leaf, hleaf, hcell⟩, hlookup⟩
  · cases hnone

/-- A formula that is filled and has no value contains a call that is the cause. -/
theorem causes_of_value_error {formula : Formula Leaf} {filled : Formula Literal}
    (hwritten : ofText line body = .ok formula)
    (hfilled : ((formula.fill lookup line).outcome context).1 = .ok filled)
    (h : filled.value = .error fault) : Causes lookup context line body fault := by
  obtain ⟨result, hresult, values, hvalues, happly⟩ := exists_call_of_value_error h
  obtain ⟨call, hcall, hfill⟩ := exists_call_of_fill_ok hkeeps hfilled hresult
  obtain ⟨hname, hline⟩ := name_and_line_of_fill_ok hkeeps hfill
  rw [hname, hline, line_of_mem_calls hwritten hcall] at happly
  rcases Expr.apply_eq_error_iff.mp happly with ⟨cause, hcause, rfl⟩ | ⟨hunknown, rfl⟩
  · exact .builtin hwritten hcall hfill hvalues hcause
  · exact .unknownFunction hwritten hcall hunknown

/-- A formula causes what it causes also with another way to find the values of cells, if every
value is found in the other way too. -/
theorem Causes.mono {looking : Lookup} (hlooking : ∀ cell line, (looking cell line).Keeps context)
    (hvalues : ∀ cell value, cell.Addressable → ((lookup cell line).outcome context).1 = .ok value →
      ((looking cell line).outcome context).1 = .ok value)
    (h : Causes lookup context line body fault) : Causes looking context line body fault := by
  cases h with
  | lexical htokens => exact .lexical htokens
  | grammar htokens hformula => exact .grammar htokens hformula
  | conversion htokens hformula => exact .conversion htokens hformula
  | invalidColumn hwritten hleaf hcolumn => exact .invalidColumn hwritten hleaf hcolumn
  | unknownFunction hwritten hcall hunknown => exact .unknownFunction hwritten hcall hunknown
  | @builtin formula call filled values cause hwritten hcall hfill hvalue hcause =>
      have hagree : RelatedAt (Agree (fun _ => True) Fault.Never) context context
          (call.fill lookup line) (call.fill looking line) := by
        refine .fill (congruence_agree _ _) fun cell hcell =>
          ⟨hkeeps cell line, hlooking cell line, ?_⟩
        cases hresult : ((lookup cell line).outcome context).1 with
        | error cause => exact .left _ trivial
        | ok value =>
            rw [hvalues cell value (addressable_of_mem_calls hwritten hcall hcell) hresult]
            exact .same _
      exact .builtin hwritten hcall (hagree.results.ok_of_ok hfill) hvalue hcause

end Formula

/-- A text without a value is a formula that is itself the cause, or refers to a cell without a
value. -/
theorem Lookup.causes_or_refers {lookup : Lookup} {text : Text} {line : Int} {context : Context}
    {fault : Fault} (hkeeps : ∀ cell line, (lookup cell line).Keeps context)
    (h : ((lookup.textValue text line).outcome context).1 = .error fault) :
    (∃ body, Formula.body? text = some body ∧
        Formula.Causes lookup context line body fault) ∨
      ∃ cell ∈ Formula.cellsIn line text,
        ((lookup cell line).outcome context).1 = .error fault := by
  unfold Formula.cellsIn
  unfold Lookup.textValue at h
  cases hbody : Formula.body? text with
  | none =>
      rw [hbody] at h
      cases h
  | some body =>
      rw [hbody] at h
      dsimp only at h ⊢
      rcases error_of_bind (keeps_ofExcept _ context) h with hunwritten | ⟨formula, hwritten, hrest⟩
      · exact .inl ⟨body, rfl, Formula.causes_of_ofText_error hunwritten⟩
      · have hformula : Formula.ofText line body = .ok formula := hwritten
        rw [hformula]
        rcases error_of_bind (formula.fill_keeps hkeeps) hrest with
          hfill | ⟨filled, hfilled, hvalue⟩
        · rcases Formula.causes_or_refers_of_fill_error hkeeps hformula hfill with hcauses | hrefers
          · exact .inl ⟨body, rfl, hcauses⟩
          · exact .inr hrefers
        · exact .inl ⟨body, rfl, Formula.causes_of_value_error hkeeps hformula hfilled hvalue⟩

namespace Sheet

variable {sheet : Sheet} {context : Context} {cell : Cell} {line : Int} {fault : Fault}

/-- The formula of a cell causes a fault. -/
def CausedAt (sheet : Sheet) (lookup : Lookup) (context : Context) (cell : Cell) (fault : Fault) :
    Prop :=
  ∃ text body, sheet.textAt? cell = some text ∧ Formula.body? text = some body ∧
    Formula.Causes lookup context (cell.row + 1) body fault

/-- The fault of a missing cell is not that of a formula. -/
theorem not_isOfFormula_missing (haddress : cell.Addressable) :
    ¬ (sheet.missing cell).IsOfFormula := by
  obtain ⟨row, column, rfl, hpos⟩ := haddress.exists_natCast
  unfold missing
  cases hline : sheet.lines[row]? with
  | some content =>
      rw [staticRecord_of_line hline]
      exact not_or.mpr ⟨id, nofun⟩
  | none =>
      rw [staticRecord_of_beyond hpos hline]
      exact not_or.mpr ⟨id, nofun⟩

/-- A reference fails with the fault of a formula only where a cell is evaluated that fails with
it. -/
theorem exists_text_of_lookup_error {evaluate : Cell → Text → Evaluation Text}
    (haddress : cell.Addressable) (hown : fault.IsOfFormula)
    (h : ((sheet.lookup evaluate cell line).outcome context).1 = .error fault) :
    ∃ text, context.snapshots.get? cell.row = none ∧ sheet.textAt? cell = some text ∧
      ((evaluate cell text).outcome context).1 = .error fault := by
  cases hsnapshot : context.snapshots.get? cell.row with
  | some record =>
      rw [outcome_lookup_of_snapshot hsnapshot] at h
      obtain ⟨row, column, rfl, -⟩ := haddress.exists_natCast
      rw [Record.fieldAt_natCast] at h
      split at h
      · cases h
      · obtain rfl := Except.error.inj h
        exact absurd hown (not_or.mpr ⟨id, nofun⟩)
  | none =>
      cases htext : sheet.textAt? cell with
      | none =>
          rw [outcome_lookup_of_missing hsnapshot haddress htext] at h
          obtain rfl := Except.error.inj h
          exact absurd hown (not_isOfFormula_missing haddress)
      | some text =>
          rw [outcome_lookup_of_text hsnapshot htext] at h
          exact ⟨text, rfl, rfl, h⟩

/-- The fault of a formula that ends the evaluation of a cell comes from a formula that references
lead to. It is evaluated with a smaller budget. -/
theorem exists_caused_of_unguarded {budget : Nat} {text : Text}
    (htext : sheet.textAt? cell = some text) (hown : fault.IsOfFormula)
    (h : ((sheet.unguarded budget cell text).outcome context).1 = .error fault) :
    ∃ smaller < budget, ∃ source, ReflTransGen (sheet.Follows context.snapshots) cell source ∧
      sheet.CausedAt (sheet.lookup (sheet.unguarded smaller)) context source fault := by
  induction budget generalizing cell text with
  | zero =>
      obtain rfl := Except.error.inj h
      exact absurd hown (not_or.mpr ⟨id, nofun⟩)
  | succ budget ih =>
      rw [unguarded_succ] at h
      have hkeeps : ∀ other number,
          (sheet.lookup (sheet.unguarded budget) other number).Keeps context :=
        lookup_keeps fun other content => unguarded_keeps budget other content
      rcases Lookup.causes_or_refers hkeeps h with ⟨body, hbody, hcauses⟩ | ⟨other, hmem, hfault⟩
      · exact ⟨budget, Nat.lt_succ_self budget, cell, .refl, text, body, htext, hbody, hcauses⟩
      · obtain ⟨content, hsnapshot, hcontent, hevaluated⟩ :=
          exists_text_of_lookup_error (Formula.addressable_of_mem_cellsIn hmem) hown hfault
        obtain ⟨smaller, hsmaller, source, hchain, hcaused⟩ := ih hcontent hevaluated
        have hfollows : sheet.Follows context.snapshots cell other :=
          ⟨⟨text, htext, hmem⟩, hsnapshot⟩
        exact ⟨smaller, Nat.lt_succ_of_lt hsmaller, source, .head hfollows hchain, hcaused⟩

/-- The fault is caused by the formula in a text that is given, or by that in a cell. -/
def CausedIn (sheet : Sheet) (given : Option Text) (fault : Fault) : Prop :=
  ∃ text body lookup context line, (given = some text ∨ ∃ cell, sheet.textAt? cell = some text) ∧
    Formula.body? text = some body ∧ Formula.Causes lookup context line body fault

/-- A fault that is caused in a cell is caused in the sheet. -/
theorem CausedAt.causedIn {lookup : Lookup} (h : sheet.CausedAt lookup context cell fault)
    (given : Option Text) : sheet.CausedIn given fault := by
  obtain ⟨text, body, htext, hbody, hcauses⟩ := h
  exact ⟨text, body, lookup, context, _, .inr ⟨cell, htext⟩, hbody, hcauses⟩

/-- The fault of a formula that ends the evaluation of a text comes from this formula, or from that
of a cell, if the faults of cells do. -/
theorem causedIn_of_textValue {evaluate : Cell → Text → Evaluation Text} {text : Text}
    (hkeeps : ∀ other content, (evaluate other content).Keeps context) (hown : fault.IsOfFormula)
    (hcells : ∀ other content, sheet.textAt? other = some content →
      ((evaluate other content).outcome context).1 = .error fault →
      ∃ lookup source, sheet.CausedAt lookup context source fault)
    (h : (((sheet.lookup evaluate).textValue text line).outcome context).1 = .error fault) :
    sheet.CausedIn (some text) fault := by
  rcases Lookup.causes_or_refers (lookup_keeps hkeeps) h with ⟨body, hbody, hcauses⟩ |
    ⟨other, hmem, hlookup⟩
  · exact ⟨text, body, _, context, line, .inl rfl, hbody, hcauses⟩
  · obtain ⟨content, -, hcontent, hevaluated⟩ :=
      exists_text_of_lookup_error (Formula.addressable_of_mem_cellsIn hmem) hown hlookup
    obtain ⟨lookup, source, hcaused⟩ := hcells other content hcontent hevaluated
    exact hcaused.causedIn (some text)

/-- The fault of a formula that ends the evaluation of a cell within a budget is caused in the text
or in a cell. -/
theorem causedIn_of_unguarded {budget : Nat} {text : Text} (hown : fault.IsOfFormula)
    (h : ((sheet.unguarded budget cell text).outcome context).1 = .error fault) :
    sheet.CausedIn (some text) fault := by
  -- The text need not be that of the cell, so only the cells that it refers to are known.
  cases budget with
  | zero =>
      obtain rfl := Except.error.inj h
      exact absurd hown (not_or.mpr ⟨id, nofun⟩)
  | succ budget =>
      rw [unguarded_succ] at h
      refine causedIn_of_textValue (fun other content => unguarded_keeps budget other content) hown
        (fun other content hcontent hfault => ?_) h
      obtain ⟨smaller, -, source, -, hcaused⟩ := exists_caused_of_unguarded hcontent hown hfault
      exact ⟨_, source, hcaused⟩

end Sheet

namespace Evaluator

variable {evaluator : Evaluator} {context : Context} {fault : Fault} {text : Text}

/-- The fault of a formula that ends the evaluation of a cell is caused in the text or in a cell. -/
theorem causedIn_of_cellValue {cell : Cell} (hown : fault.IsOfFormula)
    (h : ((evaluator.cellValue cell text).outcome context).1 = .error fault) :
    evaluator.sheet.CausedIn (some text) fault :=
  Sheet.causedIn_of_unguarded hown
    (Sheet.unguarded_error_of_cellValue hown.isPlain.not_isCircular h)

/-- The fault of a formula that ends the evaluation of a cell of the sheet is caused in a cell. -/
theorem exists_caused_of_cellValue {cell : Cell} (htext : evaluator.sheet.textAt? cell = some text)
    (hown : fault.IsOfFormula)
    (h : ((evaluator.cellValue cell text).outcome context).1 = .error fault) :
    ∃ lookup source, evaluator.sheet.CausedAt lookup context source fault := by
  obtain ⟨smaller, -, source, -, hcaused⟩ := Sheet.exists_caused_of_unguarded htext hown
    (Sheet.unguarded_error_of_cellValue hown.isPlain.not_isCircular h)
  exact ⟨_, source, hcaused⟩

/-- The fault of a formula that ends the evaluation of a text is caused in the text or in a cell. -/
theorem causedIn_of_textValue {line : Int} (hown : fault.IsOfFormula)
    (h : ((evaluator.textValue text line).outcome context).1 = .error fault) :
    evaluator.sheet.CausedIn (some text) fault :=
  Sheet.causedIn_of_textValue
    (fun cell content => Sheet.cellValue_keeps evaluator cell content context) hown
    (fun _ _ hcontent => exists_caused_of_cellValue hcontent hown) h

end Evaluator

end SheetCalc
