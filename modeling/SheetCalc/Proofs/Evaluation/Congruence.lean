import SheetCalc.Proofs.Sheet.Cells

/-!
# Evaluations compared result by result

The value of a text is put together from the values of the cells that its formula refers
to. A relation between results that survives this putting together is a `Congruence`. The
main theorem, `RelatedAt.textValue`, carries any congruence from the evaluation of cells to
that of texts, so that no later proof goes through the tree of a formula again. Two
families are used: `Agree`, equality up to excused faults, and `RaisesOnly`, a bound on the
faults.
-/

namespace SheetCalc

open Evaluation

/-- A relation between results which holds of equal results and equal plain faults, and of two
sequences when it holds of their parts. -/
structure Congruence (Related : {α : Type} → Except Fault α → Except Fault α → Prop) : Prop where
  ok {α : Type} (result : α) : Related (.ok result) (.ok result)
  plain {α : Type} {fault : Fault} : fault.IsPlain → Related (α := α) (.error fault) (.error fault)
  bind {α β : Type} {first other : Except Fault α} {next following : α → Except Fault β} :
    Related first other → (∀ result, Related (next result) (following result)) →
      Related (first >>= next) (other >>= following)

/-- The evaluation leaves the context in which it starts as it is. -/
def Evaluation.Keeps {α : Type} (evaluation : Evaluation α) (context : Context) : Prop :=
  (evaluation.outcome context).2 = context

/-- A result that needs no context keeps it. -/
theorem Evaluation.keeps_ofExcept {α : Type} (result : Except Fault α) (context : Context) :
    Keeps (ofExcept result) context :=
  rfl

/-- Two evaluations keep their contexts and have related results. -/
structure RelatedAt (Related : {α : Type} → Except Fault α → Except Fault α → Prop)
    (context other : Context) {α : Type} (left right : Evaluation α) : Prop where
  left_keeps : left.Keeps context
  right_keeps : right.Keeps other
  results : Related (left.outcome context).1 (right.outcome other).1

/-- The outcome of two evaluations in a row, when the first one keeps its context. -/
theorem Evaluation.outcome_bind_of_keeps {α β : Type} {first : Evaluation α} {context : Context}
    (h : first.Keeps context) (next : α → Evaluation β) :
    (first >>= next).outcome context =
      match (first.outcome context).1 with
      | .ok result => (next result).outcome context
      | .error fault => (.error fault, context) := by
  rw [outcome_bind]
  cases hfirst : first.outcome context with
  | mk result after =>
      obtain rfl : after = context := by simpa [Keeps, hfirst] using h
      cases result <;> rfl

namespace RelatedAt

variable {Related : {α : Type} → Except Fault α → Except Fault α → Prop}
  {context other : Context} {α β : Type}

/-- Evaluations in a row, each kept in its own context. -/
theorem bind (hrelated : Congruence Related) {left right : Evaluation α}
    {next following : α → Evaluation β} (hfirst : RelatedAt Related context other left right)
    (hnext : ∀ result, RelatedAt Related context other (next result) (following result)) :
    RelatedAt Related context other (left >>= next) (right >>= following) := by
  have hleft := outcome_bind_of_keeps hfirst.left_keeps next
  have hright := outcome_bind_of_keeps hfirst.right_keeps following
  refine ⟨?_, ?_, ?_⟩
  · show ((left >>= next).outcome context).2 = context
    rw [hleft]
    cases (left.outcome context).1 with
    | ok result => exact (hnext result).left_keeps
    | error fault => rfl
  · show ((right >>= following).outcome other).2 = other
    rw [hright]
    cases (right.outcome other).1 with
    | ok result => exact (hnext result).right_keeps
    | error fault => rfl
  · have h := hrelated.bind hfirst.results fun result => (hnext result).results
    rw [hleft, hright]
    revert h
    cases (left.outcome context).1 <;> cases (right.outcome other).1 <;> exact id

variable (hrelated : Congruence Related)
include hrelated

/-- A result of its own. -/
theorem of_ok (result : α) :
    RelatedAt Related context other (pure result : Evaluation α) (pure result) :=
  ⟨rfl, rfl, hrelated.ok result⟩

/-- A plain fault. -/
theorem of_plain {fault : Fault} (h : fault.IsPlain) :
    RelatedAt Related context other (throw fault : Evaluation α) (throw fault) :=
  ⟨rfl, rfl, hrelated.plain h⟩

variable {f g : α → Evaluation β}

mutual

/-- Trees whose leaves are replaced by related actions. -/
theorem traverse : (expr : Expr α) →
    (∀ leaf ∈ expr.leaves, RelatedAt Related context other (f leaf) (g leaf)) →
    RelatedAt Related context other (expr.traverse f) (expr.traverse g)
  | .leaf content, h =>
    (h content List.mem_cons_self).bind hrelated fun _ => of_ok hrelated _
  | .array elements, h => (traverseAll elements h).bind hrelated fun _ => of_ok hrelated _
  | .call _ arguments _, h => (traverseAll arguments h).bind hrelated fun _ => of_ok hrelated _

/-- Rows of trees whose leaves are replaced by related actions. -/
theorem traverseAll : (exprs : List (Expr α)) →
    (∀ leaf ∈ Expr.leavesOf exprs, RelatedAt Related context other (f leaf) (g leaf)) →
    RelatedAt Related context other (Expr.traverseAll f exprs) (Expr.traverseAll g exprs)
  | [], _ => of_ok hrelated []
  | expr :: exprs, h =>
    (traverse expr fun leaf hleaf => h leaf (List.mem_append_left _ hleaf)).bind hrelated fun _ =>
      (traverseAll exprs fun leaf hleaf => h leaf (List.mem_append_right _ hleaf)).bind hrelated
        fun _ => of_ok hrelated _

end

end RelatedAt

/-- Every fault of a result is plain. -/
def PlainResult {α : Type} (result : Except Fault α) : Prop :=
  ∀ fault, result = .error fault → fault.IsPlain

/-- Two results in a row have plain faults when each of them has. -/
theorem PlainResult.bind {α β : Type} {first : Except Fault α} {next : α → Except Fault β}
    (hfirst : PlainResult first) (hnext : ∀ result, PlainResult (next result)) :
    PlainResult (first >>= next) := by
  cases first with
  | ok result => exact hnext result
  | error fault =>
      intro other h
      obtain rfl : fault = other := Except.error.inj h
      exact hfirst fault rfl

/-- A text that writes no formula is blamed itself. -/
theorem Formula.ofText_plain (line : Int) (text : Text) : PlainResult (ofText line text) := by
  intro fault h
  unfold ofText at h
  split at h
  · cases h
    trivial
  · next tokens _ =>
    cases hparsed : ofTokens line tokens with
    | ok formula => simp [hparsed] at h
    | error failure =>
        obtain rfl : failure.fault line = fault := by
          simpa [hparsed] using h
        cases failure <;> trivial

namespace Expr

/-- A call that has no result is blamed itself. -/
theorem apply_plain (name : Text) (values : List Value) (line : Int) :
    PlainResult (apply name values line) := by
  intro fault h
  unfold apply at h
  split at h
  · cases h
  · cases h
    trivial
  · cases h
    trivial

mutual

/-- A tree of literals fails at one of its calls. -/
theorem value_plain : (expr : Expr Literal) → PlainResult expr.value
  | .leaf _ => by
    intro fault h
    cases h
  | .array elements => (values_plain elements).bind fun _ => by
    intro fault h
    cases h
  | .call name arguments line => (values_plain arguments).bind fun values =>
    (apply_plain name values line).bind fun _ => by
      intro fault h
      cases h

/-- Trees of literals fail at one of their calls. -/
theorem values_plain : (exprs : List (Expr Literal)) → PlainResult (values exprs)
  | [] => by
    intro fault h
    cases h
  | expr :: exprs => (value_plain expr).bind fun _ => (values_plain exprs).bind fun _ => by
    intro fault h
    cases h

end

end Expr

/-- A formula of literals fails at one of its calls. -/
theorem Formula.value_plain (formula : Formula Literal) : PlainResult formula.value :=
  (Expr.values_plain formula.arguments).bind fun values =>
    Expr.apply_plain formula.name values formula.line

namespace RelatedAt

variable {Related : {α : Type} → Except Fault α → Except Fault α → Prop}
  (hrelated : Congruence Related) {context other : Context} {lookup looking : Lookup}
include hrelated

/-- A result whose faults are plain is related to itself. -/
theorem ofExcept_self {α : Type} {result : Except Fault α} (h : PlainResult result) :
    RelatedAt Related context other (.ofExcept result : Evaluation α) (.ofExcept result) := by
  cases result with
  | ok result => exact of_ok hrelated result
  | error fault => exact of_plain hrelated (h fault rfl)

/-- Leaves that are filled by related values. -/
theorem leafFill {line : Int} (leaf : Leaf)
    (h : ∀ cell, leaf.cell? = some cell →
      RelatedAt Related context other (lookup cell line) (looking cell line)) :
    RelatedAt Related context other (leaf.fill lookup line) (leaf.fill looking line) := by
  cases leaf with
  | literal content => exact of_ok hrelated content
  | reference target =>
      simp only [Leaf.fill, Leaf.cell?] at h ⊢
      cases hcolumn : Column.index target.column with
      | error cause =>
          have hplain : Fault.IsPlain
              (.evaluation (.invalidColumn target.column target.text) line) := trivial
          exact of_plain hrelated hplain
      | ok column =>
          rw [hcolumn] at h
          exact (h _ rfl).bind hrelated fun _ => of_ok hrelated _

/-- Formulas whose references have related values. -/
theorem fill {formula : Formula Leaf} {line : Int}
    (h : ∀ cell ∈ formula.cells,
      RelatedAt Related context other (lookup cell line) (looking cell line)) :
    RelatedAt Related context other (formula.fill lookup line) (formula.fill looking line) :=
  (traverseAll hrelated formula.arguments fun leaf hleaf =>
    leafFill hrelated leaf fun cell hcell =>
      h cell (List.mem_filterMap.mpr ⟨leaf, hleaf, hcell⟩)).bind hrelated
    fun _ => of_ok hrelated _

/-- Texts whose references have related values. -/
theorem textValue {text : Text} {line : Int}
    (h : ∀ cell ∈ Formula.cellsIn line text,
      RelatedAt Related context other (lookup cell line) (looking cell line)) :
    RelatedAt Related context other (lookup.textValue text line) (looking.textValue text line) := by
  unfold Lookup.textValue
  unfold Formula.cellsIn at h
  cases hbody : Formula.body? text with
  | none => exact of_ok hrelated text
  | some body =>
      rw [hbody] at h
      dsimp only at h ⊢
      cases hformula : Formula.ofText line body with
      | error fault => exact of_plain hrelated (Formula.ofText_plain line body fault hformula)
      | ok formula =>
          rw [hformula] at h
          have hfill : RelatedAt Related context other (formula.fill lookup line)
              (formula.fill looking line) := fill hrelated h
          exact hfill.bind hrelated fun filled => ofExcept_self hrelated filled.value_plain

end RelatedAt

/-- The field of an addressable cell in a record is there, or is missed with a plain fault. -/
theorem Record.fieldAt_plain {cell : Cell} (h : cell.Addressable) (record : Record) (line : Int) :
    PlainResult (record.fieldAt cell line) := by
  intro fault hfault
  obtain ⟨row, column, rfl, -⟩ := h.exists_natCast
  rw [Record.fieldAt_natCast] at hfault
  split at hfault
  · cases hfault
  · cases hfault
    trivial

namespace RelatedAt

variable {Related : {α : Type} → Except Fault α → Except Fault α → Prop}
  {context other : Context} {sheet : Sheet} {evaluate evaluating : Cell → Text → Evaluation Text}

/-- Evaluations with the outcomes of related ones. -/
theorem of_outcome_eq {α : Type} {left left' right right' : Evaluation α}
    (h : RelatedAt Related context other left' right')
    (hleft : left.outcome context = left'.outcome context)
    (hright : right.outcome other = right'.outcome other) :
    RelatedAt Related context other left right := by
  refine ⟨?_, ?_, ?_⟩
  · show (left.outcome context).2 = context
    rw [hleft]
    exact h.left_keeps
  · show (right.outcome other).2 = other
    rw [hright]
    exact h.right_keeps
  · rw [hleft, hright]
    exact h.results

variable (hrelated : Congruence Related)
include hrelated

/-- References into two sheets, of which the second one has the cells of the first, to a row with
the same snapshot on both sides. Its cells are only evaluated when there is none. -/
theorem lookup_between {larger : Sheet} {cell : Cell} {line : Int} (haddress : cell.Addressable)
    (hsnapshots : other.snapshots.get? cell.row = context.snapshots.get? cell.row)
    (hcells : ∀ text, sheet.textAt? cell = some text → larger.textAt? cell = some text)
    (h : ∀ text, sheet.textAt? cell = some text → context.snapshots.get? cell.row = none →
      RelatedAt Related context other (evaluate cell text) (evaluating cell text))
    (hmissing : sheet.textAt? cell = none → other.snapshots.get? cell.row = none →
      RelatedAt Related context other (throw (sheet.missing cell) : Evaluation Text)
        (larger.lookup evaluating cell line)) :
    RelatedAt Related context other (sheet.lookup evaluate cell line)
      (larger.lookup evaluating cell line) := by
  cases hsnapshot : context.snapshots.get? cell.row with
  | some record =>
      refine of_outcome_eq (ofExcept_self hrelated (record.fieldAt_plain haddress line)) ?_ ?_
      · exact Sheet.outcome_lookup_of_snapshot hsnapshot
      · exact Sheet.outcome_lookup_of_snapshot (hsnapshots.trans hsnapshot)
  | none =>
      have hother : other.snapshots.get? cell.row = none := hsnapshots.trans hsnapshot
      cases htext : sheet.textAt? cell with
      | some text =>
          exact of_outcome_eq (h text htext hsnapshot)
            (Sheet.outcome_lookup_of_text hsnapshot htext)
            (Sheet.outcome_lookup_of_text hother (hcells text htext))
      | none =>
          exact of_outcome_eq (hmissing htext hother)
            (Sheet.outcome_lookup_of_missing hsnapshot haddress htext) rfl

/-- References to a row with the same snapshot on both sides. Its cells are only evaluated when
there is none. -/
theorem lookup {cell : Cell} {line : Int} (haddress : cell.Addressable)
    (hsnapshots : other.snapshots.get? cell.row = context.snapshots.get? cell.row)
    (h : ∀ text, sheet.textAt? cell = some text → context.snapshots.get? cell.row = none →
      RelatedAt Related context other (evaluate cell text) (evaluating cell text)) :
    RelatedAt Related context other (sheet.lookup evaluate cell line)
      (sheet.lookup evaluating cell line) :=
  lookup_between hrelated haddress hsnapshots (fun _ => id) h fun htext hother =>
    of_outcome_eq (of_plain hrelated (Sheet.missing_isPlain haddress)) rfl
      (Sheet.outcome_lookup_of_missing hother haddress htext)

/-- Texts in contexts with the same snapshots, evaluated in a sheet. -/
theorem sheetText (hsnapshots : other.snapshots = context.snapshots) {text : Text} {line : Int}
    (h : ∀ cell ∈ Formula.cellsIn line text, ∀ content, sheet.textAt? cell = some content →
      context.snapshots.get? cell.row = none →
      RelatedAt Related context other (evaluate cell content) (evaluating cell content)) :
    RelatedAt Related context other
      (Lookup.textValue (sheet.lookup evaluate) text line)
      (Lookup.textValue (sheet.lookup evaluating) text line) :=
  textValue hrelated fun cell hcell =>
    lookup hrelated (Formula.addressable_of_mem_cellsIn hcell) (hsnapshots ▸ rfl) (h cell hcell)

end RelatedAt

/-- No fault. -/
def Fault.Never (_ : Fault) : Prop :=
  False

/-- The evaluation ran out of its budget. -/
def Fault.IsEndless (fault : Fault) : Prop :=
  fault = .endless

/-- The results are equal, or one of them is a fault that is excused on its side. -/
inductive Agree (left right : Fault → Prop) {α : Type} : Except Fault α → Except Fault α → Prop
  | same (result : Except Fault α) : Agree left right result result
  | left {fault : Fault} (result : Except Fault α) : left fault →
      Agree left right (.error fault) result
  | right {fault : Fault} (result : Except Fault α) : right fault →
      Agree left right result (.error fault)

/-- Results that agree are equal when nothing excuses them. -/
theorem Agree.eq {left right : Fault → Prop} {α : Type} {first second : Except Fault α}
    (h : Agree left right first second) (hfirst : ∀ fault, first = .error fault → ¬ left fault)
    (hsecond : ∀ fault, second = .error fault → ¬ right fault) : first = second := by
  cases h with
  | same => rfl
  | left _ hleft => exact absurd hleft (hfirst _ rfl)
  | right _ hright => exact absurd hright (hsecond _ rfl)

/-- A result that agrees with a value is the value, when no fault of its own is excused. -/
theorem Agree.ok_of_ok {left : Fault → Prop} {α : Type} {first second : Except Fault α} {result : α}
    (h : Agree left Fault.Never first second) (hfirst : first = .ok result) :
    second = .ok result := by
  refine (h.eq ?_ fun _ _ => id).symm.trans hfirst
  intro fault hfault
  cases hfirst.symm.trans hfault

/-- Evaluations that agree with no excuse have equal outcomes. -/
theorem RelatedAt.outcome_eq {context : Context} {α : Type} {left right : Evaluation α}
    (h : RelatedAt (Agree Fault.Never Fault.Never) context context left right) :
    left.outcome context = right.outcome context :=
  Prod.ext (h.results.eq (fun _ _ => id) fun _ _ => id) (h.left_keeps.trans h.right_keeps.symm)

/-- Agreement goes from the parts of a sequence to the whole. -/
theorem congruence_agree (left right : Fault → Prop) : Congruence (Agree left right) where
  ok result := .same _
  plain _ := .same _
  bind {_ _ first _ _ _} hfirst hnext := by
    cases hfirst with
    | same =>
        cases first with
        | ok result => exact hnext result
        | error fault => exact .same _
    | left result h => exact .left _ h
    | right result h => exact .right _ h

/-- The result is no fault but an allowed one. -/
def RaisesOnly (allowed : Fault → Prop) {α : Type} (result _ : Except Fault α) : Prop :=
  ∀ fault, result = .error fault → allowed fault

/-- A bound on the faults goes from the parts of a sequence to the whole. -/
theorem congruence_raisesOnly {allowed : Fault → Prop}
    (hplain : ∀ fault, fault.IsPlain → allowed fault) : Congruence (RaisesOnly allowed) where
  ok result := by
    intro fault h
    cases h
  plain hfault := by
    intro fault h
    cases h
    exact hplain _ hfault
  bind {_ _ first other next following} hfirst hnext := by
    cases first with
    | ok result => exact hnext result
    | error cause =>
        intro fault h
        obtain rfl : cause = fault := Except.error.inj h
        exact hfirst cause rfl

end SheetCalc
