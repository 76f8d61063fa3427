import SheetCalc.Proofs.Evaluation.Congruence

/-!
# Evaluation with and without cycle detection

`Sheet.guarded` evaluates cells with cycles detected and `Sheet.unguarded` without. The
lemmas compare the two at any budgets and any trail: `guarded_agree` says that the guard
changes a result only into a cycle, and `guarded_agree_of_unfinished` that a cycle is only
reported where the unguarded evaluation runs out of every budget.
-/

namespace SheetCalc

open Evaluation

/-- The context with a cell at the end of its trail. -/
def Context.push (context : Context) (cell : Cell) : Context :=
  { context with trail := context.trail.push cell }

@[simp]
theorem Context.snapshots_push (context : Context) (cell : Cell) :
    (context.push cell).snapshots = context.snapshots :=
  rfl

@[simp]
theorem Context.trail_push (context : Context) (cell : Cell) :
    (context.push cell).trail = context.trail ++ [cell] :=
  rfl

/-- A cell on the trail is reported instead of being evaluated, with its cycle. -/
def Fault.IsCircular : Fault → Prop
  | .cycle .. | .column _ => True
  | .lexical .. | .grammar .. | .evaluation .. | .conversion _ => False
  | .outOfRange _ | .access _ | .endless => False

/-- A plain fault reports no cycle. -/
theorem Fault.IsPlain.not_isCircular {fault : Fault} (h : fault.IsPlain) : ¬ fault.IsCircular := by
  intro hcircular
  cases fault <;> first | exact h | exact hcircular

/-- The fault of a cell that needs itself is a cycle, or a column of it without a name. -/
theorem Trail.cycle_isCircular (trail : Trail) (cell : Cell) (line : Int) :
    (trail.cycle cell line).IsCircular := by
  unfold cycle
  cases trail.names cell <;> trivial

/-- A body that keeps its context is run in the pushed context, and leaves the given one. -/
theorem Evaluation.outcome_onTrail_of_keeps {α : Type} {cell : Cell} {context : Context}
    {body : Evaluation α} (line : Int) (h : cell ∉ context.trail)
    (hkeeps : body.Keeps (context.push cell)) :
    (onTrail cell line body).outcome context = ((body.outcome (context.push cell)).1, context) := by
  cases hbody : body.outcome (context.push cell) with
  | mk result after =>
      obtain rfl : after = context.push cell := by simpa [Keeps, hbody] using hkeeps
      have hpush : body.outcome { context with trail := context.trail.push cell } =
        (result, context.push cell) := hbody
      rw [outcome_onTrail_of_not_mem line body h, hpush]
      simp

namespace RelatedAt

variable {Related : {α : Type} → Except Fault α → Except Fault α → Prop}
  {context other : Context} {α : Type} {left right : Evaluation α} {cell : Cell} {line : Int}

/-- On the left, a cell is entered, or reported when it is on the trail. -/
theorem onTrail_left
    (hmem : cell ∈ context.trail →
      RelatedAt Related context other (throw (context.trail.cycle cell line)) right)
    (hnew : cell ∉ context.trail → RelatedAt Related (context.push cell) other left right) :
    RelatedAt Related context other (onTrail cell line left) right := by
  by_cases h : cell ∈ context.trail
  · exact (hmem h).of_outcome_eq (outcome_onTrail_of_mem line left h) rfl
  · have hbody := hnew h
    have hleft := outcome_onTrail_of_keeps line h hbody.left_keeps
    refine ⟨?_, hbody.right_keeps, ?_⟩
    · show ((onTrail cell line left).outcome context).2 = context
      rw [hleft]
    · rw [hleft]
      exact hbody.results

/-- On the right, a cell is entered, or reported when it is on the trail. -/
theorem onTrail_right
    (hmem : cell ∈ other.trail →
      RelatedAt Related context other left (throw (other.trail.cycle cell line)))
    (hnew : cell ∉ other.trail → RelatedAt Related context (other.push cell) left right) :
    RelatedAt Related context other left (onTrail cell line right) := by
  by_cases h : cell ∈ other.trail
  · exact (hmem h).of_outcome_eq rfl (outcome_onTrail_of_mem line right h)
  · have hbody := hnew h
    have hright := outcome_onTrail_of_keeps line h hbody.right_keeps
    refine ⟨hbody.left_keeps, ?_, ?_⟩
    · show ((onTrail cell line right).outcome other).2 = other
      rw [hright]
    · rw [hright]
      exact hbody.results

end RelatedAt

namespace Sheet

/-- The value of a text in a cell, with cycles detected. -/
def guarded (sheet : Sheet) : (budget : Nat) → Cell → Text → Evaluation Text :=
  sheet.valueWithin fun cell body => .onTrail cell (cell.row + 1) body

/-- The value of a text in a cell, with no thought of cycles. -/
def unguarded (sheet : Sheet) : (budget : Nat) → Cell → Text → Evaluation Text :=
  sheet.valueWithin fun _ body => body

variable (sheet : Sheet)

theorem guarded_zero (cell : Cell) (text : Text) :
    sheet.guarded 0 cell text = .onTrail cell (cell.row + 1) (throw .endless) :=
  rfl

theorem guarded_succ (budget : Nat) (cell : Cell) (text : Text) :
    sheet.guarded (budget + 1) cell text =
      .onTrail cell (cell.row + 1)
        (Lookup.textValue (sheet.lookup (sheet.guarded budget)) text (cell.row + 1)) :=
  rfl

theorem unguarded_zero (cell : Cell) (text : Text) :
    sheet.unguarded 0 cell text = throw .endless :=
  rfl

theorem unguarded_succ (budget : Nat) (cell : Cell) (text : Text) :
    sheet.unguarded (budget + 1) cell text =
      Lookup.textValue (sheet.lookup (sheet.unguarded budget)) text (cell.row + 1) :=
  rfl

variable {sheet} {context other : Context}

/-- The unguarded evaluation keeps its context. -/
theorem unguarded_keeps (budget : Nat) (cell : Cell) (text : Text) :
    (sheet.unguarded budget cell text).Keeps context := by
  induction budget generalizing cell text with
  | zero => rfl
  | succ budget ih =>
      have hself : RelatedAt (Agree Fault.Never Fault.Never) context context
          (sheet.unguarded (budget + 1) cell text) (sheet.unguarded (budget + 1) cell text) :=
        .sheetText (congruence_agree _ _) rfl fun next _ content _ _ =>
          ⟨ih next content, ih next content, .same _⟩
      exact hself.left_keeps

/-- A larger budget changes a result only where the smaller one runs out. -/
theorem unguarded_agree {small large : Nat} (hle : small ≤ large) (cell : Cell) (text : Text) :
    RelatedAt (Agree Fault.IsEndless Fault.Never) context context
      (sheet.unguarded small cell text) (sheet.unguarded large cell text) := by
  induction small generalizing large cell text with
  | zero => exact ⟨rfl, unguarded_keeps large cell text, .left _ rfl⟩
  | succ small ih =>
      cases large with
      | zero => exact absurd hle (Nat.not_succ_le_zero small)
      | succ large =>
          rw [unguarded_succ, unguarded_succ]
          exact .sheetText (congruence_agree _ _) rfl fun next _ content _ _ =>
            ih (Nat.le_of_succ_le_succ hle) next content

/-- A result that some budget suffices for is the result at every larger one. -/
theorem unguarded_eq_of_le {small large : Nat} (hle : small ≤ large) {cell : Cell} {text : Text}
    (h : ((sheet.unguarded small cell text).outcome context).1 ≠ .error .endless) :
    ((sheet.unguarded large cell text).outcome context).1 =
      ((sheet.unguarded small cell text).outcome context).1 := by
  refine ((unguarded_agree hle cell text).results.eq ?_ ?_).symm
  · rintro fault hfault rfl
    exact h hfault
  · exact fun _ _ => id

/-- A cell that is unfinished within a budget is unfinished within every smaller one. -/
theorem unguarded_endless_of_le {small large : Nat} (hle : small ≤ large) {cell : Cell}
    {text : Text}
    (h : ((sheet.unguarded large cell text).outcome context).1 = .error .endless) :
    ((sheet.unguarded small cell text).outcome context).1 = .error .endless := by
  by_contra hsmall
  exact hsmall ((unguarded_eq_of_le hle hsmall).symm.trans h)

/-- The guard changes a result only into a cycle. -/
theorem guarded_agree (hsnapshots : other.snapshots = context.snapshots) (budget : Nat)
    (cell : Cell) (text : Text) :
    RelatedAt (Agree Fault.IsCircular Fault.Never) context other
      (sheet.guarded budget cell text) (sheet.unguarded budget cell text) := by
  induction budget generalizing context cell text with
  | zero =>
      rw [guarded_zero, unguarded_zero]
      refine .onTrail_left (fun _ => ?_) fun _ => ?_
      · exact ⟨rfl, rfl, .left _ (Trail.cycle_isCircular ..)⟩
      · exact ⟨rfl, rfl, .same (.error .endless)⟩
  | succ budget ih =>
      rw [guarded_succ]
      refine .onTrail_left (fun _ => ?_) fun _ => ?_
      · exact ⟨rfl, unguarded_keeps (budget + 1) cell text, .left _ (Trail.cycle_isCircular ..)⟩
      · have hpushed : other.snapshots = (context.push cell).snapshots := hsnapshots
        rw [unguarded_succ]
        exact .sheetText (congruence_agree _ _) hpushed fun next _ content _ _ =>
          ih hpushed next content

/-- The guarded evaluation keeps its context. -/
theorem guarded_keeps (budget : Nat) (cell : Cell) (text : Text) :
    (sheet.guarded budget cell text).Keeps context := by
  have hagree : RelatedAt (Agree Fault.IsCircular Fault.Never) context context
      (sheet.guarded budget cell text) (sheet.unguarded budget cell text) :=
    guarded_agree rfl budget cell text
  exact hagree.left_keeps

/-- An evaluator keeps its context. -/
theorem cellValue_keeps (evaluator : Evaluator) (cell : Cell) (text : Text) (context : Context) :
    (evaluator.cellValue cell text).Keeps context := by
  obtain ⟨sheet, detectCycles, budget⟩ := evaluator
  cases detectCycles with
  | true => exact guarded_keeps budget cell text
  | false => exact unguarded_keeps budget cell text

/-- With or without the guard, a value is the value of the unguarded evaluation. -/
theorem unguarded_ok_of_cellValue {detectCycles : Bool} {budget : Nat} {cell : Cell}
    {text value : Text}
    (h : (((Evaluator.mk sheet detectCycles budget).cellValue cell text).outcome context).1 =
      .ok value) :
    ((sheet.unguarded budget cell text).outcome context).1 = .ok value := by
  cases detectCycles with
  | false => exact h
  | true =>
      have hagree : RelatedAt (Agree Fault.IsCircular Fault.Never) context context
          (sheet.guarded budget cell text) (sheet.unguarded budget cell text) :=
        guarded_agree rfl budget cell text
      exact hagree.results.ok_of_ok h

/-- With or without the guard, a fault that is no cycle is the fault of the unguarded evaluation. -/
theorem unguarded_error_of_cellValue {detectCycles : Bool} {budget : Nat} {cell : Cell} {text : Text}
    {fault : Fault} (hcircular : ¬ fault.IsCircular)
    (h : (((Evaluator.mk sheet detectCycles budget).cellValue cell text).outcome context).1 =
      .error fault) :
    ((sheet.unguarded budget cell text).outcome context).1 = .error fault := by
  cases detectCycles with
  | false => exact h
  | true =>
      have hagree : RelatedAt (Agree Fault.IsCircular Fault.Never) context context
          (sheet.guarded budget cell text) (sheet.unguarded budget cell text) :=
        guarded_agree rfl budget cell text
      refine (hagree.results.eq ?_ fun _ _ => id).symm.trans h
      intro other hother
      rwa [Except.error.inj (hother.symm.trans h)]

/-- The guard reports a cycle only where the unguarded evaluation does not end. On the trail
stand cells that are unfinished within the budget `spent`. -/
theorem guarded_agree_of_unfinished (budget spent : Nat)
    (hsnapshots : other.snapshots = context.snapshots) {cell : Cell} {text : Text}
    (htext : sheet.textAt? cell = some text)
    (htrail : ∀ entered ∈ context.trail, ∀ content, sheet.textAt? entered = some content →
      ((sheet.unguarded spent entered content).outcome other).1 = .error .endless) :
    RelatedAt (Agree Fault.IsEndless Fault.IsEndless) context other
      (sheet.guarded budget cell text) (sheet.unguarded spent cell text) := by
  -- The outer induction is on the depth of the guarded evaluation, the inner one on `spent`. A
  -- cell joins the trail only if it is unfinished within `spent - 1`; otherwise the agreement
  -- there is enough.
  induction budget generalizing context cell text spent with
  | zero =>
      rw [guarded_zero]
      refine .onTrail_left (fun hmem => ?_) fun _ => ?_
      · exact ⟨rfl, unguarded_keeps spent cell text, htrail cell hmem text htext ▸ .right _ rfl⟩
      · exact ⟨rfl, unguarded_keeps spent cell text, .left _ rfl⟩
  | succ budget ihbudget =>
      induction spent with
      | zero => exact ⟨guarded_keeps (budget + 1) cell text, rfl, .right _ rfl⟩
      | succ spent ihspent =>
          have hsmaller : ∀ entered ∈ context.trail, ∀ content,
              sheet.textAt? entered = some content →
              ((sheet.unguarded spent entered content).outcome other).1 = .error .endless :=
            fun entered hmem content hcontent =>
              unguarded_endless_of_le (Nat.le_succ spent) (htrail entered hmem content hcontent)
          by_cases hfinished :
              ((sheet.unguarded spent cell text).outcome other).1 = .error .endless
          · rw [guarded_succ]
            refine .onTrail_left (fun hmem => ?_) fun _ => ?_
            · exact ⟨rfl, unguarded_keeps (spent + 1) cell text,
                htrail cell hmem text htext ▸ .right _ rfl⟩
            · have hpushed : other.snapshots = (context.push cell).snapshots := hsnapshots
              rw [unguarded_succ]
              refine .sheetText (congruence_agree _ _) hpushed fun next _ content hnext _ =>
                ihbudget spent hpushed hnext ?_
              intro entered hmem content hcontent
              rcases List.mem_append.mp hmem with hmem | hmem
              · exact hsmaller entered hmem content hcontent
              · obtain rfl := List.mem_singleton.mp hmem
                obtain rfl := Option.some.inj (htext.symm.trans hcontent)
                exact hfinished
          · have hagree := ihspent hsmaller
            have hequal := unguarded_eq_of_le (Nat.le_succ spent) hfinished
            refine ⟨hagree.left_keeps, unguarded_keeps (spent + 1) cell text, ?_⟩
            rw [hequal]
            exact hagree.results

end Sheet

end SheetCalc
