import SheetCalc.Proofs.Evaluation.Trail
import SheetCalc.Proofs.Pass.Frame
import SheetCalc.Proofs.Pass.Histories
import SheetCalc.Proofs.Sheet.Shapes

/-!
# Actions in one context

Edits, references, texts, lines and whole passes can follow one another in a context, also when some
of them fail. Main theorem: `after_in_range`. After any actions the snapshots have the shape of the
sheet, so a reference is out of range exactly where the sheet has no cell, and no action comes to an
index without an entry.
-/

namespace SheetCalc

open Evaluation

/-- What can be done with a sheet in a context, with rows and columns counted from zero. -/
inductive Action where
  /-- A cell is edited. -/
  | edit (edit : Edit)
  /-- A cell is looked up for a reference in a line. -/
  | lookup (row column : Nat) (line : Int)
  /-- A text in a line is evaluated. -/
  | text (text : Text) (line : Int)
  /-- A pass goes through one line, and may be left there. -/
  | line (row : Nat)
  /-- A pass goes through the whole sheet. -/
  | pass

/-- The fault that an evaluation ends with, if any, and the context that it leaves. -/
def Evaluation.ending {α : Type} (evaluation : Evaluation α) (context : Context) :
    Option Fault × Context :=
  match evaluation.outcome context with
  | (.ok _, after) => (none, after)
  | (.error fault, after) => (some fault, after)

/-- The fault that a pass ends with, if any, and the context that it leaves. -/
def Pass.ending (pass : Pass) : Option Fault × Context :=
  (pass.fault, pass.context)

namespace Evaluator

/-- The part of a pass that goes through one line; there is nothing to do in a row without one. -/
def passLine (evaluator : Evaluator) (row : Nat) (context : Context) : Pass :=
  evaluator.sheet.passFrom evaluator.cellValue row evaluator.sheet.lines[row]?.toList context

/-- The fault that an action ends with, if any, and the context that it leaves. -/
def act (evaluator : Evaluator) (context : Context) : Action → Option Fault × Context
  | .edit edit => (evaluator.sheet.edit edit.cell edit.value edit.line).ending context
  | .lookup row column line => (evaluator.lookup ⟨row, column⟩ line).ending context
  | .text text line => (evaluator.textValue text line).ending context
  | .line row => (evaluator.passLine row context).ending
  | .pass => (evaluator.pass context).ending

/-- The context after actions, of which each one starts in what the one before it has left, also
when it has failed. The first one starts in a fresh context. -/
def after (evaluator : Evaluator) (actions : List Action) : Context :=
  actions.foldl (fun context action => (evaluator.act context action).2) .fresh

end Evaluator

/-- An evaluation that keeps its context leaves it. -/
theorem Evaluation.Keeps.ending_snd {α : Type} {evaluation : Evaluation α} {context : Context}
    (h : evaluation.Keeps context) : (evaluation.ending context).2 = context := by
  unfold ending
  cases houtcome : evaluation.outcome context with
  | mk result after =>
      obtain rfl : after = context := by simpa [Keeps, houtcome] using h
      cases result <;> rfl

/-- The fault that an evaluation ends with is its outcome. -/
theorem Evaluation.error_of_ending {α : Type} {evaluation : Evaluation α} {context : Context}
    {fault : Fault} (h : (evaluation.ending context).1 = some fault) :
    (evaluation.outcome context).1 = .error fault := by
  unfold ending at h
  split at h
  · cases h
  · next hcause =>
    rw [hcause]
    exact congrArg Except.error (Option.some.inj h)

/-! ## Faults of indices -/

/-- The fault is not that of an index without an entry. -/
def Fault.InRange (fault : Fault) : Prop :=
  ∀ cause, fault ≠ .outOfRange cause

/-- A text that is blamed is no index. -/
theorem Fault.IsPlain.inRange {fault : Fault} (h : fault.IsPlain) : fault.InRange := by
  rintro cause rfl
  exact h

/-- A cycle is no index. -/
theorem Fault.IsCircular.inRange {fault : Fault} (h : fault.IsCircular) : fault.InRange := by
  rintro cause rfl
  exact h

namespace Sheet

variable {evaluator : Evaluator} {context : Context} {fault : Fault}

/-- The evaluation of a cell comes to no index without an entry. -/
theorem cellValue_inRange (evaluator : Evaluator) (context : Context) (cell : Cell) (text : Text) :
    RelatedAt (RaisesOnly Fault.InRange) context context (evaluator.cellValue cell text)
      (evaluator.cellValue cell text) := by
  refine ⟨cellValue_keeps _ _ _ _, cellValue_keeps _ _ _ _, ?_⟩
  intro fault hfault
  by_cases hcircular : fault.IsCircular
  · exact hcircular.inRange
  · have hunguarded := unguarded_error_of_cellValue hcircular hfault
    rcases (unguarded_raisesOnly _ context cell text).results fault hunguarded with
      hplain | hendless
    · exact hplain.inRange
    · rintro cause rfl
      cases hendless

/-- The evaluation of a text comes to no index without an entry. -/
theorem textValue_inRange (evaluator : Evaluator) (context : Context) (text : Text) (line : Int) :
    RelatedAt (RaisesOnly Fault.InRange) context context (evaluator.textValue text line)
      (evaluator.textValue text line) :=
  .sheetText (congruence_raisesOnly fun _ hplain => hplain.inRange) rfl fun cell _ content _ _ =>
    cellValue_inRange evaluator context cell content

/-- A field of a pass comes to no index without an entry. -/
theorem FailsAt.inRange {moment : Moment}
    (h : evaluator.sheet.FailsAt evaluator.cellValue moment fault) : fault.InRange := by
  obtain ⟨line, raw, -, -, hfault⟩ := h
  exact (cellValue_inRange evaluator _ _ _).results fault hfault

/-! ## What an action does -/

/-- An edit changes the snapshot of a line, or fails with an error and leaves the context. -/
theorem edit_cases {sheet : Sheet} (hlines : sheet.lines ≠ []) (edit : Edit) (context : Context) :
    let outcome := (sheet.edit edit.cell edit.value edit.line).outcome context
    (∃ line, sheet.lines[edit.row]? = some line ∧
      outcome = (.ok (), { context with
        snapshots := context.snapshots.set edit.row
          ((fields line).editedBy (context.snapshots.get? edit.row) edit.column edit.value) })) ∨
    ∃ cause number, outcome = (.error (.evaluation cause number), context) := by
  intro outcome
  cases hline : sheet.lines[edit.row]? with
  | none =>
      have hrecord := staticRecord_of_beyond (pos_of_beyond hlines hline) hline
      exact .inr ⟨.rowBeyond edit.row sheet.lastRow, edit.row + 1, by
        simp [outcome, Sheet.edit, Edit.cell, hrecord, outcome_bind]⟩
  | some line =>
      by_cases hcolumn : edit.column < (fields line).length
      · exact .inl ⟨line, rfl, outcome_edit hline hcolumn edit.value edit.line⟩
      · have hwidth : (fields line).length ≤ edit.column := Nat.not_lt.mp hcolumn
        exact .inr ⟨.editBeyond edit.row (fields line).length edit.column, edit.line, by
          simp [outcome, Sheet.edit, Edit.cell, staticRecord_of_line hline, outcome_bind, hwidth]⟩

/-- A pass, or a part of it, is a run of steps to the field where it fails, if it fails. -/
def IsPart (evaluator : Evaluator) (context : Context) (pass : Pass) : Prop :=
  ∃ start finish, start.context = context ∧
    evaluator.sheet.Reaches evaluator.cellValue start finish ∧ pass.context = finish.context ∧
    ∀ fault, pass.fault = some fault → evaluator.sheet.FailsAt evaluator.cellValue finish fault

/-- A whole pass is a run of steps. -/
theorem isPart_pass (evaluator : Evaluator) (context : Context) :
    IsPart evaluator context (evaluator.pass context) := by
  obtain ⟨finish, hrun⟩ := exists_isRun_pass evaluator context
  refine ⟨⟨0, 0, context⟩, finish, rfl, hrun.reaches, hrun.context_eq, ?_⟩
  intro fault hfault
  have hstops := hrun.stops
  rwa [hfault] at hstops

/-- A run of steps without a fault is part of a pass. -/
theorem isPart_of_reaches {start finish : Moment}
    (h : evaluator.sheet.Reaches evaluator.cellValue start finish) (rows : List (Nat × Record)) :
    IsPart evaluator start.context ⟨rows, none, finish.context⟩ := by
  refine ⟨start, finish, rfl, h, rfl, ?_⟩
  intro fault hfault
  cases hfault

/-- The part of a pass that goes through one line is a run of steps. -/
theorem isPart_passLine (evaluator : Evaluator) (row : Nat) (context : Context) :
    IsPart evaluator context (evaluator.passLine row context) := by
  let start : Moment := ⟨row, 0, context⟩
  unfold Evaluator.passLine
  cases hline : evaluator.sheet.lines[row]? with
  | none => exact @isPart_of_reaches evaluator start start .refl []
  | some line =>
      rw [Option.toList_some]
      unfold passFrom
      split
      · exact @isPart_of_reaches evaluator start start .refl []
      · next hnonempty =>
        have hspec := @evaluateLine_spec evaluator.sheet evaluator.cellValue start line
          (cellValue_keeps evaluator) hline rfl hnonempty
        dsimp only [start] at hspec
        generalize (evaluator.sheet.evaluateLine evaluator.cellValue row line).outcome context =
          outcome at hspec ⊢
        obtain ⟨result, after⟩ := outcome
        cases result with
        | ok record =>
            exact @isPart_of_reaches evaluator start ⟨row + 1, 0, after⟩ hspec.1 [(row, record)]
        | error cause =>
            obtain ⟨column, hreach, hfails⟩ := hspec
            refine ⟨start, ⟨row, column, after⟩, rfl, hreach, rfl, ?_⟩
            intro fault hfault
            rwa [← Option.some.inj hfault]

/-! ## The shape is kept -/

/-- A step of a pass keeps the shape. -/
theorem Step.fits {sheet : Sheet} {evaluate : Cell → Text → Evaluation Text} {moment next : Moment}
    (hstep : sheet.Step evaluate moment next) (h : sheet.Fits moment.context.snapshots) :
    sheet.Fits next.context.snapshots := by
  cases hstep with
  | @field line raw value hline hraw hvalue =>
      by_cases hsame : value = raw
      · obtain rfl := hsame
        rwa [Context.afterField_of_unchanged]
      · rw [Context.afterField, if_neg hsame]
        exact h.set_editedBy hline moment.column value
  | line => exact h

/-- A run of steps keeps the shape. -/
theorem fits_of_reaches {sheet : Sheet} {evaluate : Cell → Text → Evaluation Text}
    {start finish : Moment} (hreach : sheet.Reaches evaluate start finish)
    (h : sheet.Fits start.context.snapshots) : sheet.Fits finish.context.snapshots := by
  induction hreach with
  | refl => exact h
  | tail _ hstep ih => exact hstep.fits ih

/-- A part of a pass keeps the shape. -/
theorem IsPart.fits {pass : Pass} (hpart : IsPart evaluator context pass)
    (h : evaluator.sheet.Fits context.snapshots) : evaluator.sheet.Fits pass.context.snapshots := by
  obtain ⟨start, finish, rfl, hreach, hcontext, -⟩ := hpart
  rw [hcontext]
  exact fits_of_reaches hreach h

end Sheet

namespace Evaluator

open Sheet

variable {evaluator : Evaluator} {context : Context}

/-- An action keeps the shape. -/
theorem fits_act (hlines : evaluator.sheet.lines ≠ [])
    (h : evaluator.sheet.Fits context.snapshots) (action : Action) :
    evaluator.sheet.Fits (evaluator.act context action).2.snapshots := by
  cases action with
  | edit edit =>
      rw [act, ending]
      rcases edit_cases hlines edit context with ⟨line, hline, hmade⟩ | ⟨cause, number, hfails⟩
      · rw [hmade]
        exact h.set_editedBy hline edit.column edit.value
      · rw [hfails]
        exact h
  | lookup row column line =>
      rw [act, (evaluator.lookup_keeps _ line context).ending_snd]
      exact h
  | text text line =>
      rw [act, (textValue_inRange evaluator context text line).left_keeps.ending_snd]
      exact h
  | line row => exact (isPart_passLine evaluator row context).fits h
  | pass => exact (isPart_pass evaluator context).fits h

/-- Actions keep the shape. -/
theorem fits_after (hlines : evaluator.sheet.lines ≠ []) (actions : List Action) :
    evaluator.sheet.Fits (evaluator.after actions).snapshots := by
  have hkept : ∀ start : Context, evaluator.sheet.Fits start.snapshots → evaluator.sheet.Fits
      (actions.foldl (fun context action => (evaluator.act context action).2) start).snapshots := by
    induction actions with
    | nil => exact fun start hstart => hstart
    | cons action actions ih => exact fun start hstart => ih _ (fits_act hlines hstart action)
  exact hkept .fresh (Fits.empty evaluator.sheet)

/-- A reference comes to no index without an entry. -/
theorem lookup_inRange (hlines : evaluator.sheet.lines ≠ [])
    (h : evaluator.sheet.Fits context.snapshots) {row column : Nat} {line : Int} {fault : Fault}
    (hfault : ((evaluator.lookup ⟨row, column⟩ line).outcome context).1 = .error fault) :
    fault.InRange := by
  have hplain (cause : EvaluationError) (number : Int) : Fault.InRange (.evaluation cause number) :=
    Fault.IsPlain.inRange trivial
  have hspec := @Fits.outcome_lookup _ evaluator.cellValue context h hlines row column line
  have hanswer : ((evaluator.sheet.lookup evaluator.cellValue ⟨row, column⟩ line).outcome
    context).1 = .error fault := hfault
  dsimp only at hspec
  split at hspec
  · rw [hspec] at hanswer
    exact (cellValue_inRange evaluator context _ _).results fault hanswer
  · obtain ⟨field, -, hfield⟩ := hspec
    rw [hfield] at hanswer
    cases hanswer
  · rw [hspec] at hanswer
    obtain rfl := Except.error.inj hanswer
    exact hplain _ _
  · rw [hspec] at hanswer
    obtain rfl := Except.error.inj hanswer
    exact hplain _ _

/-- An action comes to no index without an entry. -/
theorem act_inRange (hlines : evaluator.sheet.lines ≠ [])
    (h : evaluator.sheet.Fits context.snapshots) {action : Action} {fault : Fault}
    (hfault : (evaluator.act context action).1 = some fault) : fault.InRange := by
  cases action with
  | edit edit =>
      have herror := error_of_ending hfault
      rcases edit_cases hlines edit context with ⟨line, hline, hmade⟩ | ⟨cause, number, hfails⟩
      · rw [hmade] at herror
        cases herror
      · rw [hfails] at herror
        obtain rfl := Except.error.inj herror
        exact Fault.IsPlain.inRange trivial
  | lookup row column line => exact lookup_inRange hlines h (error_of_ending hfault)
  | text text line =>
      exact (textValue_inRange evaluator context text line).results fault (error_of_ending hfault)
  | line row =>
      obtain ⟨start, finish, -, -, -, hfails⟩ := isPart_passLine evaluator row context
      exact (hfails fault hfault).inRange
  | pass =>
      obtain ⟨start, finish, -, -, -, hfails⟩ := isPart_pass evaluator context
      exact (hfails fault hfault).inRange

/-- Snapshots keep the shape of the sheet, and indexing stays in range. After any actions on a sheet
with a line, every snapshot belongs to a line and has as many fields. So a reference passes its
range checks exactly when the sheet has the cell, with or without a snapshot: then it is answered
from the snapshot, or the cell is evaluated. Otherwise it fails with an error that names the row,
and the column when the row is there. No action comes to an index without an entry. -/
theorem after_in_range (evaluator : Evaluator) (hlines : evaluator.sheet.lines ≠ [])
    (actions : List Action) :
    let sheet := evaluator.sheet
    let context := evaluator.after actions
    sheet.Fits context.snapshots ∧
    (∀ (row column : Nat) (line : Int),
      let answer := (evaluator.lookup ⟨row, column⟩ line).outcome context
      match sheet.textAt? ⟨row, column⟩, context.snapshots.get? row with
      | some text, none => answer = (evaluator.cellValue ⟨row, column⟩ text).outcome context
      | some _, some record => ∃ field, record[column]? = some field ∧ answer = (.ok field, context)
      | none, none => answer = (.error (.evaluation (sheet.absence row column) (row + 1)), context)
      | none, some _ =>
        answer = (.error (.evaluation (sheet.absence row column) line), context)) ∧
    ∀ action fault, (evaluator.act context action).1 = some fault → fault.InRange := by
  intro sheet context
  have hfits : sheet.Fits context.snapshots := fits_after hlines actions
  refine ⟨hfits, ?_, ?_⟩
  · intro row column line
    exact hfits.outcome_lookup hlines row column line
  · intro action fault hfault
    exact act_inRange hlines hfits hfault

/-- Actions on `inventory`, three of which fail: an edit and a reference behind the last field of
the row, and a text that refers to a row behind the last one. -/
def stocktaking : List Action :=
  [.edit ⟨⟨0, " bolt ".toList⟩, 1, 2⟩, .edit ⟨⟨3, "lost".toList⟩, 1, 2⟩, .lookup 1 3 9,
    .text "=print(A9)".toList 4, .line 1, .pass, .lookup 1 1 9]

/-- The row of `inventory` after `stocktaking` has as many fields as before. -/
theorem after_in_range_inventory :
    inventory.lines ≠ [] ∧
    inventory.Fits ((Evaluator.ofSheet inventory true).after stocktaking).snapshots ∧
    ((Evaluator.ofSheet inventory true).after stocktaking).snapshots.get? 1 =
      some ["bolt".toList, "3".toList, []] := by
  have hlines : inventory.lines ≠ [] := List.cons_ne_nil _ _
  obtain ⟨hfits, -, -⟩ := after_in_range (Evaluator.ofSheet inventory true) hlines stocktaking
  exact ⟨hlines, hfits, by cbv⟩

end Evaluator

end SheetCalc
