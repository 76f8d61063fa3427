import Mathlib.Data.List.Chain
import SheetCalc.Proofs.Evaluation.References

/-!
# The trail of an evaluation

The trail of a guarded evaluation holds different cells of the sheet, each referred to by the one
before it, so it is never longer than the sheet has cells. `guarded_raisesOnly` is the bound on the
faults that follows: a cycle is only reported where the references close one. `watched_agree` says
that an evaluation which looks at its trail all the time never finds it otherwise.
-/

namespace SheetCalc

open Evaluation

variable {sheet : Sheet} {cell : Cell} {text : Text} {trail : Trail}

/-- The trail holds different cells, and cells of the sheet only. -/
structure Sheet.IsTrail (sheet : Sheet) (trail : Trail) : Prop where
  nodup : trail.Nodup
  inside : ∀ cell ∈ trail, cell ∈ sheet.cells

instance (sheet : Sheet) : DecidablePred sheet.IsTrail := fun trail =>
  decidable_of_iff (trail.Nodup ∧ ∀ cell ∈ trail, cell ∈ sheet.cells)
    ⟨fun h => ⟨h.1, h.2⟩, fun h => ⟨h.nodup, h.inside⟩⟩

namespace Sheet.IsTrail

/-- No cell is under evaluation at the start. -/
theorem nil (sheet : Sheet) : sheet.IsTrail [] :=
  ⟨List.nodup_nil, fun _ h => absurd h List.not_mem_nil⟩

/-- The trail is no longer than the sheet has cells. -/
theorem length_le (h : sheet.IsTrail trail) : trail.length ≤ sheet.cellCount :=
  length_le_cellCount h.nodup h.inside

/-- A cell of the sheet that is not on the trail can be put on it. -/
theorem push (h : sheet.IsTrail trail) (hnew : cell ∉ trail)
    (htext : sheet.textAt? cell = some text) : sheet.IsTrail (trail ++ [cell]) := by
  constructor
  · rw [List.nodup_append]
    refine ⟨h.nodup, List.pairwise_singleton _ cell, ?_⟩
    intro entered hmem other hother hequal
    obtain rfl := List.mem_singleton.mp hother
    exact hnew (hequal ▸ hmem)
  · intro entered hmem
    rcases List.mem_append.mp hmem with hmem | hmem
    · exact h.inside entered hmem
    · obtain rfl := List.mem_singleton.mp hmem
      exact mem_cells_of_textAt? htext

/-- The budget that is left with a full trail cannot be needed. -/
theorem budget_pos {budget : Nat} (h : sheet.IsTrail trail) (hnew : cell ∉ trail)
    (htext : sheet.textAt? cell = some text) (hbudget : sheet.cellCount ≤ budget + trail.length) :
    0 < budget := by
  have hlength := (h.push hnew htext).length_le
  rw [List.length_append, List.length_singleton] at hlength
  omega

end Sheet.IsTrail

/-- The same cell is entered on both sides. -/
theorem RelatedAt.onTrail {Related : {α : Type} → Except Fault α → Except Fault α → Prop}
    {context : Context} {α : Type} {left right : Evaluation α} {line : Int}
    (hmem : cell ∈ context.trail → Related (.error (context.trail.cycle cell line) : Except Fault α)
      (.error (context.trail.cycle cell line)))
    (hnew : cell ∉ context.trail →
      RelatedAt Related (context.push cell) (context.push cell) left right) :
    RelatedAt Related context context (Evaluation.onTrail cell line left)
      (Evaluation.onTrail cell line right) := by
  by_cases h : cell ∈ context.trail
  · have hreport : RelatedAt Related context context
        (throw (context.trail.cycle cell line) : Evaluation α)
        (throw (context.trail.cycle cell line)) := ⟨rfl, rfl, hmem h⟩
    exact hreport.of_outcome_eq (outcome_onTrail_of_mem line left h)
      (outcome_onTrail_of_mem line right h)
  · exact onTrail_left (fun hmem => absurd hmem h) fun _ => onTrail_right
      (fun hmem => absurd hmem h) fun _ => hnew h

/-- References lead along a trail of different cells, and from its last cell back to one of them. -/
structure Sheet.ClosesCycle (sheet : Sheet) (trail : Trail) (cell : Cell) : Prop where
  isTrail : sheet.IsTrail trail
  mem : cell ∈ trail
  chain : (trail ++ [cell]).IsChain sheet.Refers

/-- A cycle goes through cells of the sheet. -/
theorem Sheet.ClosesCycle.inside (h : sheet.ClosesCycle trail cell) :
    ∀ entered ∈ trail ++ [cell], entered ∈ sheet.cells := by
  intro entered hmem
  rcases List.mem_append.mp hmem with hmem | hmem
  · exact h.isTrail.inside entered hmem
  · obtain rfl := List.mem_singleton.mp hmem
    exact h.isTrail.inside entered h.mem

/-- An action has a result on a list when it has one on each entry. -/
theorem exists_mapM_eq_ok_iff {ε α β : Type} {f : α → Except ε β} {list : List α} :
    (∃ results, list.mapM f = .ok results) ↔ ∀ entry ∈ list, ∃ result, f entry = .ok result := by
  induction list with
  | nil => exact ⟨fun _ entry hmem => absurd hmem List.not_mem_nil, fun _ => ⟨[], rfl⟩⟩
  | cons first rest ih =>
      rw [List.forall_mem_cons, ← ih, List.mapM_cons]
      cases f first with
      | error cause => simp [bind, Except.bind]
      | ok result => cases rest.mapM f <;> simp [bind, Except.bind, pure, Except.pure]

/-- A cycle is reported with the names of its cells where all of them have names. -/
theorem Trail.exists_cycle_iff (line : Int)
    (hcolumn : ∀ entered ∈ trail ++ [cell], 0 ≤ entered.column) :
    (∃ path, trail.cycle cell line = .cycle path line) ↔
      ∀ entered ∈ trail ++ [cell], entered.column < 18278 := by
  have hnames : (∃ names, trail.names cell = .ok names) ↔
      ∀ entered ∈ trail ++ [cell], ∃ name, entered.name = .ok name := exists_mapM_eq_ok_iff
  have hcycle : (∃ path, trail.cycle cell line = .cycle path line) ↔
      ∃ names, trail.names cell = .ok names := by
    unfold Trail.cycle
    cases trail.names cell <;> simp
  rw [hcycle, hnames]
  exact forall₂_congr fun entered hmem => Cell.exists_name_iff (hcolumn entered hmem)

namespace Sheet

/-- A cycle of references is reported with the names of its cells where all of them have names. -/
theorem ClosesCycle.exists_cycle_iff (h : sheet.ClosesCycle trail cell) (line : Int) :
    (∃ path, trail.cycle cell line = .cycle path line) ↔
      ∀ entered ∈ trail, entered.column < 18278 := by
  have hcolumn : ∀ entered ∈ trail ++ [cell], 0 ≤ entered.column := by
    intro entered hmem
    obtain ⟨_, -, hnonneg, -⟩ := exists_line_of_mem_cells (h.inside entered hmem)
    exact hnonneg
  rw [Trail.exists_cycle_iff line hcolumn, List.forall_mem_append, List.forall_mem_singleton]
  exact ⟨fun hall => hall.1, fun hall => ⟨hall, hall cell h.mem⟩⟩

/-- A cycle of references in a narrow sheet is reported with the names of its cells. -/
theorem IsNarrow.cycle (hnarrow : sheet.IsNarrow) (h : sheet.ClosesCycle trail cell) (line : Int) :
    ∃ path, trail.cycle cell line = .cycle path line :=
  (h.exists_cycle_iff line).mpr fun entered hmem =>
    hnarrow.column_lt (h.isTrail.inside entered hmem)

/-- The faults of a guarded evaluation are plain or report a cycle of references that the trail and
the cell lead to. A budget that the trail can use up with no cell left over is never missed. -/
theorem guarded_raisesOnly {allowed : Fault → Prop} (hplain : ∀ fault, fault.IsPlain → allowed fault)
    (budget : Nat) {context : Context} (htext : sheet.textAt? cell = some text)
    (htrail : sheet.IsTrail context.trail)
    (hchain : (context.trail ++ [cell]).IsChain sheet.Refers)
    (hcycle : ∀ trail last, context.trail ++ [cell] <+: trail ++ [last] →
      sheet.ClosesCycle trail last → allowed (Trail.cycle trail last (last.row + 1)))
    (hbudget : sheet.cellCount ≤ budget + context.trail.length) :
    RelatedAt (RaisesOnly allowed) context context (sheet.guarded budget cell text)
      (sheet.guarded budget cell text) := by
  have hreport {context : Context} {cell : Cell} (htrail : sheet.IsTrail context.trail)
      (hchain : (context.trail ++ [cell]).IsChain sheet.Refers)
      (hcycle : ∀ trail last, context.trail ++ [cell] <+: trail ++ [last] →
        sheet.ClosesCycle trail last → allowed (Trail.cycle trail last (last.row + 1)))
      (hmem : cell ∈ context.trail) :
      RaisesOnly allowed (.error (context.trail.cycle cell (cell.row + 1)) : Except Fault Text)
        (.error (context.trail.cycle cell (cell.row + 1))) := by
    intro fault hfault
    obtain rfl := Except.error.inj hfault
    exact hcycle _ _ List.prefix_rfl ⟨htrail, hmem, hchain⟩
  induction budget generalizing context cell text with
  | zero =>
      rw [guarded_zero]
      refine .onTrail (fun hmem => hreport htrail hchain hcycle hmem) fun hnew => ?_
      exact absurd (htrail.budget_pos hnew htext hbudget) (Nat.lt_irrefl 0)
  | succ budget ih =>
      rw [guarded_succ]
      refine .onTrail (fun hmem => hreport htrail hchain hcycle hmem) fun hnew => ?_
      refine .sheetText (congruence_raisesOnly hplain) rfl fun next hnext content hcontent _ => ?_
      have hrefers : sheet.Refers cell next := ⟨text, htext, hnext⟩
      refine ih hcontent (htrail.push hnew htext) ?_ ?_ ?_
      · rw [Context.trail_push]
        refine hchain.append (.singleton next) ?_
        simpa using hrefers
      · intro trail last hprefix
        exact hcycle trail last ((List.prefix_append _ _).trans hprefix)
      · rw [Context.trail_push, List.length_append, List.length_singleton]
        omega

/-- With enough budget for the sheet, the first cell that is evaluated raises plain faults and
reports cycles of references that it leads to. -/
theorem guarded_raisesOnly_of_nil {allowed : Fault → Prop}
    (hplain : ∀ fault, fault.IsPlain → allowed fault) {budget : Nat}
    (hbudget : sheet.cellCount ≤ budget) {context : Context}
    (htext : sheet.textAt? cell = some text) (htrail : context.trail = [])
    (hcycle : ∀ trail last, [cell] <+: trail ++ [last] → sheet.ClosesCycle trail last →
      allowed (Trail.cycle trail last (last.row + 1))) :
    RelatedAt (RaisesOnly allowed) context context (sheet.guarded budget cell text)
      (sheet.guarded budget cell text) := by
  obtain ⟨snapshots, trail⟩ := context
  obtain rfl : trail = [] := htrail
  exact guarded_raisesOnly hplain budget htext (.nil sheet) (.singleton cell) hcycle
    (Nat.le_add_right_of_le hbudget)

/-- The unguarded evaluation raises plain faults, or runs out of its budget. -/
theorem unguarded_raisesOnly (budget : Nat) (context : Context) (cell : Cell) (text : Text) :
    RelatedAt (RaisesOnly fun fault => fault.IsPlain ∨ fault.IsEndless) context context
      (sheet.unguarded budget cell text) (sheet.unguarded budget cell text) := by
  induction budget generalizing cell text with
  | zero =>
      refine ⟨rfl, rfl, ?_⟩
      intro fault hfault
      obtain rfl : Fault.endless = fault := Except.error.inj hfault
      exact .inr rfl
  | succ budget ih =>
      rw [unguarded_succ]
      exact .sheetText (congruence_raisesOnly fun _ => .inl) rfl fun next _ content _ _ =>
        ih next content

end Sheet

/-- Looks at the trail before `body` runs, and gives up with `alarm` unless it is a trail of the
sheet. -/
def Evaluation.watch {α : Type} (sheet : Sheet) (alarm : Fault) (body : Evaluation α) :
    Evaluation α := do
  if sheet.IsTrail (← get).trail then body else throw alarm

/-- Where the trail is one of the sheet, looking at it changes nothing. -/
theorem Evaluation.outcome_watch {α : Type} {context : Context} (alarm : Fault)
    (body : Evaluation α) (h : sheet.IsTrail context.trail) :
    (watch sheet alarm body).outcome context = body.outcome context := by
  simp [watch, outcome_bind, h]

namespace Sheet

/-- The value of a text in a cell, with cycles detected. The trail is looked at whenever the
evaluation comes to a cell, and again when the cell is on it. -/
def watched (sheet : Sheet) (alarm : Fault) : (budget : Nat) → Cell → Text → Evaluation Text :=
  sheet.valueWithin fun cell body =>
    .watch sheet alarm (.onTrail cell (cell.row + 1) (.watch sheet alarm body))

theorem watched_succ (alarm : Fault) (budget : Nat) (cell : Cell) (text : Text) :
    sheet.watched alarm (budget + 1) cell text =
      .watch sheet alarm (.onTrail cell (cell.row + 1) (.watch sheet alarm
        (Lookup.textValue (sheet.lookup (sheet.watched alarm budget)) text (cell.row + 1)))) :=
  rfl

/-- With any budget, a watched evaluation of a cell on the trail reports the cycle. -/
theorem outcome_watched_of_mem (alarm : Fault) (budget : Nat) {context : Context}
    (htrail : sheet.IsTrail context.trail) (hmem : cell ∈ context.trail) :
    (sheet.watched alarm budget cell text).outcome context =
      (.error (context.trail.cycle cell (cell.row + 1)), context) := by
  cases budget <;>
    exact (outcome_watch alarm _ htrail).trans (outcome_onTrail_of_mem (cell.row + 1) _ hmem)

/-- The alarm is never given, and a budget beyond the number of cells is never used: the watched
evaluation has the outcome of the guarded one. -/
theorem watched_agree (alarm : Fault) (budget spare : Nat) {context : Context}
    (htext : sheet.textAt? cell = some text) (htrail : sheet.IsTrail context.trail)
    (hbudget : sheet.cellCount ≤ budget + context.trail.length) :
    RelatedAt (Agree Fault.Never Fault.Never) context context
      (sheet.watched alarm (budget + spare) cell text) (sheet.guarded budget cell text) := by
  induction budget generalizing context cell text with
  | zero =>
      rw [guarded_zero]
      refine .onTrail_right (fun hmem => ?_) fun hnew => ?_
      · have hreport : RelatedAt (Agree Fault.Never Fault.Never) context context
            (throw (context.trail.cycle cell (cell.row + 1)) : Evaluation Text)
            (throw (context.trail.cycle cell (cell.row + 1))) := ⟨rfl, rfl, .same _⟩
        exact hreport.of_outcome_eq (outcome_watched_of_mem alarm _ htrail hmem) rfl
      · exact absurd (htrail.budget_pos hnew htext hbudget) (Nat.lt_irrefl 0)
  | succ budget ih =>
      rw [Nat.succ_add, watched_succ, guarded_succ]
      refine .of_outcome_eq (.onTrail (fun _ => .same _) fun hnew => ?_)
        (outcome_watch alarm _ htrail) rfl
      have hpushed : sheet.IsTrail (context.push cell).trail := htrail.push hnew htext
      refine .of_outcome_eq ?_ (outcome_watch alarm _ hpushed) rfl
      refine .sheetText (congruence_agree _ _) rfl fun next _ content hnext _ =>
        ih hnext hpushed ?_
      rw [Context.trail_push, List.length_append, List.length_singleton]
      omega

end Sheet

end SheetCalc
