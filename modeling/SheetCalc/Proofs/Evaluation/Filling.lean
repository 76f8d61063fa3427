import SheetCalc.Proofs.Evaluation.Guard
import SheetCalc.Proofs.Formula.Leafwise

/-!
# What filling a formula gives

Evaluation leaves the context as it is, so every leaf of a formula is filled in the same context.
Filling replaces each reference by what the text of its cell reads as, and nothing else:
`Formula.fill_eq_ok_iff`. The calls are computed afterwards, and a reference that is left at
that point stops the computation. `checkedValue` is this second pass on a formula that may still
hold references. After the first pass it never meets one: `Lookup.checkedValue_eq`.
-/

namespace SheetCalc

open Evaluation

/-! ## Evaluations that keep the context -/

/-- The result of two evaluations in a row, when the first one keeps its context. -/
theorem Evaluation.result_bind {α β : Type} {first : Evaluation α} {context : Context}
    (hkeeps : first.Keeps context) (next : α → Evaluation β) :
    ((first >>= next).outcome context).1 =
      (first.outcome context).1 >>= fun result => ((next result).outcome context).1 := by
  rw [outcome_bind_of_keeps hkeeps]
  cases (first.outcome context).1 <;> rfl

/-- Two evaluations in a row have a result exactly when each of them has. -/
theorem Evaluation.bind_eq_ok_iff {α β : Type} {first : Evaluation α} {next : α → Evaluation β}
    {context : Context} {final : β} (hkeeps : first.Keeps context) :
    ((first >>= next).outcome context).1 = .ok final ↔
      ∃ result, (first.outcome context).1 = .ok result ∧
        ((next result).outcome context).1 = .ok final := by
  rw [outcome_bind_of_keeps hkeeps]
  cases (first.outcome context).1 with
  | error fault => simp
  | ok result => simp

/-- When two evaluations in a row have a result, so has each of them. -/
theorem Evaluation.ok_of_bind {α β : Type} {first : Evaluation α} {next : α → Evaluation β}
    {context : Context} {final : β} (hkeeps : first.Keeps context)
    (h : ((first >>= next).outcome context).1 = .ok final) :
    ∃ result, (first.outcome context).1 = .ok result ∧
      ((next result).outcome context).1 = .ok final :=
  (bind_eq_ok_iff hkeeps).mp h

namespace Expr

variable {α β : Type} {f : α → Evaluation β} {context : Context}
  (hkeeps : ∀ leaf, (f leaf).Keeps context)
include hkeeps

/-- A tree keeps the context when the actions on its leaves do. -/
theorem traverse_keeps (expr : Expr α) : Evaluation.Keeps (expr.traverse f) context :=
  (RelatedAt.traverse (congruence_agree Fault.Never Fault.Never) expr fun leaf _ =>
    ⟨hkeeps leaf, hkeeps leaf, .same _⟩).left_keeps

/-- Trees keep the context when the actions on their leaves do. -/
theorem traverseAll_keeps (exprs : List (Expr α)) :
    Evaluation.Keeps (traverseAll f exprs) context :=
  (RelatedAt.traverseAll (congruence_agree Fault.Never Fault.Never) exprs fun leaf _ =>
    ⟨hkeeps leaf, hkeeps leaf, .same _⟩).left_keeps

mutual

/-- A tree that is filled has at each leaf the result of the action on it, and is as it was
otherwise. -/
theorem leafwise_of_traverse_ok : (expr : Expr α) → {filled : Expr β} →
    ((expr.traverse f).outcome context).1 = .ok filled →
    expr.Leafwise (fun leaf result => ((f leaf).outcome context).1 = .ok result) filled
  | .leaf content, filled, h => by
    obtain ⟨result, hresult, hfilled⟩ := ok_of_bind (hkeeps content) h
    obtain rfl : Expr.leaf result = filled := Except.ok.inj hfilled
    exact .leaf hresult
  | .array elements, filled, h => by
    obtain ⟨results, hresults, hfilled⟩ := ok_of_bind (traverseAll_keeps hkeeps elements) h
    obtain rfl : Expr.array results = filled := Except.ok.inj hfilled
    exact .array (leafwiseAll_of_traverseAll_ok elements hresults)
  | .call name arguments line, filled, h => by
    obtain ⟨results, hresults, hfilled⟩ := ok_of_bind (traverseAll_keeps hkeeps arguments) h
    obtain rfl : Expr.call name results line = filled := Except.ok.inj hfilled
    exact .call (leafwiseAll_of_traverseAll_ok arguments hresults)

/-- Trees that are filled have at each leaf the result of the action on it, and are as they were
otherwise. -/
theorem leafwiseAll_of_traverseAll_ok : (exprs : List (Expr α)) → {filled : List (Expr β)} →
    ((traverseAll f exprs).outcome context).1 = .ok filled →
    LeafwiseAll (fun leaf result => ((f leaf).outcome context).1 = .ok result) exprs filled
  | [], filled, h => by
    obtain rfl : [] = filled := Except.ok.inj h
    exact .nil
  | expr :: exprs, filled, h => by
    obtain ⟨first, hfirst, hnext⟩ := ok_of_bind (traverse_keeps hkeeps expr) h
    obtain ⟨rest, hrest, hfilled⟩ := ok_of_bind (traverseAll_keeps hkeeps exprs) hnext
    obtain rfl : first :: rest = filled := Except.ok.inj hfilled
    exact .cons (leafwise_of_traverse_ok expr hfirst) (leafwiseAll_of_traverseAll_ok exprs hrest)

end

mutual

/-- A tree is filled when the action has a result on each leaf. -/
theorem traverse_ok_of_leafwise {expr : Expr α} {filled : Expr β} :
    expr.Leafwise (fun leaf result => ((f leaf).outcome context).1 = .ok result) filled →
    ((expr.traverse f).outcome context).1 = .ok filled
  | .leaf hresult => (bind_eq_ok_iff (hkeeps _)).mpr ⟨_, hresult, rfl⟩
  | .array helements =>
    (bind_eq_ok_iff (traverseAll_keeps hkeeps _)).mpr
      ⟨_, traverseAll_ok_of_leafwiseAll helements, rfl⟩
  | .call harguments =>
    (bind_eq_ok_iff (traverseAll_keeps hkeeps _)).mpr
      ⟨_, traverseAll_ok_of_leafwiseAll harguments, rfl⟩

/-- Trees are filled when the action has a result on each leaf. -/
theorem traverseAll_ok_of_leafwiseAll {exprs : List (Expr α)} {filled : List (Expr β)} :
    LeafwiseAll (fun leaf result => ((f leaf).outcome context).1 = .ok result) exprs filled →
    ((traverseAll f exprs).outcome context).1 = .ok filled
  | .nil => rfl
  | .cons hfirst hrest =>
    (bind_eq_ok_iff (traverse_keeps hkeeps _)).mpr ⟨_, traverse_ok_of_leafwise hfirst,
      (bind_eq_ok_iff (traverseAll_keeps hkeeps _)).mpr
        ⟨_, traverseAll_ok_of_leafwiseAll hrest, rfl⟩⟩

end

end Expr

/-- Filling a leaf keeps the context when looking cells up does. -/
theorem Leaf.fill_keeps {lookup : Lookup} {context : Context}
    (hkeeps : ∀ cell line, (lookup cell line).Keeps context) (line : Int) (leaf : Leaf) :
    (leaf.fill lookup line).Keeps context :=
  (RelatedAt.leafFill (congruence_agree Fault.Never Fault.Never) leaf fun cell _ =>
    ⟨hkeeps cell line, hkeeps cell line, .same _⟩).left_keeps

/-- Filling a formula keeps the context when looking cells up does. -/
theorem Formula.fill_keeps {lookup : Lookup} {line : Int} {context : Context}
    (hkeeps : ∀ cell line, (lookup cell line).Keeps context) (formula : Formula Leaf) :
    (formula.fill lookup line).Keeps context := by
  have harguments := Expr.traverseAll_keeps (Leaf.fill_keeps hkeeps line) formula.arguments
  show (outcome _ context).2 = context
  rw [fill, outcome_bind_of_keeps harguments]
  split <;> rfl

/-- Evaluating a text keeps the context when looking cells up does. -/
theorem Lookup.textValue_keeps {lookup : Lookup} {context : Context}
    (hkeeps : ∀ cell line, (lookup cell line).Keeps context) (text : Text) (line : Int) :
    (lookup.textValue text line).Keeps context :=
  (RelatedAt.textValue (congruence_agree Fault.Never Fault.Never) fun cell _ =>
    ⟨hkeeps cell line, hkeeps cell line, .same _⟩).left_keeps

/-- Looking a cell up keeps the context when evaluating cells does. -/
theorem Sheet.lookup_keeps {sheet : Sheet} {context : Context}
    {evaluate : Cell → Text → Evaluation Text}
    (hkeeps : ∀ cell text, (evaluate cell text).Keeps context) (cell : Cell) (line : Int) :
    (sheet.lookup evaluate cell line).Keeps context := by
  show (outcome _ context).2 = context
  unfold lookup
  rw [outcome_bind, outcome_get]
  dsimp only
  split
  · rfl
  · rw [outcome_bind, outcome_ofExcept]
    cases sheet.staticRecord cell.row with
    | error fault => rfl
    | ok record =>
        dsimp only
        rw [outcome_bind, outcome_ofExcept]
        cases record.fieldAt cell (cell.row + 1) with
        | error fault => rfl
        | ok text => exact hkeeps cell text

/-- An evaluator keeps its context when it looks up a cell. -/
theorem Evaluator.lookup_keeps (evaluator : Evaluator) (cell : Cell) (line : Int)
    (context : Context) : (evaluator.lookup cell line).Keeps context :=
  Sheet.lookup_keeps (fun cell text => Sheet.cellValue_keeps evaluator cell text context) cell line

/-! ## The first pass -/

/-- A formula that is a call of one leaf fails when this leaf does. -/
theorem Lookup.outcome_textValue_of_leaf {lookup : Lookup} {text body name : Text}
    {line number : Int} {leaf : Leaf} {context after : Context} {fault : Fault}
    (hbody : Formula.body? text = some body)
    (hformula : Formula.ofText line body = .ok ⟨name, [.leaf leaf], number⟩)
    (hleaf : (leaf.fill lookup line).outcome context = (.error fault, after)) :
    (lookup.textValue text line).outcome context = (.error fault, after) := by
  unfold textValue
  rw [hbody]
  dsimp only
  rw [hformula]
  simp only [outcome_bind, outcome_ofExcept, Formula.fill, Expr.traverseAll, Expr.traverse, hleaf]

/-- What a leaf stands for in a context: a literal for itself, and a reference for what the text of
its cell reads as. -/
inductive Leaf.StandsFor (lookup : Lookup) (line : Int) (context : Context) : Leaf → Literal → Prop
  | literal (content : Literal) : StandsFor lookup line context (.literal content) content
  | reference {target : Reference} {column : Nat} {text : Text} :
      Column.index target.column = .ok column →
      ((lookup ⟨target.row, column⟩ line).outcome context).1 = .ok text →
      StandsFor lookup line context (.reference target) (.ofText text)

/-- A formula is filled by filling its arguments. -/
theorem Formula.exists_arguments_of_fill_ok {lookup : Lookup} {line : Int} {context : Context}
    (hkeeps : ∀ cell line, (lookup cell line).Keeps context)
    {formula : Formula Leaf} {filled : Formula Literal}
    (h : ((formula.fill lookup line).outcome context).1 = .ok filled) :
    ∃ arguments, ((Expr.traverseAll (Leaf.fill lookup line) formula.arguments).outcome context).1 =
        .ok arguments ∧ filled = ⟨formula.name, arguments, formula.line⟩ := by
  obtain ⟨arguments, harguments, hfilled⟩ :=
    ok_of_bind (Expr.traverseAll_keeps (Leaf.fill_keeps hkeeps line) formula.arguments) h
  exact ⟨arguments, harguments, (Except.ok.inj hfilled).symm⟩

section Fill

variable {lookup : Lookup} {line : Int} {context : Context}
  (hkeeps : ∀ cell line, (lookup cell line).Keeps context)
include hkeeps

/-- A leaf is filled with what it stands for. -/
theorem Leaf.fill_eq_ok_iff {leaf : Leaf} {content : Literal} :
    ((leaf.fill lookup line).outcome context).1 = .ok content ↔
      leaf.StandsFor lookup line context content := by
  constructor
  · intro h
    cases leaf with
    | literal other =>
        obtain rfl : other = content := Except.ok.inj h
        exact .literal other
    | reference target =>
        rw [fill] at h
        cases hcolumn : Column.index target.column with
        | error cause =>
            rw [hcolumn] at h
            cases h
        | ok column =>
            rw [hcolumn] at h
            obtain ⟨text, htext, hcontent⟩ := ok_of_bind (hkeeps _ line) h
            obtain rfl : Literal.ofText text = content := Except.ok.inj hcontent
            exact .reference hcolumn htext
  · intro h
    cases h with
    | literal => rfl
    | reference hcolumn htext =>
        rw [fill, hcolumn]
        exact (bind_eq_ok_iff (hkeeps _ line)).mpr ⟨_, htext, rfl⟩

/-- A formula is filled exactly when each of its leaves stands for something, and what fills it has
this at the leaf and is the same formula otherwise. -/
theorem Formula.fill_eq_ok_iff {formula : Formula Leaf} {filled : Formula Literal} :
    ((formula.fill lookup line).outcome context).1 = .ok filled ↔
      formula.toExpr.Leafwise (Leaf.StandsFor lookup line context) filled.toExpr := by
  have hleaf := Leaf.fill_keeps hkeeps line
  have hfills : Leaf.StandsFor lookup line context =
      fun leaf content => ((leaf.fill lookup line).outcome context).1 = .ok content := by
    funext leaf content
    exact propext (Leaf.fill_eq_ok_iff hkeeps).symm
  rw [hfills]
  constructor
  · intro h
    obtain ⟨arguments, harguments, rfl⟩ := exists_arguments_of_fill_ok hkeeps h
    exact .call (Expr.leafwiseAll_of_traverseAll_ok hleaf formula.arguments harguments)
  · intro h
    obtain ⟨name, arguments, number⟩ := formula
    obtain ⟨_, results, _⟩ := filled
    cases h with
    | call harguments =>
        exact (bind_eq_ok_iff (Expr.traverseAll_keeps hleaf arguments)).mpr
          ⟨results, Expr.traverseAll_ok_of_leafwiseAll hleaf harguments, rfl⟩

/-- A text that holds a formula has the value of the filled formula. -/
theorem Lookup.exists_filled_of_textValue {text body value : Text}
    (hbody : Formula.body? text = some body)
    (h : ((lookup.textValue text line).outcome context).1 = .ok value) :
    ∃ formula filled, Formula.ofText line body = .ok formula ∧
      ((formula.fill lookup line).outcome context).1 = .ok filled ∧ filled.value = .ok value := by
  rw [textValue, hbody] at h
  obtain ⟨formula, hformula, hnext⟩ := ok_of_bind (keeps_ofExcept _ context) h
  obtain ⟨filled, hfilled, hvalue⟩ := ok_of_bind (formula.fill_keeps hkeeps) hnext
  exact ⟨formula, filled, hformula, hfilled, hvalue⟩

end Fill

/-! ## The second pass -/

/-- What stops the second pass over a formula: a reference that is left, or a fault. -/
inductive Halt where
  | reference (target : Reference)
  | fault (fault : Fault)

/-- Two results in a row stop for the reason of one of them. -/
theorem mapError_bind {ε δ α β : Type} (kind : ε → δ) (first : Except ε α) (next : α → Except ε β) :
    (first >>= next).mapError kind =
      first.mapError kind >>= fun result => (next result).mapError kind := by
  cases first <;> rfl

namespace Expr

mutual

/-- The value of a tree that may hold references, which stops at the first one. -/
def checkedValue : Expr Leaf → Except Halt Value
  | .leaf (.reference target) => .error (.reference target)
  | .leaf (.literal content) => .ok (.literal content)
  | .array elements => do return .array (← checkedValues elements)
  | .call name arguments line => do
    let values ← checkedValues arguments
    return .literal (.ofText (← (apply name values line).mapError .fault))

/-- The values of trees that may hold references, from left to right. -/
def checkedValues : List (Expr Leaf) → Except Halt (List Value)
  | [] => .ok []
  | expr :: exprs => do
    let first ← checkedValue expr
    let rest ← checkedValues exprs
    return first :: rest

end

/-- A tree of literals as a tree that may hold references. -/
def written (expr : Expr Literal) : Expr Leaf :=
  expr.bind fun content => .leaf (.literal content)

/-- Trees of literals as trees that may hold references. -/
def writtenAll (exprs : List (Expr Literal)) : List (Expr Leaf) :=
  bindAll exprs fun content => .leaf (.literal content)

mutual

/-- In a tree of literals no reference is met. -/
theorem checkedValue_written :
    (expr : Expr Literal) → expr.written.checkedValue = expr.value.mapError .fault
  | .leaf _ => rfl
  | .array elements => by
    rw [value, mapError_bind, ← checkedValues_writtenAll elements]
    rfl
  | .call name arguments line => by
    rw [value, mapError_bind, ← checkedValues_writtenAll arguments]
    simp only [mapError_bind]
    rfl

/-- In trees of literals no reference is met. -/
theorem checkedValues_writtenAll :
    (exprs : List (Expr Literal)) →
      checkedValues (writtenAll exprs) = (values exprs).mapError .fault
  | [] => rfl
  | expr :: exprs => by
    rw [values, mapError_bind, ← checkedValue_written expr]
    simp only [mapError_bind, ← checkedValues_writtenAll exprs]
    rfl

end

end Expr

namespace Formula

/-- A formula of literals as one that may hold references. -/
def written (formula : Formula Literal) : Formula Leaf :=
  ⟨formula.name, Expr.writtenAll formula.arguments, formula.line⟩

/-- The text of a formula that may hold references, whose computation stops at the first one. -/
def checkedValue (formula : Formula Leaf) : Except Halt Text := do
  let values ← Expr.checkedValues formula.arguments
  (Expr.apply formula.name values formula.line).mapError .fault

/-- In a formula of literals no reference is met. -/
theorem checkedValue_written (formula : Formula Literal) :
    formula.written.checkedValue = formula.value.mapError .fault := by
  rw [value, mapError_bind, ← Expr.checkedValues_writtenAll]
  rfl

/-- A reference that is left stops the computation, also in an array. -/
example :
    let target : Reference := ⟨['A'], 1, "A1".toList⟩
    checkedValue ⟨"print".toList, [.array [.leaf (.reference target)]], 2⟩ =
      .error (.reference target) :=
  rfl

end Formula

/-- The value of the text of a cell, when the second pass stops at a reference that is left by the
first one. -/
def Lookup.checkedValue (lookup : Lookup) (text : Text) (line : Int) (context : Context) :
    Except Halt Text :=
  match Formula.body? text with
  | none => .ok text
  | some body => do
    let formula ← (Formula.ofText line body).mapError .fault
    let filled ← ((formula.fill lookup line).outcome context).1.mapError .fault
    filled.written.checkedValue

/-- Evaluating a text never stops at a reference. -/
theorem Lookup.checkedValue_eq {lookup : Lookup} {context : Context}
    (hkeeps : ∀ cell line, (lookup cell line).Keeps context) (text : Text) (line : Int) :
    lookup.checkedValue text line context =
      ((lookup.textValue text line).outcome context).1.mapError .fault := by
  unfold checkedValue textValue
  cases Formula.body? text with
  | none => rfl
  | some body =>
      dsimp only
      rw [result_bind (keeps_ofExcept _ context), outcome_ofExcept, mapError_bind]
      simp only [result_bind (Formula.fill_keeps hkeeps _), mapError_bind,
        Formula.checkedValue_written, outcome_ofExcept]

/-- Filling a formula replaces its references and nothing else. In every context, with any trail and
any snapshots, filling leaves the context as it is. It gives a formula exactly when that one has the
same calls and arrays in the same places, and each leaf is what the leaf at its place stands for: a
literal for itself, and a reference for what the text of its cell reads as. No reference is left, so
the second pass never stops at one. -/
theorem Evaluator.fill_leafwise (evaluator : Evaluator) (formula : Formula Leaf) (line : Int)
    (context : Context) :
    (evaluator.fill formula line).Keeps context ∧
    (∀ filled, ((evaluator.fill formula line).outcome context).1 = .ok filled ↔
      formula.toExpr.shape = filled.toExpr.shape ∧
        List.Forall₂ (Leaf.StandsFor evaluator.lookup line context)
          formula.toExpr.leaves filled.toExpr.leaves) ∧
    ∀ text, evaluator.lookup.checkedValue text line context =
      ((evaluator.textValue text line).outcome context).1.mapError .fault := by
  have hkeeps (cell : Cell) (line : Int) := evaluator.lookup_keeps cell line context
  exact ⟨formula.fill_keeps hkeeps,
    fun _ => (Formula.fill_eq_ok_iff hkeeps).trans Expr.leafwise_iff,
    fun text => Lookup.checkedValue_eq hkeeps text line⟩

end SheetCalc
