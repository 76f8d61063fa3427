import SheetCalc.Fault
import SheetCalc.Snapshots

/-!
# Contexts

Evaluation goes on in a context: the snapshots of the rows edited so far, and the
trail of the cells under evaluation, each needed by the one before it. `onTrail` puts a
cell at the end of the trail while its value is computed, and refuses a cell that is
already there: its value would need itself.
-/

namespace SheetCalc

/-- The cells under evaluation, the first one first. -/
abbrev Trail := List Cell

namespace Trail

/-- The trail with a cell at its end. -/
def push (trail : Trail) (cell : Cell) : Trail :=
  trail ++ [cell]

/-- The trail without its last cell. -/
def pop (trail : Trail) : Except OutOfRange Trail :=
  if trail = [] then .error .pop else .ok trail.dropLast

/-- The names of the cells of a trail and of a cell after them. -/
def names (trail : Trail) (cell : Cell) : Except ColumnError (List Text) :=
  (trail.push cell).mapM Cell.name

/-- The names of the cells of a trail and of a cell after them, as one text. -/
def describe (trail : Trail) (cell : Cell) : Except ColumnError Text :=
  (trail.names cell).map (Text.join " -> ")

/-- The fault of a cell that needs itself. It names the cells, which fails for a column
without a name. -/
def cycle (trail : Trail) (cell : Cell) (line : Int) : Fault :=
  match trail.names cell with
  | .ok names => .cycle names line
  | .error cause => .column cause

end Trail

/-- The state of an evaluation. -/
structure Context where
  snapshots : Snapshots
  trail : Trail
  deriving DecidableEq

/-- No row is edited and no cell is under evaluation. -/
def Context.fresh : Context :=
  ⟨.empty, []⟩

/-- An evaluation: it may read and change the context, and ends with a result or a fault. -/
abbrev Evaluation (α : Type) :=
  ExceptT Fault (StateM Context) α

namespace Evaluation

variable {α : Type}

/-- The outcome of an evaluation that starts in a context, and the context afterwards. -/
def outcome (evaluation : Evaluation α) (context : Context) : Except Fault α × Context :=
  (ExceptT.run evaluation).run context

/-- A result without an action leaves the context. -/
@[simp]
theorem outcome_pure (result : α) (context : Context) :
    outcome (pure result) context = (.ok result, context) :=
  rfl

/-- A fault leaves the context. -/
@[simp]
theorem outcome_throw (fault : Fault) (context : Context) :
    outcome (throw fault : Evaluation α) context = (.error fault, context) :=
  rfl

/-- Reading the context leaves it. -/
@[simp]
theorem outcome_get (context : Context) :
    outcome (get : Evaluation Context) context = (.ok context, context) :=
  rfl

/-- Changing the context gives no result of interest. -/
@[simp]
theorem outcome_modify (change : Context → Context) (context : Context) :
    outcome (modify change : Evaluation PUnit) context = (.ok (), change context) :=
  rfl

/-- The second of two evaluations starts in the context that the first one left, and does not
start after a fault. -/
theorem outcome_bind {β : Type} (first : Evaluation α) (second : α → Evaluation β)
    (context : Context) :
    outcome (first >>= second) context =
      match outcome first context with
      | (.ok result, after) => outcome (second result) after
      | (.error fault, after) => (.error fault, after) := by
  simp only [outcome, ExceptT.run_bind, StateT.run_bind]
  cases (first.run).run context with
  | mk result after => cases result <;> rfl

/-- A result that needs no context. -/
def ofExcept (result : Except Fault α) : Evaluation α :=
  ExceptT.mk (pure result)

/-- A result that needs no context leaves it. -/
@[simp]
theorem outcome_ofExcept (result : Except Fault α) (context : Context) :
    outcome (ofExcept result) context = (result, context) :=
  rfl

/-- Runs `body` with a cell at the end of the trail, unless the cell is there already. The
cell leaves the trail afterwards, also when `body` fails. -/
def onTrail (cell : Cell) (line : Int) (body : Evaluation α) : Evaluation α :=
  ExceptT.mk fun context =>
    if cell ∈ context.trail then (.error (context.trail.cycle cell line), context)
    else
      let (result, after) := outcome body { context with trail := context.trail.push cell }
      (result, { after with trail := after.trail.dropLast })

/-- A cell that is on the trail has no value, and the context stays. -/
theorem outcome_onTrail_of_mem {cell : Cell} {context : Context} (line : Int)
    (body : Evaluation α) (h : cell ∈ context.trail) :
    outcome (onTrail cell line body) context =
      (.error (context.trail.cycle cell line), context) := by
  simp [outcome, onTrail, ExceptT.run, ExceptT.mk, StateT.run, h]

/-- A cell that is not on the trail is on it for `body` alone. -/
theorem outcome_onTrail_of_not_mem {cell : Cell} {context : Context} (line : Int)
    (body : Evaluation α) (h : cell ∉ context.trail) :
    outcome (onTrail cell line body) context =
      let (result, after) := outcome body { context with trail := context.trail.push cell }
      (result, { after with trail := after.trail.dropLast }) := by
  simp [outcome, onTrail, ExceptT.run, ExceptT.mk, StateT.run, h]

/-- Puts cells on the trail, each with its line and inside the one before it, and gives the
trail at the last one. -/
def nestOnTrail : List (Cell × Int) → Evaluation Trail
  | [] => do return (← get).trail
  | (cell, line) :: cells => onTrail cell line (nestOnTrail cells)

end Evaluation

end SheetCalc
