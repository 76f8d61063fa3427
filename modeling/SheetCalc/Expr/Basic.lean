import SheetCalc.Builtin.Name
import SheetCalc.Column
import SheetCalc.Value

/-!
# Expressions

An expression is a tree of calls and arrays over leaves. The leaves of a formula as
written are references to cells and literals; once every reference is replaced by
what its cell holds, they are literals. Trees over any kind of leaf share one type, so
that "no reference is left" is said by the type of the leaves.
-/

namespace SheetCalc

/-- A tree of function calls and arrays over leaves. A call knows the line of its cell. -/
inductive Expr (α : Type) where
  | leaf (content : α)
  | array (elements : List (Expr α))
  | call (name : Text) (arguments : List (Expr α)) (line : Int)

/-- A formula: the call at its root. -/
structure Formula (α : Type) where
  name : Text
  arguments : List (Expr α)
  line : Int

/-- The tree of a formula. -/
def Formula.toExpr {α : Type} (formula : Formula α) : Expr α :=
  .call formula.name formula.arguments formula.line

/-- A reference to a cell: its column label, its row, and how it was written. -/
structure Reference where
  column : Text
  row : Int
  text : Text
  deriving DecidableEq

/-- The coordinates of a reference: the column in upper case followed by the row. -/
def Reference.coordinates (reference : Reference) : Text :=
  Text.upper reference.column ++ Text.ofInt reference.row

/-- A leaf of a formula as written. -/
inductive Leaf where
  | reference (reference : Reference)
  | literal (literal : Literal)
  deriving DecidableEq

/-- The text of a leaf: a reference as it was written. -/
def Leaf.text : Leaf → Text
  | .reference cell => cell.text
  | .literal value => value.text

namespace Expr

variable {α β : Type}

mutual

/-- The leaves of a tree, from left to right. -/
def leaves : Expr α → List α
  | .leaf content => [content]
  | .array elements => leavesOf elements
  | .call _ arguments _ => leavesOf arguments

/-- The leaves of trees in a row. -/
def leavesOf : List (Expr α) → List α
  | [] => []
  | expr :: exprs => expr.leaves ++ leavesOf exprs

end

/-- The leaves of trees in a row are the leaves of one after the other. -/
theorem leavesOf_eq_flatMap (exprs : List (Expr α)) : leavesOf exprs = exprs.flatMap leaves := by
  induction exprs with
  | nil => rfl
  | cons expr exprs ih => simp [leavesOf, ih]

mutual

/-- The tree with every leaf replaced by a tree. -/
def bind (expr : Expr α) (f : α → Expr β) : Expr β :=
  match expr with
  | .leaf content => f content
  | .array elements => .array (bindAll elements f)
  | .call name arguments line => .call name (bindAll arguments f) line

/-- Trees with every leaf replaced by a tree. -/
def bindAll (exprs : List (Expr α)) (f : α → Expr β) : List (Expr β) :=
  match exprs with
  | [] => []
  | expr :: exprs => expr.bind f :: bindAll exprs f

end

/-- Replacing the leaves of trees in a row replaces them in each tree. -/
theorem bindAll_eq_map (exprs : List (Expr α)) (f : α → Expr β) :
    bindAll exprs f = exprs.map (·.bind f) := by
  induction exprs with
  | nil => rfl
  | cons expr exprs ih => simp [bindAll, ih]

mutual

/-- The tree with every leaf replaced by the result of an action on it. The actions run
from left to right. -/
def traverse {m : Type → Type} [Monad m] (f : α → m β) : Expr α → m (Expr β)
  | .leaf content => do return .leaf (← f content)
  | .array elements => do return .array (← traverseAll f elements)
  | .call name arguments line => do return .call name (← traverseAll f arguments) line

/-- Trees with every leaf replaced by the result of an action on it. -/
def traverseAll {m : Type → Type} [Monad m] (f : α → m β) : List (Expr α) → m (List (Expr β))
  | [] => pure []
  | expr :: exprs => do
    let first ← traverse f expr
    let rest ← traverseAll f exprs
    return first :: rest

end

mutual

/-- The text of a tree, given the text of a leaf. A call says whether its name is that of a
builtin function. -/
def text (leafText : α → Text) : Expr α → Text
  | .leaf content => leafText content
  | .array elements => '[' :: Text.join ", " (texts leafText elements) ++ [']']
  | .call name arguments _ =>
    (if (Builtin.ofName? name).isSome then "builtin function: " else "function: ").toList ++
      name ++ '(' :: Text.join ", " (texts leafText arguments) ++ [')']

/-- The texts of trees. -/
def texts (leafText : α → Text) : List (Expr α) → List Text
  | [] => []
  | expr :: exprs => text leafText expr :: texts leafText exprs

end

/-- The texts of trees are their texts one by one. -/
theorem texts_eq_map (leafText : α → Text) (exprs : List (Expr α)) :
    texts leafText exprs = exprs.map (text leafText) := by
  induction exprs with
  | nil => rfl
  | cons expr exprs ih => simp [texts, ih]

mutual

/-- Two trees are the same. -/
def same [DecidableEq α] : Expr α → Expr α → Bool
  | .leaf left, .leaf right => left = right
  | .array left, .array right => sameAll left right
  | .call name arguments line, .call name' arguments' line' =>
    name = name' && sameAll arguments arguments' && line = line'
  | _, _ => false

/-- Trees in two rows are the same, one by one. -/
def sameAll [DecidableEq α] : List (Expr α) → List (Expr α) → Bool
  | [], [] => true
  | left :: lefts, right :: rights => same left right && sameAll lefts rights
  | _, _ => false

end

mutual

/-- Trees are the same exactly when they are equal. -/
theorem same_iff [DecidableEq α] : (left right : Expr α) → (same left right = true ↔ left = right)
  | .leaf left, right => by cases right <;> simp [same]
  | .array elements, right => by
    cases right with
    | array others => simp [same, sameAll_iff elements others]
    | leaf | call => simp [same]
  | .call name arguments line, right => by
    cases right with
    | call name' arguments' line' =>
      simp [same, sameAll_iff arguments arguments', and_assoc]
    | leaf | array => simp [same]

/-- Rows of trees are the same exactly when they are equal. -/
theorem sameAll_iff [DecidableEq α] :
    (lefts rights : List (Expr α)) → (sameAll lefts rights = true ↔ lefts = rights)
  | [], rights => by cases rights <;> simp [sameAll]
  | left :: lefts, rights => by
    cases rights with
    | nil => simp [sameAll]
    | cons right rights => simp [sameAll, same_iff left right, sameAll_iff lefts rights]

end

instance [DecidableEq α] : DecidableEq (Expr α) := fun left right =>
  decidable_of_iff (same left right = true) (same_iff left right)

end Expr

end SheetCalc
