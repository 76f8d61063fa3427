import Mathlib.Logic.Basic
import SheetCalc.Proofs.Formula.Leafwise

/-!
# Leaves that are replaced

To replace the leaves of a tree by trees is a substitution. Main theorem: `substitution_laws`.
Leaves that are replaced by themselves leave the tree as it is, the leaves afterwards are those of
the replacements, and two substitutions in a row are one. By `traverse_pure` the traversal of a tree
by actions without an effect is a substitution too.
-/

namespace SheetCalc.Expr

variable {α β γ : Type}

mutual

/-- A tree whose leaves are replaced by themselves stays as it is. -/
theorem bind_leaf : (expr : Expr α) → expr.bind .leaf = expr
  | .leaf _ => rfl
  | .array elements => congrArg Expr.array (bindAll_leaf elements)
  | .call _ arguments _ => congrArg (Expr.call _ · _) (bindAll_leaf arguments)

/-- Trees whose leaves are replaced by themselves stay as they are. -/
theorem bindAll_leaf : (exprs : List (Expr α)) → bindAll exprs .leaf = exprs
  | [] => rfl
  | expr :: exprs => congr_arg₂ List.cons (bind_leaf expr) (bindAll_leaf exprs)

end

mutual

/-- The leaves of replacements are replaced in the replacements. -/
theorem bind_bind (f : α → Expr β) (g : β → Expr γ) :
    (expr : Expr α) → (expr.bind f).bind g = expr.bind fun content => (f content).bind g
  | .leaf _ => rfl
  | .array elements => congrArg Expr.array (bindAll_bindAll f g elements)
  | .call _ arguments _ => congrArg (Expr.call _ · _) (bindAll_bindAll f g arguments)

/-- The leaves of replacements are replaced in the replacements, in one tree after the other. -/
theorem bindAll_bindAll (f : α → Expr β) (g : β → Expr γ) :
    (exprs : List (Expr α)) →
      bindAll (bindAll exprs f) g = bindAll exprs fun content => (f content).bind g
  | [] => rfl
  | expr :: exprs => congr_arg₂ List.cons (bind_bind f g expr) (bindAll_bindAll f g exprs)

end

section Traverse

variable {m : Type → Type} [Monad m] [LawfulMonad m] (f : α → β)

mutual

/-- Actions that only compute a leaf replace the leaves of a tree. -/
theorem traverse_pure : (expr : Expr α) →
    expr.traverse (fun content => (pure (f content) : m β)) =
      pure (expr.bind fun content => .leaf (f content))
  | .leaf content => by rw [traverse, pure_bind, bind]
  | .array elements => by rw [traverse, traverseAll_pure elements, pure_bind, bind]
  | .call name arguments line => by rw [traverse, traverseAll_pure arguments, pure_bind, bind]

/-- Actions that only compute a leaf replace the leaves of one tree after the other. -/
theorem traverseAll_pure : (exprs : List (Expr α)) →
    traverseAll (fun content => (pure (f content) : m β)) exprs =
      pure (bindAll exprs fun content => .leaf (f content))
  | [] => rfl
  | expr :: exprs => by
    rw [traverseAll, traverse_pure expr, pure_bind, traverseAll_pure exprs, pure_bind, bindAll]

end

end Traverse

/-- How leaves and their replacement fit together, for all trees and all replacements, which may be
trees of any kind. When every leaf is replaced by itself, the tree stays as it is. After a
replacement, the leaves from left to right are those of what replaced one leaf after the other. Two
replacements in a row are one, in which the second is made in what the first one puts in. -/
theorem substitution_laws (expr : Expr α) (f : α → Expr β) (g : β → Expr γ) :
    expr.bind .leaf = expr ∧
    (expr.bind f).leaves = expr.leaves.flatMap (fun content => (f content).leaves) ∧
    (expr.bind f).bind g = expr.bind fun content => (f content).bind g :=
  ⟨bind_leaf expr, leaves_bind f expr, bind_bind f g expr⟩

/-- Leaves may be replaced by calls, by arrays and by nothing that has a leaf. -/
example :
    let expr : Expr Nat := .call "f".toList [.leaf 0, .array [.leaf 1, .leaf 2]] 5
    let replace : Nat → Expr Nat
      | 0 => .call "g".toList [.leaf 3, .leaf 4] 6
      | 1 => .array []
      | other => .leaf other
    (expr.bind replace).leaves = [3, 4, 2] :=
  rfl

end SheetCalc.Expr
