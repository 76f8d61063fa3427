import Mathlib.Data.List.Forall2
import SheetCalc.Expr.Basic

/-!
# Trees that differ in their leaves

The shape of a tree is what it is without its leaves: its calls, with their names and lines, and its
arrays. `Leafwise` goes through two trees side by side and relates their leaves. By `leafwise_iff`
this says that the trees have the same shape, and that the leaves which they have from left to right
are related one by one.
-/

namespace SheetCalc.Expr

variable {α β : Type}

/-- The calls and the arrays of a tree, with nothing at its leaves. -/
def shape (expr : Expr α) : Expr Unit :=
  expr.bind fun _ => .leaf ()

/-- The shapes of trees. -/
def shapes (exprs : List (Expr α)) : List (Expr Unit) :=
  bindAll exprs fun _ => .leaf ()

mutual

/-- Two trees have the same calls and arrays in the same places, and related leaves. -/
inductive Leafwise (Related : α → β → Prop) : Expr α → Expr β → Prop
  | leaf {content : α} {other : β} : Related content other →
      Leafwise Related (.leaf content) (.leaf other)
  | array {elements : List (Expr α)} {others : List (Expr β)} :
      LeafwiseAll Related elements others → Leafwise Related (.array elements) (.array others)
  | call {name : Text} {arguments : List (Expr α)} {others : List (Expr β)} {line : Int} :
      LeafwiseAll Related arguments others →
      Leafwise Related (.call name arguments line) (.call name others line)

/-- Trees in two rows have the same calls and arrays in the same places, and related leaves. -/
inductive LeafwiseAll (Related : α → β → Prop) : List (Expr α) → List (Expr β) → Prop
  | nil : LeafwiseAll Related [] []
  | cons {expr : Expr α} {other : Expr β} {exprs : List (Expr α)} {others : List (Expr β)} :
      Leafwise Related expr other → LeafwiseAll Related exprs others →
      LeafwiseAll Related (expr :: exprs) (other :: others)

end

mutual

/-- The leaves of a tree whose leaves are replaced are those of the replacements. -/
theorem leaves_bind (f : α → Expr β) :
    (expr : Expr α) → (expr.bind f).leaves = expr.leaves.flatMap fun content => (f content).leaves
  | .leaf content => by simp [bind, leaves]
  | .array elements => leavesOf_bindAll f elements
  | .call _ arguments _ => leavesOf_bindAll f arguments

/-- The leaves of trees whose leaves are replaced are those of the replacements. -/
theorem leavesOf_bindAll (f : α → Expr β) :
    (exprs : List (Expr α)) →
      leavesOf (bindAll exprs f) = (leavesOf exprs).flatMap fun content => (f content).leaves
  | [] => rfl
  | expr :: exprs => by
    rw [bindAll, leavesOf, leavesOf, List.flatMap_append, leaves_bind f expr,
      leavesOf_bindAll f exprs]

end

/-- Trees of one shape have equally many leaves. -/
theorem length_leaves_of_shape {expr : Expr α} {other : Expr β} (h : expr.shape = other.shape) :
    expr.leaves.length = other.leaves.length := by
  have hlength {γ : Type} (expr : Expr γ) : expr.shape.leaves.length = expr.leaves.length := by
    rw [shape, leaves_bind]
    simp [leaves]
  rw [← hlength expr, h, hlength other]

variable {Related : α → β → Prop}

mutual

/-- Trees whose leaves are related have the same shape. -/
theorem Leafwise.shape_eq {expr : Expr α} {other : Expr β} :
    Leafwise Related expr other → expr.shape = other.shape
  | .leaf _ => rfl
  | .array helements => congrArg Expr.array helements.shapes_eq
  | .call harguments => congrArg (Expr.call _ · _) harguments.shapes_eq

/-- Rows of trees whose leaves are related have the same shapes. -/
theorem LeafwiseAll.shapes_eq {exprs : List (Expr α)} {others : List (Expr β)} :
    LeafwiseAll Related exprs others → shapes exprs = shapes others
  | .nil => rfl
  | .cons hfirst hrest => congr_arg₂ List.cons hfirst.shape_eq hrest.shapes_eq

end

mutual

/-- The leaves of such trees are related one by one. -/
theorem Leafwise.leaves_related {expr : Expr α} {other : Expr β} :
    Leafwise Related expr other → List.Forall₂ Related expr.leaves other.leaves
  | .leaf hcontent => .cons hcontent .nil
  | .array helements => helements.leaves_related
  | .call harguments => harguments.leaves_related

/-- The leaves of such rows of trees are related one by one. -/
theorem LeafwiseAll.leaves_related {exprs : List (Expr α)} {others : List (Expr β)} :
    LeafwiseAll Related exprs others → List.Forall₂ Related (leavesOf exprs) (leavesOf others)
  | .nil => .nil
  | .cons hfirst hrest => List.rel_append hfirst.leaves_related hrest.leaves_related

end

/-- Each leaf of the first tree is related to one of the second. -/
theorem Leafwise.exists_related_of_mem {expr : Expr α} {other : Expr β}
    (h : Leafwise Related expr other) {content : α} (hmem : content ∈ expr.leaves) :
    ∃ related, Related content related := by
  have hleaves : List.Forall₂ (fun content _ => (∃ related, Related content related) ∧ True)
      expr.leaves other.leaves :=
    h.leaves_related.imp fun _ related hrelated => ⟨⟨related, hrelated⟩, trivial⟩
  exact ((List.forall₂_and_left _ _).mp hleaves).1 content hmem

/-- Each leaf of the second tree is related to one of the first. -/
theorem Leafwise.exists_leaf_of_mem {expr : Expr α} {other : Expr β}
    (h : Leafwise Related expr other) {related : β} (hmem : related ∈ other.leaves) :
    ∃ content ∈ expr.leaves, Related content related := by
  have hleaves := h.leaves_related
  obtain ⟨place, hplace, rfl⟩ := List.mem_iff_getElem.mp hmem
  have hinside : place < expr.leaves.length := hleaves.length_eq.symm ▸ hplace
  exact ⟨expr.leaves[place], List.getElem_mem hinside, hleaves.get hinside hplace⟩

mutual

/-- Trees of one shape are gone through side by side. -/
theorem leafwise_of_shape : (expr : Expr α) → (other : Expr β) → expr.shape = other.shape →
    List.Forall₂ Related expr.leaves other.leaves → Leafwise Related expr other
  | .leaf _, .leaf _, _, hleaves => .leaf (List.forall₂_cons.mp hleaves).1
  | .array elements, .array others, hshape, hleaves =>
    .array (leafwiseAll_of_shapes elements others (Expr.array.inj hshape) hleaves)
  | .call name arguments line, .call _ others _, hshape, hleaves => by
    obtain ⟨rfl, hshapes, rfl⟩ := Expr.call.inj hshape
    exact .call (leafwiseAll_of_shapes arguments others hshapes hleaves)

/-- Rows of trees of the same shapes are gone through side by side. -/
theorem leafwiseAll_of_shapes : (exprs : List (Expr α)) → (others : List (Expr β)) →
    shapes exprs = shapes others → List.Forall₂ Related (leavesOf exprs) (leavesOf others) →
    LeafwiseAll Related exprs others
  | [], [], _, _ => .nil
  | expr :: exprs, other :: others, hshapes, hleaves => by
    obtain ⟨hfirst, hrest⟩ : expr.shape = other.shape ∧ shapes exprs = shapes others :=
      List.cons.inj hshapes
    -- The first trees have equally many leaves, so the leaves are divided alike.
    have hlength := length_leaves_of_shape hfirst
    have hfront := List.forall₂_take expr.leaves.length hleaves
    have hback := List.forall₂_drop expr.leaves.length hleaves
    rw [leavesOf, leavesOf, List.take_left, hlength, List.take_left] at hfront
    rw [leavesOf, leavesOf, List.drop_left, hlength, List.drop_left] at hback
    exact .cons (leafwise_of_shape expr other hfirst hfront)
      (leafwiseAll_of_shapes exprs others hrest hback)

end

/-- The leaves of two trees are related side by side exactly when the trees have the same shape and
their leaves are related one by one. -/
theorem leafwise_iff {expr : Expr α} {other : Expr β} :
    Leafwise Related expr other ↔
      expr.shape = other.shape ∧ List.Forall₂ Related expr.leaves other.leaves :=
  ⟨fun h => ⟨h.shape_eq, h.leaves_related⟩, fun h => leafwise_of_shape expr other h.1 h.2⟩

section Traverse

variable {γ : Type} {m : Type → Type} [Monad m] {f : α → m γ} {g : β → m γ}

mutual

/-- Actions that are the same on related leaves do the same on the trees. -/
theorem Leafwise.traverse_eq
    (hactions : ∀ content other, Related content other → f content = g other)
    {expr : Expr α} {other : Expr β} :
    Leafwise Related expr other → expr.traverse f = other.traverse g
  | .leaf hcontent => by rw [traverse, traverse, hactions _ _ hcontent]
  | .array helements => by rw [traverse, traverse, helements.traverseAll_eq hactions]
  | .call harguments => by rw [traverse, traverse, harguments.traverseAll_eq hactions]

/-- Actions that are the same on related leaves do the same on rows of trees. -/
theorem LeafwiseAll.traverseAll_eq
    (hactions : ∀ content other, Related content other → f content = g other)
    {exprs : List (Expr α)} {others : List (Expr β)} :
    LeafwiseAll Related exprs others → traverseAll f exprs = traverseAll g others
  | .nil => rfl
  | .cons hfirst hrest => by
    rw [traverseAll, traverseAll, hfirst.traverse_eq hactions, hrest.traverseAll_eq hactions]

end

end Traverse

end SheetCalc.Expr
