/-!
# Signed indices

A row or a column may be given by a negative index, which counts from the end of the
list: `-1` is the last entry.
-/

namespace SheetCalc

/-- What was done with a list at an index that it does not have. -/
inductive OutOfRange where
  | get
  | set
  | pop
  /-- The index is too far below zero for any list. -/
  | tooFarBack
  deriving DecidableEq

/-- The wording of a missing entry. -/
def OutOfRange.message : OutOfRange → String
  | .get => "list index out of range"
  | .set => "list assignment index out of range"
  | .pop => "pop from empty list"
  | .tooFarBack => "cannot fit 'int' into an index-sized integer"

/-- The place, counted from the front, that a signed index means in a list of `length`
entries. -/
def signedPlace? (length : Nat) (index : Int) : Option Nat :=
  if 0 ≤ index then if index.toNat < length then some index.toNat else none
  else if (-index).toNat ≤ length then some (length - (-index).toNat)
  else none

/-- The least index with which a list is looked at: the least integer of 64 bits. -/
def leastIndex : Int := -0x8000000000000000

variable {α : Type}

/-- The entry of a list at a signed index. -/
def signedGet (list : List α) (index : Int) : Except OutOfRange α :=
  if index < leastIndex then .error .tooFarBack
  else
    match (signedPlace? list.length index).bind (list[·]?) with
    | some entry => .ok entry
    | none => .error .get

/-- An index that is not negative counts from the front. -/
theorem signedGet_natCast (list : List α) (index : Nat) :
    signedGet list index =
      match list[index]? with
      | some entry => .ok entry
      | none => .error .get := by
  have near : ¬ (index : Int) < leastIndex := by
    unfold leastIndex
    omega
  unfold signedGet signedPlace?
  by_cases h : index < list.length <;> simp [near, h]

/-- The entry at a signed index is one of the list. -/
theorem mem_of_signedGet {list : List α} {index : Int} {entry : α}
    (h : signedGet list index = .ok entry) : entry ∈ list := by
  unfold signedGet at h
  split at h
  · cases h
  · split at h
    · next hentry =>
      obtain rfl := Except.ok.inj h
      obtain ⟨place, -, hplace⟩ := Option.bind_eq_some_iff.mp hentry
      exact List.mem_of_getElem? hplace
    · cases h

/-- A list with the entry at a signed index replaced. -/
def signedSet (list : List α) (index : Int) (entry : α) : Except OutOfRange (List α) :=
  if index < leastIndex then .error .tooFarBack
  else
    match signedPlace? list.length index with
    | some place => .ok (list.set place entry)
    | none => .error .set

end SheetCalc
