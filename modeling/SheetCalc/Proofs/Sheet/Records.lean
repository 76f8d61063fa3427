import Mathlib.Data.List.DropRight
import SheetCalc.Sheet
import SheetCalc.Snapshots

/-!
# Records under edits

What an edit does to a record is said field by field. `getElem?_merge` reads a merged record
off the three records that it comes from, and `Record.editedBy` is the snapshot of a row
after one more edit: `getElem?_editedBy_self` gives its edited field,
`getElem?_editedBy_of_ne` the others.
-/

namespace SheetCalc

namespace Text

/-- Trimming leaves a trimmed text. -/
theorem trim_trim (text : Text) : trim (trim text) = trim text := by
  have hstart : trimStart (trim text) = trim text := by
    refine List.dropWhile_eq_self_iff.mpr fun hpos => ?_
    have hfront : trim text <+: trimStart text := List.rdropWhile_prefix isBlank _
    have hlength := Nat.lt_of_lt_of_le hpos hfront.length_le
    rw [hfront.getElem hpos]
    exact List.dropWhile_eq_self_iff.mp (List.dropWhile_idempotent isBlank text) hlength
  rw [trim, hstart]
  exact List.rdropWhile_idempotent isBlank (trimStart text)

end Text

/-- The fields of a line are trimmed already. -/
theorem Sheet.map_trim_getElem?_fields (line : Text) (place : Nat) :
    (fields line)[place]?.map Text.trim = (fields line)[place]? := by
  rw [fields, List.getElem?_map, Option.map_map]
  exact congrArg (fun trimmed => (rawFields line)[place]?.map trimmed) (funext Text.trim_trim)

namespace Record

/-- A field that an edit leaves is what the earlier edits made of it. -/
theorem mergeField_of_left (base earlier : Text) : mergeField base earlier base = Text.trim earlier := by
  unfold mergeField
  by_cases h : Text.trim base = Text.trim earlier <;> simp [h]

/-- A field that is edited for the first time has its new value. -/
theorem mergeField_of_first {base earlier : Text} (h : Text.trim earlier = Text.trim base)
    (edited : Text) : mergeField base earlier edited = Text.trim edited := by
  unfold mergeField
  by_cases hsame : Text.trim edited = Text.trim base <;> simp [h, hsame]

/-- A merged record has the fields that all three records have. -/
theorem getElem?_merge (base earlier edited : Record) (place : Nat) :
    (merge base earlier edited)[place]? =
      base[place]?.bind fun base => earlier[place]?.bind fun earlier =>
        edited[place]?.map (mergeField base earlier) := by
  induction base generalizing earlier edited place with
  | nil => simp [merge]
  | cons first base ih =>
      cases earlier with
      | nil => simp [merge]
      | cons second earlier =>
          cases edited with
          | nil => simp [merge]
          | cons third edited =>
              cases place with
              | zero => rfl
              | succ place => exact ih earlier edited place

/-- A merged record is as long as the shortest of the three. -/
theorem length_merge (base earlier edited : Record) :
    (merge base earlier edited).length = min base.length (min earlier.length edited.length) := by
  induction base generalizing earlier edited with
  | nil => simp [merge]
  | cons first base ih =>
      cases earlier with
      | nil => simp [merge]
      | cons second earlier =>
          cases edited with
          | nil => simp [merge]
          | cons third edited =>
              simp only [merge, List.length_cons, ih]
              omega

/-- The snapshot of a row after one more edit. The first edit keeps its value as it is. -/
def editedBy (base : Record) (earlier : Option Record) (column : Nat) (value : Text) : Record :=
  match earlier with
  | none => base.set column value
  | some earlier => merge base earlier (base.set column value)

variable {base : Record} {earlier : Option Record} {column : Nat} {value : Text}

/-- An edit keeps the length of the record, when the earlier edits have. -/
theorem length_editedBy (h : ∀ record, earlier = some record → record.length = base.length) :
    (base.editedBy earlier column value).length = base.length := by
  cases earlier with
  | none => exact List.length_set
  | some record => simp [editedBy, length_merge, h record rfl]

/-- The fields that are not edited: the first edit leaves them, and a later one trims them. -/
theorem getElem?_editedBy_of_ne
    (h : ∀ record, earlier = some record → record.length = base.length) {place : Nat}
    (hplace : place ≠ column) :
    (base.editedBy earlier column value)[place]? =
      match earlier with
      | none => base[place]?
      | some record => record[place]?.map Text.trim := by
  cases earlier with
  | none => exact List.getElem?_set_ne (Ne.symm hplace)
  | some record =>
      have hlength := h record rfl
      simp only [editedBy, getElem?_merge, List.getElem?_set_ne (Ne.symm hplace)]
      by_cases hinside : place < base.length
      · have hrecord : place < record.length := hlength ▸ hinside
        simp [hinside, hrecord, mergeField_of_left]
      · have hrecord : ¬ place < record.length := hlength ▸ hinside
        simp [hinside, hrecord]

/-- The field that is edited for the first time: the first edit of the record keeps its value, and
a later one trims it. -/
theorem getElem?_editedBy_self (hcolumn : column < base.length) (value : Text)
    (h : ∀ record, earlier = some record → record[column]? = base[column]?) :
    (base.editedBy earlier column value)[column]? =
      match earlier with
      | none => some value
      | some _ => some (Text.trim value) := by
  cases earlier with
  | none => simp [editedBy, hcolumn]
  | some record =>
      have hrecord : record[column]? = some base[column] :=
        (h record rfl).trans (List.getElem?_eq_getElem hcolumn)
      simp [editedBy, getElem?_merge, hcolumn, hrecord, mergeField_of_first rfl]

end Record

end SheetCalc
