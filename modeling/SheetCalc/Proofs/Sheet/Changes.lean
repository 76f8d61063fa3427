import SheetCalc.Proofs.Sheet.Records

/-!
# Records under many changes

`Record.afterChanges` is what any number of changes leave of a record. The first change keeps
its new value as it is. From the second one on, each field is what `Record.fieldAfter` says: the
last new value that differs from the field of the sheet, trimmed. `afterChanges_append` says that
one more change is one more edit.
-/

namespace SheetCalc

/-- A new value for the field of a record. -/
structure Change where
  column : Nat
  value : Text

namespace Record

/-- The fields have no blanks around them. -/
def IsTrimmed (record : Record) : Prop :=
  ∀ field ∈ record, Text.trim field = field

/-- The new values of a column, trimmed, that differ from its field. -/
def newValues (field : Text) (column : Nat) (changes : List Change) : List Text :=
  ((changes.filter (·.column = column)).map fun change => Text.trim change.value).filter (· ≠ field)

/-- What many changes leave of a field: the last new value, or the field where there is none. -/
def fieldAfter (field : Text) (column : Nat) (changes : List Change) : Text :=
  (newValues field column changes).getLast?.getD field

/-- What changes leave of a record, if there is any change. A single change keeps its value as
it is. -/
def afterChanges (base : Record) : List Change → Option Record
  | [] => none
  | [change] => some (base.set change.column change.value)
  | changes => some (base.mapIdx fun column field => fieldAfter field column changes)

variable {base : Record} {field : Text} {column : Nat} {changes : List Change}

/-- From the second change on, each field is what the changes of its column leave of it. -/
theorem afterChanges_of_two_le (base : Record) (h : 2 ≤ changes.length) :
    base.afterChanges changes =
      some (base.mapIdx fun column field => fieldAfter field column changes) := by
  match changes, h with
  | _ :: _ :: _, _ => rfl

/-- One more change of a field. -/
theorem fieldAfter_append (field : Text) (column : Nat) (changes : List Change) (change : Change) :
    fieldAfter field column (changes ++ [change]) =
      if change.column = column ∧ Text.trim change.value ≠ field then Text.trim change.value
      else fieldAfter field column changes := by
  by_cases hcolumn : change.column = column
  · by_cases hvalue : Text.trim change.value = field
    · simp [fieldAfter, newValues, hcolumn, hvalue]
    · simp [fieldAfter, newValues, hcolumn, hvalue]
  · simp [fieldAfter, newValues, hcolumn]

/-- Two changes of different columns can be made in either order. -/
theorem fieldAfter_swap {first second : Change} (h : first.column ≠ second.column)
    (before rest : List Change) :
    fieldAfter field column (before ++ first :: second :: rest) =
      fieldAfter field column (before ++ second :: first :: rest) := by
  have hfilter : (before ++ first :: second :: rest).filter (·.column = column) =
      (before ++ second :: first :: rest).filter (·.column = column) := by
    by_cases hfirst : first.column = column
    · have hsecond : second.column ≠ column := fun hsecond => h (hfirst.trans hsecond.symm)
      simp [hfirst, hsecond]
    · simp [List.filter_cons, hfirst]
  rw [fieldAfter, newValues, hfilter]
  rfl

/-- Two changes of different columns leave the same record in either order. -/
theorem afterChanges_swap {first second : Change} (h : first.column ≠ second.column)
    (before rest : List Change) :
    base.afterChanges (before ++ first :: second :: rest) =
      base.afterChanges (before ++ second :: first :: rest) := by
  have hlength (one other : Change) : 2 ≤ (before ++ one :: other :: rest).length := by
    simp only [List.length_append, List.length_cons]
    omega
  rw [afterChanges_of_two_le base (hlength first second),
    afterChanges_of_two_le base (hlength second first)]
  simp only [fieldAfter_swap h]

/-- What changes leave of a field has no blanks around it. -/
theorem trim_fieldAfter (h : Text.trim field = field) (column : Nat) (changes : List Change) :
    Text.trim (fieldAfter field column changes) = fieldAfter field column changes := by
  unfold fieldAfter
  cases hlast : (newValues field column changes).getLast? with
  | none => exact h
  | some value =>
      have hmem := List.mem_of_getLast? hlast
      obtain ⟨change, -, rfl⟩ := List.mem_map.mp (List.mem_of_mem_filter hmem)
      exact Text.trim_trim change.value

/-- Only where nothing is changed there is no record. -/
theorem eq_nil_of_afterChanges (h : base.afterChanges changes = none) : changes = [] := by
  match changes, h with
  | [], _ => rfl
  | [_], h => cases h
  | _ :: _ :: _, h => cases h

/-- Apart from blanks, the fields of a changed record are what the changes leave of them. -/
theorem trim_of_afterChanges (htrimmed : base.IsTrimmed) {record : Record}
    (h : base.afterChanges changes = some record) (hfield : base[column]? = some field) :
    record[column]?.map Text.trim = some (fieldAfter field column changes) := by
  have hkept := htrimmed field (List.mem_of_getElem? hfield)
  match changes, h with
  | [change], h =>
      obtain rfl := Option.some.inj h
      have happend := fieldAfter_append field column [] change
      rw [List.nil_append] at happend
      rw [happend, List.getElem?_set]
      have hcolumn := (List.getElem?_eq_some_iff.mp hfield).1
      by_cases hhere : change.column = column
      · by_cases hvalue : Text.trim change.value = field
        · simp [hhere, hcolumn, hvalue, fieldAfter, newValues]
        · simp [hhere, hcolumn, hvalue]
      · simp [hhere, hfield, hkept, fieldAfter, newValues]
  | _ :: _ :: _, h =>
      obtain rfl := Option.some.inj h
      rw [List.getElem?_mapIdx, hfield, Option.map_some, Option.map_some, trim_fieldAfter hkept]

/-- One more change is one more edit of the record. -/
theorem afterChanges_append (htrimmed : base.IsTrimmed) (changes : List Change) (change : Change) :
    base.afterChanges (changes ++ [change]) =
      some (base.editedBy (base.afterChanges changes) change.column change.value) := by
  cases hrecord : base.afterChanges changes with
  | none =>
      obtain rfl := eq_nil_of_afterChanges hrecord
      rfl
  | some earlier =>
      have hlength : 2 ≤ (changes ++ [change]).length := by
        cases changes with
        | nil => cases hrecord
        | cons =>
            simp only [List.length_append, List.length_cons, List.length_nil]
            omega
      rw [afterChanges_of_two_le base hlength, Option.some.injEq]
      refine List.ext_getElem? fun column => ?_
      -- Merging sees the field of the sheet, the earlier field and the new value.
      rw [List.getElem?_mapIdx, editedBy, getElem?_merge]
      cases hfield : base[column]? with
      | none => rfl
      | some field =>
          have hcolumn := (List.getElem?_eq_some_iff.mp hfield).1
          have hkept := htrimmed field (List.mem_of_getElem? hfield)
          have htrim := trim_of_afterChanges htrimmed hrecord hfield
          obtain ⟨held, hheld, hafter⟩ := Option.map_eq_some_iff.mp htrim
          rw [Option.map_some, Option.bind_some, hheld, Option.bind_some, fieldAfter_append, ← hafter,
            List.getElem?_set]
          by_cases hhere : change.column = column
          · by_cases hvalue : Text.trim change.value = field
            · by_cases hsame : field = Text.trim held <;>
                simp [mergeField, hhere, hcolumn, hkept, hvalue, hsame]
            · simp [mergeField, hhere, hcolumn, hkept, hvalue]
          · simp [hhere, hfield, mergeField_of_left]

end Record

/-- The fields of a line have no blanks around them. -/
theorem Sheet.isTrimmed_fields (line : Text) : (fields line).IsTrimmed := by
  intro field hmem
  obtain ⟨raw, -, rfl⟩ := List.mem_map.mp hmem
  exact Text.trim_trim raw

end SheetCalc
