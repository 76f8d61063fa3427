import SheetCalc.Sheet

/-!
# Snapshots

While a sheet is evaluated, a row that was edited has a snapshot: the whole record as
the edits so far left it. An edit starts from the record of the sheet with one field
replaced; `Record.merge` joins it with the snapshot of earlier edits.
-/

namespace SheetCalc

/-- One field of a merged record. A field that the edit left as it is in the sheet keeps
what an earlier edit made of it. -/
def Record.mergeField (base earlier edited : Text) : Text :=
  let base := Text.trim base
  let earlier := Text.trim earlier
  let edited := Text.trim edited
  if edited = base ∧ edited ≠ earlier then earlier else edited

/-- The record that has both an earlier edit and a new one. It ends with the shortest of the
three records. -/
def Record.merge : (base earlier edited : Record) → Record
  | base :: bases, earlier :: earliers, edited :: editeds =>
    mergeField base earlier edited :: merge bases earliers editeds
  | _, _, _ => []

/-- The snapshots of edited rows, in the order of the rows. -/
structure Snapshots where
  entries : List (Int × Record)
  ordered : entries.Pairwise fun earlier later => earlier.1 < later.1
  deriving DecidableEq

namespace Snapshots

/-- No row is edited. -/
def empty : Snapshots :=
  ⟨[], .nil⟩

/-- The snapshot of a row, if it was edited. -/
def get? (snapshots : Snapshots) (row : Int) : Option Record :=
  snapshots.entries.lookup row

/-- Entries with the snapshot of a row put in its place. -/
def insertEntry (row : Int) (record : Record) : List (Int × Record) → List (Int × Record)
  | [] => [(row, record)]
  | (other, snapshot) :: entries =>
    if row < other then (row, record) :: (other, snapshot) :: entries
    else if row = other then (row, record) :: entries
    else (other, snapshot) :: insertEntry row record entries

/-- Inserting an entry brings in no other entry. -/
theorem mem_insertEntry {row : Int} {record : Record} {entries : List (Int × Record)}
    {entry : Int × Record} (h : entry ∈ insertEntry row record entries) :
    entry = (row, record) ∨ entry ∈ entries := by
  induction entries with
  | nil => exact .inl (List.mem_singleton.mp h)
  | cons head entries ih =>
    obtain ⟨other, snapshot⟩ := head
    unfold insertEntry at h
    split at h
    · exact List.mem_cons.mp h
    · split at h
      · exact (List.mem_cons.mp h).imp_right (List.mem_cons_of_mem _)
      · rcases List.mem_cons.mp h with same | inside
        · exact .inr (same ▸ List.mem_cons_self)
        · exact (ih inside).imp_right (List.mem_cons_of_mem _)

/-- Inserting an entry keeps the order of the rows. -/
theorem ordered_insertEntry (row : Int) (record : Record) {entries : List (Int × Record)}
    (h : entries.Pairwise fun earlier later => earlier.1 < later.1) :
    (insertEntry row record entries).Pairwise fun earlier later => earlier.1 < later.1 := by
  induction entries with
  | nil => exact List.pairwise_singleton _ _
  | cons head entries ih =>
    obtain ⟨other, snapshot⟩ := head
    obtain ⟨first, rest⟩ := List.pairwise_cons.mp h
    unfold insertEntry
    split
    · next before =>
      refine List.pairwise_cons.mpr ⟨fun entry inside => ?_, h⟩
      rcases List.mem_cons.mp inside with rfl | inside
      · exact before
      · exact Int.lt_trans before (first entry inside)
    · next notBefore =>
      split
      · next same =>
        exact List.pairwise_cons.mpr ⟨fun entry inside => same ▸ first entry inside, rest⟩
      · next other_ne =>
        refine List.pairwise_cons.mpr ⟨fun entry inside => ?_, ih rest⟩
        rcases mem_insertEntry inside with rfl | inside
        · exact Int.lt_iff_le_and_ne.mpr ⟨Int.not_lt.mp notBefore, Ne.symm other_ne⟩
        · exact first entry inside

/-- The snapshots with that of one row replaced. -/
def set (snapshots : Snapshots) (row : Int) (record : Record) : Snapshots :=
  ⟨insertEntry row record snapshots.entries, ordered_insertEntry row record snapshots.ordered⟩

/-- An inserted entry is found at its row, and at no other row. -/
theorem lookup_insertEntry (row other : Int) (record : Record) (entries : List (Int × Record)) :
    (insertEntry row record entries).lookup other =
      if other = row then some record else entries.lookup other := by
  induction entries with
  | nil =>
    by_cases same : other = row
    · simp [insertEntry, same]
    · have skip : (other == row) = false := by simpa using same
      simp [insertEntry, List.lookup_cons, same, skip]
  | cons head entries ih =>
    obtain ⟨place, snapshot⟩ := head
    unfold insertEntry
    by_cases same : other = row
    · subst same
      split
      · simp
      · split
        · simp
        · next different =>
          have skip : (other == place) = false := by simpa using different
          simp [List.lookup_cons, skip, ih]
    · have skip : (other == row) = false := by simpa using same
      split
      · simp [List.lookup_cons, skip]
      · split
        · next here =>
          subst here
          simp [List.lookup_cons, skip]
        · simp only [List.lookup_cons, ih, same, if_false]

/-- A row has the snapshot that was set last. -/
theorem get?_set (snapshots : Snapshots) (row other : Int) (record : Record) :
    (snapshots.set row record).get? other =
      if other = row then some record else snapshots.get? other :=
  lookup_insertEntry row other record snapshots.entries

end Snapshots

end SheetCalc
