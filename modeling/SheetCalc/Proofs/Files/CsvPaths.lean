import Mathlib.Tactic.Common
import SheetCalc.Fault
import SheetCalc.Files.CsvPath
import SheetCalc.Proofs.Files.Places

/-!
# Admitted paths

What it takes for a path to be admitted, and what admission does to the tree. An input is admitted
when it is a CSV file, and the tree stays. An output is admitted when a CSV file can be written
there, and the tree has a file there afterwards. Other paths are refused; that a path cannot be
looked up, or that no file can be created there, is said of the way to its place.
-/

namespace SheetCalc.FileTree

variable {tree after : FileTree} {path : Path} {name : Text} {location : Location}
  {content : Bytes} {reason : AccessReason}

/-- There is a CSV file with this path. -/
def HasCsv (tree : FileTree) (path : Path) : Prop :=
  (∃ content, tree.read path.text = .ok content) ∧ path.hasCsvSuffix = true

/-- A CSV file with this path stands, or can be created, at a place. -/
def TakesCsv (tree : FileTree) (path : Path) (location : Location) : Prop :=
  tree.writable path.text = .ok location ∧ path.hasCsvSuffix = true

/-- The tree with an empty file at a place, if nothing stands there. -/
def touch (tree : FileTree) (location : Location) : FileTree :=
  if tree.at? location = none then tree.put location (.file []) else tree

/-- A place where something stands is left as it is. -/
theorem touch_of_at? (h : tree.at? location ≠ none) : tree.touch location = tree :=
  if_neg h

/-- What is put at a place replaces the empty file. -/
theorem put_touch (tree : FileTree) (location : Location) (entry : FileEntry) :
    (tree.touch location).put location entry = tree.put location entry := by
  unfold touch
  split
  · exact put_put tree location _ entry
  · rfl

/-- A file can be written at a place after the place was touched. -/
theorem writable_touch (h : tree.writable name = .ok location) :
    (tree.touch location).writable name = .ok location := by
  unfold touch
  split
  · exact writable_put h []
  · exact h

/-- A file that is there is read in the same way after a place was touched. -/
theorem read_touch (hplace : tree.at? location ≠ some .directory)
    (h : tree.read name = .ok content) : (tree.touch location).read name = .ok content := by
  unfold touch
  split
  · next hnone =>
    refine read_put_of_ne hplace ?_ h
    intro hsame
    obtain ⟨target, hlocate, hfile⟩ := read_eq_ok_iff.mp h
    obtain rfl : target = location := Except.ok.inj (hlocate.symm.trans hsame)
    cases hnone.symm.trans hfile
  · exact h

/-- What stands where a name leads is found. -/
theorem find_of_locate (h : tree.locate name = .ok location) :
    tree.find name = .ok (tree.at? location) := by
  rw [find, h]

/-- An input is admitted when it is a CSV file, and the tree stays. -/
theorem admitCsv_input_eq_ok_iff :
    tree.admitCsv path true = .ok after ↔ tree.HasCsv path ∧ after = tree := by
  rw [HasCsv, admitCsv]
  cases hlocate : tree.locate path.text with
  | error reason =>
      have hunread : ¬ ∃ content, tree.read path.text = .ok content := by
        intro ⟨content, hread⟩
        obtain ⟨location, hfound, -⟩ := read_eq_ok_iff.mp hread
        cases hlocate.symm.trans hfound
      cases reason <;> simp [find, hlocate, hunread]
  | ok location =>
      rw [find_of_locate hlocate]
      cases hplace : tree.at? location with
      | none => simp [read, hlocate, hplace]
      | some found =>
          cases found with
          | directory => simp [read, hlocate, hplace]
          | file content =>
              cases path.hasCsvSuffix <;> simp [read, hlocate, hplace, eq_comm]

/-- A refused input is no CSV file. -/
theorem not_hasCsv_of_refused {error : PathError} (h : tree.admitCsv path true = .error error) :
    ¬ tree.HasCsv path := by
  intro hcsv
  cases h.symm.trans (admitCsv_input_eq_ok_iff.mpr ⟨hcsv, rfl⟩)

/-- A way leads to a CSV file that is there. -/
theorem HasCsv.locate_ne_error (h : tree.HasCsv path) (reason : AccessReason) :
    tree.locate path.text ≠ .error reason := by
  obtain ⟨⟨content, hread⟩, -⟩ := h
  obtain ⟨location, hlocate, -⟩ := read_eq_ok_iff.mp hread
  rw [hlocate]
  nofun

/-- A way leads to a place that takes a CSV file. -/
theorem TakesCsv.locate_ne_error (h : tree.TakesCsv path location) (reason : AccessReason) :
    tree.locate path.text ≠ .error reason := by
  rw [(writable_eq_ok_iff.mp h.1).1]
  nofun

/-- No file can be written where no way leads. -/
theorem writable_of_locate_error (h : tree.locate name = .error reason) :
    ∃ cause, tree.writable name = .error cause := by
  cases hwritable : tree.writable name with
  | error cause => exact ⟨cause, rfl⟩
  | ok location => cases h.symm.trans (writable_eq_ok_iff.mp hwritable).1

/-- An output is admitted when a CSV file can be written there, and its place is touched. -/
theorem admitCsv_output_eq_ok_iff :
    tree.admitCsv path false = .ok after ↔
      ∃ location, tree.TakesCsv path location ∧ after = tree.touch location := by
  rw [admitCsv]
  cases hlocate : tree.locate path.text with
  | error reason =>
      obtain ⟨cause, hcause⟩ := writable_of_locate_error hlocate
      cases reason <;> cases path.hasCsvSuffix <;> simp [TakesCsv, find, hlocate, write, hcause]
  | ok location =>
      have htakes (place : Location) : tree.TakesCsv path place ↔ location = place ∧
          tree.at? place ≠ some .directory ∧ path.hasCsvSuffix = true := by
        rw [TakesCsv, writable_eq_ok_iff, hlocate, Except.ok.injEq, and_assoc]
      simp only [htakes, find_of_locate hlocate]
      cases hplace : tree.at? location with
      | none =>
          have hwritable : tree.writable path.text = .ok location :=
            writable_eq_ok_iff.mpr ⟨hlocate, by simp [hplace]⟩
          cases path.hasCsvSuffix <;> simp [write, hwritable, touch, hplace, eq_comm]
      | some found =>
          cases found with
          | directory => simp [hplace]
          | file content => cases path.hasCsvSuffix <;> simp [touch, hplace, eq_comm]

/-- No place takes a refused output. -/
theorem not_takesCsv_of_refused {error : PathError} (h : tree.admitCsv path false = .error error)
    (location : Location) : ¬ tree.TakesCsv path location := by
  intro htakes
  cases h.symm.trans (admitCsv_output_eq_ok_iff.mpr ⟨location, htakes, rfl⟩)

/-- An input cannot be looked up when its name is too long. -/
theorem admitCsv_input_eq_access_iff :
    (∃ cause, tree.admitCsv path true = .error (.access cause)) ↔
      tree.locate path.text = .error .nameTooLong := by
  rw [admitCsv]
  cases hlocate : tree.locate path.text with
  | error reason => cases reason <;> simp [find, hlocate]
  | ok location =>
      rw [find_of_locate hlocate]
      cases tree.at? location with
      | none => simp
      | some found => cases found <;> cases path.hasCsvSuffix <;> simp

/-- An output cannot be looked up when its name is too long, and cannot be created where no way
leads. The way does not matter when the suffix is refused. -/
theorem admitCsv_output_eq_access_iff :
    (∃ cause, tree.admitCsv path false = .error (.access cause)) ↔
      ∃ reason, tree.locate path.text = .error reason ∧
        (reason = .nameTooLong ∨ path.hasCsvSuffix = true) := by
  rw [admitCsv]
  cases hlocate : tree.locate path.text with
  | error reason =>
      obtain ⟨cause, hcause⟩ := writable_of_locate_error hlocate
      cases reason <;> cases path.hasCsvSuffix <;> simp [find, hlocate, write, hcause]
  | ok location =>
      rw [find_of_locate hlocate]
      cases hplace : tree.at? location with
      | none =>
          have hwritable : tree.writable path.text = .ok location :=
            writable_eq_ok_iff.mpr ⟨hlocate, by simp [hplace]⟩
          cases path.hasCsvSuffix <;> simp [write, hwritable]
      | some found => cases found <;> cases path.hasCsvSuffix <;> simp

end SheetCalc.FileTree
