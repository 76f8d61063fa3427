import Mathlib.Tactic.Common
import SheetCalc.Files.Tree

/-!
# Files that are written

The way of a name to its place leads through directories only, so it stays the same when a file is
written at a place that is no directory. Main lemmas: `read_put` and `read_put_of_ne`. A file that
was written under a name is read under this name, and under a name of another place the same is read
as before.
-/

namespace SheetCalc.FileTree

variable {tree : FileTree} {name : Text} {location target start : Location} {entry : FileEntry}
  {content : Bytes} {part : Text} {parts : List Text}

/-- A place that is no directory is not the root. -/
theorem ne_nil_of_at? (hplace : tree.at? location ≠ some .directory) : location ≠ [] := by
  intro hroot
  subst hroot
  exact hplace rfl

/-- What is put at a place that is no directory stands there. -/
theorem at?_put_self (hplace : tree.at? location ≠ some .directory) (entry : FileEntry) :
    (tree.put location entry).at? location = some entry := by
  rw [at?_put tree location location entry (ne_nil_of_at? hplace), if_pos rfl]

/-- What is put at a place that is no directory changes no other place. -/
theorem at?_put_of_ne (hplace : tree.at? location ≠ some .directory) (entry : FileEntry)
    (hother : target ≠ location) : (tree.put location entry).at? target = tree.at? target := by
  rw [at?_put tree location target entry (ne_nil_of_at? hplace), if_neg hother]

/-- Of two entries that are put at a place, the second one stands there. -/
theorem put_put (tree : FileTree) (location : Location) (first second : FileEntry) :
    (tree.put location first).put location second = tree.put location second := by
  simp [put, List.filter_filter]

/-- A part of a name is followed from a directory, if it is not too long. -/
theorem follow_cons_eq_ok_iff : tree.follow start (part :: parts) = .ok target ↔
    tree.at? start = some .directory ∧ isLongerThan partBytes part = false ∧
      tree.follow (enter start part) parts = .ok target := by
  rw [follow]
  cases tree.at? start with
  | none => simp
  | some found =>
      cases found with
      | file content => simp
      | directory => cases isLongerThan partBytes part <;> simp

/-- No way leads through a place that is no directory. -/
theorem follow_put (hplace : tree.at? location ≠ some .directory)
    (h : tree.follow start parts = .ok target) :
    (tree.put location entry).follow start parts = .ok target := by
  induction parts generalizing start with
  | nil => exact h
  | cons part parts ih =>
      obtain ⟨hstart, hshort, hrest⟩ := follow_cons_eq_ok_iff.mp h
      have hother : start ≠ location := fun hsame => hplace (hsame ▸ hstart)
      exact follow_cons_eq_ok_iff.mpr ⟨(at?_put_of_ne hplace entry hother).trans hstart, hshort,
        ih hrest⟩

/-- A way that ends with a step on the spot ends at a directory. -/
theorem directory_of_follow (h : tree.follow start (parts ++ [['.']]) = .ok target) :
    tree.at? target = some .directory := by
  induction parts generalizing start with
  | nil =>
      obtain ⟨hstart, -, hspot⟩ := follow_cons_eq_ok_iff.mp h
      obtain rfl : start = target := Except.ok.inj hspot
      exact hstart
  | cons part parts ih =>
      obtain ⟨-, -, hrest⟩ := follow_cons_eq_ok_iff.mp h
      exact ih hrest

/-- A name is followed if it is not empty, not too long, and without the null character. -/
theorem locateParts_eq_ok_iff : tree.locateParts name parts = .ok target ↔
    ('\x00' ∉ name ∧ name ≠ [] ∧ isLongerThan nameBytes name = false) ∧
      tree.follow (tree.origin name) parts = .ok target := by
  rw [locateParts]
  by_cases hnull : '\x00' ∈ name
  · simp [hnull]
  · by_cases hempty : name = []
    · simp [hempty]
    · cases hlong : isLongerThan nameBytes name <;> simp [hnull, hempty]

/-- A file at a place that is no directory does not change where a name leads. -/
theorem locate_put (hplace : tree.at? location ≠ some .directory)
    (h : tree.locate name = .ok target) : (tree.put location entry).locate name = .ok target := by
  obtain ⟨hname, hfollow⟩ := locateParts_eq_ok_iff.mp h
  exact locateParts_eq_ok_iff.mpr ⟨hname, follow_put hplace hfollow⟩

/-- A name with a slash at its end leads to a directory. -/
theorem directory_of_locate (hslash : namesDirectory name = true)
    (h : tree.locate name = .ok target) : tree.at? target = some .directory := by
  rw [locate, hslash, if_pos rfl] at h
  exact directory_of_follow (locateParts_eq_ok_iff.mp h).2

/-- A file can be written where a name leads, unless there is a directory. -/
theorem writable_eq_ok_iff : tree.writable name = .ok location ↔
    tree.locate name = .ok location ∧ tree.at? location ≠ some .directory := by
  cases hslash : namesDirectory name with
  | true =>
      constructor
      · intro h
        rw [writable, hslash, if_pos rfl] at h
        split at h <;> cases h
      · intro ⟨hlocate, hplace⟩
        exact absurd (directory_of_locate hslash hlocate) hplace
  | false =>
      rw [writable, locate, hslash]
      simp only [Bool.false_eq_true, if_false, List.append_nil]
      cases tree.locateParts name (partsOf name) with
      | error reason => simp
      | ok place =>
          by_cases hplace : tree.at? place = some .directory
          · simp only [hplace, if_true, reduceCtorEq, false_iff, Except.ok.injEq]
            intro ⟨hsame, hother⟩
            exact hother (hsame ▸ hplace)
          · simp only [hplace, if_false, Except.ok.injEq]
            exact ⟨fun hsame => ⟨hsame, hsame ▸ hplace⟩, fun h => h.1⟩

/-- A name is read when it leads to a file. -/
theorem read_eq_ok_iff : tree.read name = .ok content ↔
    ∃ location, tree.locate name = .ok location ∧ tree.at? location = some (.file content) := by
  rw [read]
  cases tree.locate name with
  | error reason => simp
  | ok location =>
      cases hplace : tree.at? location with
      | none => simp [hplace]
      | some found => cases found <;> simp [hplace]

/-- A file that was written under a name can be written under it again. -/
theorem writable_put (h : tree.writable name = .ok location) (content : Bytes) :
    (tree.put location (.file content)).writable name = .ok location := by
  obtain ⟨hlocate, hplace⟩ := writable_eq_ok_iff.mp h
  refine writable_eq_ok_iff.mpr ⟨locate_put hplace hlocate, ?_⟩
  rw [at?_put_self hplace]
  nofun

/-- A file that was written under a name is read under this name. -/
theorem read_put (h : tree.writable name = .ok location) (content : Bytes) :
    (tree.put location (.file content)).read name = .ok content := by
  obtain ⟨hlocate, hplace⟩ := writable_eq_ok_iff.mp h
  exact read_eq_ok_iff.mpr ⟨location, locate_put hplace hlocate, at?_put_self hplace _⟩

/-- What is put at another place does not change what is read under a name. -/
theorem read_put_of_ne (hplace : tree.at? location ≠ some .directory)
    (hother : tree.locate name ≠ .ok location) (h : tree.read name = .ok content) :
    (tree.put location entry).read name = .ok content := by
  obtain ⟨target, hlocate, hfile⟩ := read_eq_ok_iff.mp h
  have hne : target ≠ location := fun hsame => hother (hsame ▸ hlocate)
  exact read_eq_ok_iff.mpr ⟨target, locate_put hplace hlocate,
    (at?_put_of_ne hplace entry hne).trans hfile⟩

end SheetCalc.FileTree
