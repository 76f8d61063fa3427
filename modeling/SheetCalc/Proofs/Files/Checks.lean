import Mathlib
import SheetCalc.Proofs.Files.CsvPaths

/-!
# Checks of a path

A path is checked in a fixed order: something must be there if the file must exist, it must be no
directory, its extension must be that of a CSV file, and last, unless the file must exist, a missing
file is created. `Checking.csvPath` takes these steps one after another, each on the tree that the
one before it left, and by `outcome_csvPath` this is what `admitCsv` does. Main theorem:
`csvPath_admits_or_leaves`. A path that is admitted leads to a file, with the extension of a CSV file
or with none, and nothing is changed but that this file is created, empty, if nothing was there; a
path that is refused changes nothing.
-/

namespace SheetCalc

variable {path : Path} {name extension : Text}

/-! ## Extensions -/

namespace Path

/-- The extension of a path: what follows the last point of its name, unless nothing stands in front
of this point or nothing after it. -/
def HasExtension (path : Path) (extension : Text) : Prop :=
  ∃ stem, path.name = stem ++ '.' :: extension ∧ stem ≠ [] ∧ extension ≠ [] ∧ '.' ∉ extension

/-- The extension of a path is `csv` in any letter case, if it has an extension. -/
def HasOnlyCsvExtension (path : Path) : Prop :=
  ∀ extension, path.HasExtension extension → extension.map Char.toLower = "csv".toList

/-- A name with a point is divided at the last one. -/
theorem exists_last_point (h : '.' ∈ name) :
    ∃ stem extension, name = stem ++ '.' :: extension ∧ '.' ∉ extension := by
  obtain ⟨ending, front, hreverse, hending⟩ :=
    List.eq_append_cons_of_mem (List.mem_reverse.mpr h)
  refine ⟨front.reverse, ending.reverse, ?_, fun hmem => hending (List.mem_reverse.mp hmem)⟩
  rw [← List.reverse_reverse name, hreverse]
  simp

/-- The suffix of a name that is divided at its last point. -/
theorem suffixOf_divided (stem : Text) (h : '.' ∉ extension) :
    suffixOf (stem ++ '.' :: extension) =
      if stem ≠ [] ∧ extension ≠ [] then '.' :: extension else [] := by
  have hending : ((stem ++ '.' :: extension).reverse.takeWhile (· ≠ '.')).reverse = extension := by
    have hpoints : ∀ c ∈ extension.reverse, decide (c ≠ '.') = true := fun c hmem =>
      decide_eq_true fun hpoint => h (hpoint ▸ List.mem_reverse.mp hmem)
    have hreverse : (stem ++ '.' :: extension).reverse =
        extension.reverse ++ '.' :: stem.reverse := by simp
    rw [hreverse, List.takeWhile_append_of_pos hpoints, List.takeWhile_cons_of_neg (by simp),
      List.append_nil, List.reverse_reverse]
  have hfront : (stem ++ '.' :: extension).length - extension.length - 1 = stem.length := by
    rw [List.length_append, List.length_cons]
    omega
  unfold suffixOf
  dsimp only
  rw [hending, hfront]
  simp [List.length_pos_iff]

/-- A suffix is a point in front of an extension. -/
theorem suffix_eq_cons_iff : path.suffix = '.' :: extension ↔ path.HasExtension extension := by
  constructor
  · intro hsuffix
    by_cases hpoint : '.' ∈ path.name
    · obtain ⟨stem, ending, hname, hending⟩ := exists_last_point hpoint
      rw [suffix, hname, suffixOf_divided stem hending] at hsuffix
      split at hsuffix
      · next hboth =>
        obtain rfl := (List.cons.inj hsuffix).2
        exact ⟨stem, hname, hboth.1, hboth.2, hending⟩
      · cases hsuffix
    · simp [suffix, suffixOf, hpoint] at hsuffix
  · intro ⟨stem, hname, hstem, hextension, hnone⟩
    rw [suffix, hname, suffixOf_divided stem hnone, if_pos ⟨hstem, hextension⟩]

/-- A suffix may be that of a CSV file when there is no other extension. -/
theorem hasCsvSuffix_iff : path.hasCsvSuffix = true ↔ path.HasOnlyCsvExtension := by
  have hpoint : path.suffix = [] ∨ ∃ extension, path.suffix = '.' :: extension := by
    unfold suffix suffixOf
    dsimp only
    split
    · exact .inr ⟨_, rfl⟩
    · exact .inl rfl
  rcases hpoint with hnone | ⟨extension, hsuffix⟩
  · have hcsv : path.HasOnlyCsvExtension := fun extension hextension => by
      cases hnone.symm.trans (suffix_eq_cons_iff.mpr hextension)
    simp [hasCsvSuffix, hnone, hcsv]
  · have hlower : path.hasCsvSuffix = true ↔ extension.map Char.toLower = "csv".toList := by
      have hlowerPoint : Char.toLower '.' = '.' := by decide
      simp [hasCsvSuffix, hsuffix, hlowerPoint]
    rw [hlower]
    constructor
    · intro hcsv other hother
      obtain rfl := (List.cons.inj (hsuffix.symm.trans (suffix_eq_cons_iff.mpr hother))).2
      exact hcsv
    · intro hcsv
      exact hcsv extension (suffix_eq_cons_iff.mp hsuffix)

end Path

/-! ## Admitted paths -/

namespace FileTree

variable {tree after : FileTree} {mustExist : Bool}

/-- All that the admission of a path can do to a tree: to find a file where the path leads, or, if
the file may be missing, to create an empty one where nothing is. -/
inductive Admits (tree : FileTree) (path : Path) (mustExist : Bool) : FileTree → Prop
  | found {location : Location} {content : Bytes} (hplace : tree.locate path.text = .ok location)
      (hfile : tree.at? location = some (.file content)) : Admits tree path mustExist tree
  | created {location : Location} (hplace : tree.locate path.text = .ok location)
      (hnone : tree.at? location = none) (hmay : mustExist = false) :
      Admits tree path mustExist (tree.put location (.file []))

/-- A path is admitted when a file is there or can be created, and it has no extension but that of a
CSV file. -/
theorem admitCsv_eq_ok_iff : tree.admitCsv path mustExist = .ok after ↔
    path.HasOnlyCsvExtension ∧ tree.Admits path mustExist after := by
  rw [← Path.hasCsvSuffix_iff]
  cases mustExist with
  | true =>
      rw [admitCsv_input_eq_ok_iff]
      constructor
      · intro ⟨⟨⟨content, hread⟩, hcsv⟩, hsame⟩
        obtain ⟨location, hplace, hfile⟩ := read_eq_ok_iff.mp hread
        subst hsame
        exact ⟨hcsv, .found hplace hfile⟩
      · intro ⟨hcsv, hadmits⟩
        cases hadmits with
        | found hplace hfile => exact ⟨⟨⟨_, read_eq_ok_iff.mpr ⟨_, hplace, hfile⟩⟩, hcsv⟩, rfl⟩
        | created _ _ hmay => cases hmay
  | false =>
      rw [admitCsv_output_eq_ok_iff]
      constructor
      · intro ⟨location, ⟨hwritable, hcsv⟩, htouched⟩
        obtain ⟨hplace, hnodirectory⟩ := writable_eq_ok_iff.mp hwritable
        subst htouched
        refine ⟨hcsv, ?_⟩
        unfold touch
        split
        · next hnone => exact .created hplace hnone rfl
        · next hsome =>
          cases hfound : tree.at? location with
          | none => exact absurd hfound hsome
          | some entry =>
              cases entry with
              | file content => exact .found hplace hfound
              | directory => exact absurd hfound hnodirectory
      · intro ⟨hcsv, hadmits⟩
        cases hadmits with
        | found hplace hfile =>
            refine ⟨_, ⟨writable_eq_ok_iff.mpr ⟨hplace, by simp [hfile]⟩, hcsv⟩, ?_⟩
            rw [touch_of_at? (by simp [hfile])]
        | created hplace hnone _ =>
            refine ⟨_, ⟨writable_eq_ok_iff.mpr ⟨hplace, by simp [hnone]⟩, hcsv⟩, ?_⟩
            rw [touch, if_pos hnone]

/-- An admitted path leads to a file. Every other place is as it was, and so is this one if something
was there; else the file is empty, and was allowed to be missing. -/
theorem Admits.exists_file (h : tree.Admits path mustExist after) : ∃ location content,
    after.locate path.text = .ok location ∧ after.at? location = some (.file content) ∧
    after.home = tree.home ∧ (∀ other, other ≠ location → after.at? other = tree.at? other) ∧
    (tree.at? location = some (.file content) ∧ after = tree ∨
      tree.at? location = none ∧ content = [] ∧ mustExist = false) := by
  cases h with
  | found hplace hfile => exact ⟨_, _, hplace, hfile, rfl, fun _ _ => rfl, .inl ⟨hfile, rfl⟩⟩
  | @created location hplace hnone hmay =>
      have hnodirectory : tree.at? location ≠ some .directory := by simp [hnone]
      exact ⟨location, [], locate_put hnodirectory hplace, at?_put_self hnodirectory _, rfl,
        fun _ => at?_put_of_ne hnodirectory _, .inr ⟨hnone, rfl, hmay⟩⟩

end FileTree

/-! ## The checks -/

/-- A check on a file tree, which may change the tree, and ends with a result or refuses the path. -/
abbrev Checking (α : Type) :=
  ExceptT PathError (StateM FileTree) α

namespace Checking

variable {α : Type}

/-- The outcome of a check that starts on a tree, and the tree afterwards. -/
def outcome (checking : Checking α) (tree : FileTree) : Except PathError α × FileTree :=
  (ExceptT.run checking).run tree

@[simp]
theorem outcome_pure (result : α) (tree : FileTree) :
    outcome (pure result) tree = (.ok result, tree) :=
  rfl

@[simp]
theorem outcome_throw (error : PathError) (tree : FileTree) :
    outcome (throw error : Checking α) tree = (.error error, tree) :=
  rfl

@[simp]
theorem outcome_get (tree : FileTree) : outcome (get : Checking FileTree) tree = (.ok tree, tree) :=
  rfl

@[simp]
theorem outcome_set (tree after : FileTree) :
    outcome (set after : Checking PUnit) tree = (.ok (), after) :=
  rfl

/-- The second of two checks starts on the tree that the first one left, and is not made after a
refusal. -/
theorem outcome_bind {β : Type} (first : Checking α) (second : α → Checking β) (tree : FileTree) :
    outcome (first >>= second) tree =
      match outcome first tree with
      | (.ok result, after) => outcome (second result) after
      | (.error error, after) => (.error error, after) := by
  simp only [outcome, ExceptT.run_bind, StateT.run_bind]
  cases (first.run).run tree with
  | mk result after => cases result <;> rfl

/-- What is found where a path leads. -/
def lookUp (path : Path) : Checking (Option FileEntry) := do
  match (← get).find path.text with
  | .error error => throw (.access error)
  | .ok found => return found

/-- Creates an empty file where a path leads. -/
def create (path : Path) : Checking Unit := do
  match (← get).write path.text [] with
  | .error error => throw (.access error)
  | .ok after => set after

/-- The checks of a path. Each of them looks at the tree that the one before it left. -/
def csvPath (path : Path) (mustExist : Bool) : Checking Unit := do
  if mustExist then
    if (← lookUp path) = none then throw (.missing path)
  if (← lookUp path) = some .directory then throw (.notAFile path)
  if ¬ path.hasCsvSuffix then throw (.notCsv path)
  if ¬ mustExist then
    if (← lookUp path) = none then create path

/-- Looking up a path leaves the tree. -/
@[simp]
theorem outcome_lookUp (path : Path) (tree : FileTree) :
    (lookUp path).outcome tree = ((tree.find path.text).mapError .access, tree) := by
  rw [lookUp, outcome_bind, outcome_get]
  dsimp only
  cases tree.find path.text <;> rfl

/-- A file that cannot be created leaves the tree. -/
@[simp]
theorem outcome_create (path : Path) (tree : FileTree) :
    (create path).outcome tree =
      match tree.write path.text [] with
      | .ok after => (.ok (), after)
      | .error error => (.error (.access error), tree) := by
  rw [create, outcome_bind, outcome_get]
  dsimp only
  cases tree.write path.text [] <;> rfl

/-- The checks in a row admit the paths that `admitCsv` admits, and leave the tree that it gives;
they refuse the others for the reason that it gives, and leave the tree as it was. -/
theorem outcome_csvPath (path : Path) (mustExist : Bool) (tree : FileTree) :
    (csvPath path mustExist).outcome tree =
      match tree.admitCsv path mustExist with
      | .ok after => (.ok (), after)
      | .error error => (.error error, tree) := by
  rw [FileTree.admitCsv]
  cases hfind : tree.find path.text with
  | error error => cases mustExist <;> simp [csvPath, outcome_bind, hfind]
  | ok found =>
      cases hsuffix : path.hasCsvSuffix with
      | false =>
          cases mustExist <;> cases found with
          | none => simp [csvPath, outcome_bind, hfind, hsuffix]
          | some entry => cases entry <;> simp [csvPath, outcome_bind, hfind, hsuffix]
      | true =>
          cases mustExist <;> cases found with
          | none =>
              cases hwrite : tree.write path.text [] <;>
                simp [csvPath, outcome_bind, hfind, hsuffix, hwrite]
          | some entry => cases entry <;> simp [csvPath, outcome_bind, hfind, hsuffix]

/-- What the check of a path admits and what it changes, on every tree, for every path, and whether
or not the file must exist. The checks in a row are what `admitCsv` does. They succeed if and only if
the path has no extension but that of a CSV file and there is a file, or one may be created, where
the path leads. Then the path leads to a file; every other place is as it was, and so is this one
with the whole tree if something was there; else the file is new, empty, and was allowed to be
missing. A path that is refused leaves the tree as it was. -/
theorem csvPath_admits_or_leaves (tree : FileTree) (path : Path) (mustExist : Bool) :
    let result := ((csvPath path mustExist).outcome tree).1
    let after := ((csvPath path mustExist).outcome tree).2
    tree.admitCsv path mustExist = result.map (fun _ => after) ∧
    (result = .ok () ↔ path.HasOnlyCsvExtension ∧ tree.Admits path mustExist after) ∧
    (result = .ok () → ∃ location content,
      after.locate path.text = .ok location ∧ after.at? location = some (.file content) ∧
      after.home = tree.home ∧ (∀ other, other ≠ location → after.at? other = tree.at? other) ∧
      (tree.at? location = some (.file content) ∧ after = tree ∨
        tree.at? location = none ∧ content = [] ∧ mustExist = false)) ∧
    (∀ error, result = .error error → after = tree) := by
  intro result after
  have houtcome := outcome_csvPath path mustExist tree
  cases hchecked : tree.admitCsv path mustExist with
  | error error =>
      rw [hchecked] at houtcome
      obtain ⟨hresult, hafter⟩ : result = .error error ∧ after = tree := Prod.mk.inj houtcome
      rw [hresult, hafter]
      refine ⟨rfl, iff_of_false nofun fun hadmits => ?_, nofun, fun _ _ => rfl⟩
      cases hchecked.symm.trans (FileTree.admitCsv_eq_ok_iff.mpr hadmits)
  | ok admitted =>
      rw [hchecked] at houtcome
      obtain ⟨hresult, hafter⟩ : result = .ok () ∧ after = admitted := Prod.mk.inj houtcome
      have hadmits := FileTree.admitCsv_eq_ok_iff.mp hchecked
      rw [hresult, hafter]
      exact ⟨rfl, iff_of_true rfl hadmits, fun _ => hadmits.2.exists_file, nofun⟩

/-- A working directory with a file whose name has no extension. -/
def notebook : FileTree :=
  ⟨[(["home".toList, "notes".toList], .file (Utf8.encode "a\n".toList)),
    (["home".toList], .directory)], ["home".toList]⟩

/-- Not only paths with the extension of a CSV file are admitted: `notes` has no extension. -/
theorem bare_name_admitted :
    ¬ ∀ (tree : FileTree) (path : Path) (mustExist : Bool),
      ((csvPath path mustExist).outcome tree).1 = .ok () →
        ∃ extension, path.HasExtension extension ∧ extension.map Char.toLower = "csv".toList := by
  intro hall
  have hadmitted : notebook.admitCsv (.ofText "notes".toList) true = .ok notebook := by cbv
  have hsuccess : ((csvPath (.ofText "notes".toList) true).outcome notebook).1 = .ok () := by
    rw [outcome_csvPath, hadmitted]
  obtain ⟨extension, hextension, -⟩ := hall notebook (.ofText "notes".toList) true hsuccess
  cases Path.suffix_eq_cons_iff.mpr hextension

/-- No extension has a name that starts or ends with its only point. -/
example : [".csv", "notes", "notes."].map (fun name => (Path.ofText name.toList).suffix) =
    [[], [], []] := by
  decide

end Checking

end SheetCalc
