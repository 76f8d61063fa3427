import Mathlib
import SheetCalc.Proofs.CommandLine.Endings

/-!
# What the command changes

The command writes to the place of its output and nowhere else, and only after both paths are
admitted. Main theorem: `run_changes_output`. What is written is computed from the content that the
input had before, so the input and the output can be the same file.
-/

namespace SheetCalc.CommandLine

/-- A refused path leaves the tree. -/
@[simp]
theorem Outcome.tree_ofPathError (error : PathError) (tree : FileTree) :
    (Outcome.ofPathError error tree).tree = tree := by
  cases error <;> rfl

/-- A refused path is a failure. -/
@[simp]
theorem Outcome.exitCode_ofPathError (error : PathError) (tree : FileTree) :
    (Outcome.ofPathError error tree).exitCode = 1 := by
  cases error <;> rfl

/-- A fault leaves the tree. -/
@[simp]
theorem Outcome.tree_ofFault (fault : Fault) (tree : FileTree) :
    (Outcome.ofFault fault tree).tree = tree := by
  unfold ofFault
  split <;> rfl

/-- A fault is a failure. -/
@[simp]
theorem Outcome.exitCode_ofFault (fault : Fault) (tree : FileTree) :
    (Outcome.ofFault fault tree).exitCode = 1 := by
  unfold ofFault
  split <;> rfl

/-- Two trees have the same working directory, and the same entries but at the place of a name. -/
structure SameBut (name : Text) (before after : FileTree) : Prop where
  home : after.home = before.home
  at? : ∀ location, before.locate name ≠ .ok location → after.at? location = before.at? location

/-- Nothing is changed. -/
theorem SameBut.refl (name : Text) (tree : FileTree) : SameBut name tree tree :=
  ⟨rfl, fun _ _ => rfl⟩

/-- A file is put at the place of a name. -/
theorem SameBut.put {tree : FileTree} {name : Text} {location : Location}
    (h : tree.writable name = .ok location) (entry : FileEntry) :
    SameBut name tree (tree.put location entry) := by
  obtain ⟨hlocate, hplace⟩ := FileTree.writable_eq_ok_iff.mp h
  refine ⟨rfl, fun other hother => ?_⟩
  have hne : other ≠ location := fun hsame => hother (hsame ▸ hlocate)
  exact FileTree.at?_put_of_ne hplace entry hne

namespace Ends

variable {options : Options} {tree : FileTree} {outcome : Outcome}

/-- Only the place of the output changes. -/
theorem sameBut (h : Ends options tree outcome) :
    SameBut options.outputPath.text tree outcome.tree := by
  cases h with
  | inputRefused => simpa using .refl _ tree
  | outputRefused => simpa using .refl _ tree
  | @unreadable location fault _ houtput =>
      rw [Outcome.tree_ofFault, FileTree.touch]
      split
      · exact .put houtput.1 _
      · exact .refl _ tree
  | stopped _ houtput =>
      rw [Outcome.tree_ofFault]
      exact .put houtput.1 _
  | finished _ houtput => exact .put houtput.1 _

/-- A refused path leaves the tree as it is. -/
theorem tree_eq_of_refused (h : Ends options tree outcome) {error : PathError}
    (hrefused : tree.admitCsv options.inputPath true = .error error ∨
      tree.admitCsv options.outputPath false = .error error) : outcome.tree = tree := by
  have hnever {location : Location} (hinput : tree.HasCsv options.inputPath)
      (houtput : tree.TakesCsv options.outputPath location) : False := by
    rcases hrefused with hinputRefused | houtputRefused
    · exact FileTree.not_hasCsv_of_refused hinputRefused hinput
    · exact FileTree.not_takesCsv_of_refused houtputRefused location houtput
  cases h with
  | inputRefused => exact Outcome.tree_ofPathError _ tree
  | outputRefused => exact Outcome.tree_ofPathError _ tree
  | unreadable hinput houtput => exact (hnever hinput houtput).elim
  | stopped hinput houtput => exact (hnever hinput houtput).elim
  | finished hinput houtput => exact (hnever hinput houtput).elim

/-- An input that cannot be read leaves the tree as it is when the output is a file already. -/
theorem tree_eq_of_unread (h : Ends options tree outcome) {fault : Fault} {content : Bytes}
    (hunread : Sheet.read tree options.inputPath = .error fault)
    (hexists : tree.read options.outputPath.text = .ok content) : outcome.tree = tree := by
  cases h with
  | inputRefused => exact Outcome.tree_ofPathError _ tree
  | outputRefused => exact Outcome.tree_ofPathError _ tree
  | unreadable _ houtput =>
      obtain ⟨location, hlocate, hfile⟩ := FileTree.read_eq_ok_iff.mp hexists
      have hplace := (FileTree.writable_eq_ok_iff.mp houtput.1).1
      obtain rfl := Except.ok.inj (hlocate.symm.trans hplace)
      rw [Outcome.tree_ofFault, FileTree.touch_of_at? (hfile ▸ Option.some_ne_none _)]
  | stopped _ _ hread => cases hunread.symm.trans hread
  | finished _ _ hread => cases hunread.symm.trans hread

/-- The command succeeds when both paths are admitted, the sheet can be read, and the pass over it
has no fault. -/
theorem exitCode_eq_zero_iff (h : Ends options tree outcome) :
    outcome.exitCode = 0 ↔ tree.HasCsv options.inputPath ∧
      (∃ location, tree.TakesCsv options.outputPath location) ∧
      ∃ sheet, Sheet.read tree options.inputPath = .ok sheet ∧
        (options.pass sheet).fault = none := by
  cases h with
  | inputRefused hrefused =>
      rw [Outcome.exitCode_ofPathError]
      refine iff_of_false Nat.one_ne_zero ?_
      intro ⟨hinput, _⟩
      exact FileTree.not_hasCsv_of_refused hrefused hinput
  | outputRefused _ hrefused =>
      rw [Outcome.exitCode_ofPathError]
      refine iff_of_false Nat.one_ne_zero ?_
      intro ⟨_, ⟨location, houtput⟩, _⟩
      exact FileTree.not_takesCsv_of_refused hrefused location houtput
  | unreadable _ _ hread =>
      rw [Outcome.exitCode_ofFault]
      refine iff_of_false Nat.one_ne_zero ?_
      intro ⟨_, _, sheet, hsheet, _⟩
      cases hread.symm.trans hsheet
  | stopped _ _ hread hfault =>
      rw [Outcome.exitCode_ofFault]
      refine iff_of_false Nat.one_ne_zero ?_
      intro ⟨_, _, sheet, hsheet, hnone⟩
      obtain rfl := Except.ok.inj (hread.symm.trans hsheet)
      cases hfault.symm.trans hnone
  | finished hinput houtput hread hfault =>
      exact iff_of_true rfl ⟨hinput, ⟨_, houtput⟩, _, hread, hfault⟩

/-- After a success, the output holds the records of the pass over the sheet. -/
theorem read_output (h : Ends options tree outcome) (hsuccess : outcome.exitCode = 0) :
    ∃ sheet, Sheet.read tree options.inputPath = .ok sheet ∧
      (options.pass sheet).fault = none ∧
      outcome.tree.read options.outputPath.text = .ok (options.pass sheet).bytes := by
  cases h with
  | inputRefused => simp at hsuccess
  | outputRefused => simp at hsuccess
  | unreadable => simp at hsuccess
  | stopped => simp at hsuccess
  | finished _ houtput hread hfault =>
      exact ⟨_, hread, hfault, FileTree.read_put houtput.1 _⟩

end Ends

/-- The command touches only its output. On every tree, nothing but the place of the output changes;
the whole tree stays when one of the paths is refused, and when the input cannot be read and the
output is a file already. The exit code is zero if and only if both paths are admitted, the sheet can
be read, and the pass over it has no fault. Then the output holds the encodings of the records that
the pass yields for the sheet that the input held before. -/
theorem run_changes_output {arguments : List Text} {environment : List (Text × Text)}
    {options : Options} (h : Request.ofArguments arguments environment = .evaluate options)
    (tree : FileTree) :
    let outcome := run arguments environment tree
    SameBut options.outputPath.text tree outcome.tree ∧
    (∀ error, tree.admitCsv options.inputPath true = .error error ∨
      tree.admitCsv options.outputPath false = .error error → outcome.tree = tree) ∧
    (∀ fault content, Sheet.read tree options.inputPath = .error fault →
      tree.read options.outputPath.text = .ok content → outcome.tree = tree) ∧
    (outcome.exitCode = 0 ↔ tree.HasCsv options.inputPath ∧
      (∃ location, tree.TakesCsv options.outputPath location) ∧
      ∃ sheet, Sheet.read tree options.inputPath = .ok sheet ∧
        (options.pass sheet).fault = none) ∧
    (outcome.exitCode = 0 → ∃ sheet, Sheet.read tree options.inputPath = .ok sheet ∧
      outcome.tree.read options.outputPath.text =
        .ok (Utf8.encode (Csv.encode ((options.pass sheet).rows.map Prod.snd)))) := by
  intro outcome
  have hends : Ends options tree outcome := by
    show Ends options tree (run arguments environment tree)
    rw [run, h]
    exact ends_evaluate options tree
  refine ⟨hends.sameBut, fun error => hends.tree_eq_of_refused,
    fun fault content => hends.tree_eq_of_unread, hends.exitCode_eq_zero_iff, ?_⟩
  intro hsuccess
  obtain ⟨sheet, hread, -, houtput⟩ := hends.read_output hsuccess
  exact ⟨sheet, hread, houtput⟩

/-- A sum below a header. -/
def summary : Text :=
  "h\n=sum(1;2)\n".toList

/-- A sheet in the working directory. -/
def desk : FileTree :=
  ⟨[(["home".toList, "t.csv".toList], .file (Utf8.encode summary)),
    (["home".toList], .directory)], ["home".toList]⟩

/-- The file of the sheet as input and, spelled in another way, as output. -/
def sameFile : List Text :=
  ["t.csv".toList, "./t.csv".toList]

/-- The options of this command line. -/
def sameFileOptions : Options :=
  ⟨"t.csv".toList, "./t.csv".toList, 100, true, .warning⟩

/-- A sheet that is written to its own file is evaluated as it was before. -/
theorem run_changes_output_same_file :
    Request.ofArguments sameFile [] = .evaluate sameFileOptions ∧
    (run sameFile [] desk).exitCode = 0 ∧
    (run sameFile [] desk).tree.read "t.csv".toList = .ok (Utf8.encode "h\n3\n".toList) := by
  have hrequest : Request.ofArguments sameFile [] = .evaluate sameFileOptions := by cbv
  have hcontent : desk.read sameFileOptions.inputPath.text = .ok (Utf8.encode summary) := by cbv
  have houtput : desk.TakesCsv sameFileOptions.outputPath ["home".toList, "t.csv".toList] :=
    ⟨by cbv, by cbv⟩
  have hread : Sheet.read desk sameFileOptions.inputPath =
      .ok ⟨["h".toList, "=sum(1;2)".toList]⟩ := by cbv
  have hfault : (sameFileOptions.pass ⟨["h".toList, "=sum(1;2)".toList]⟩).fault = none := by cbv
  have hrows : (sameFileOptions.pass ⟨["h".toList, "=sum(1;2)".toList]⟩).rows =
      [(0, ["h".toList]), (1, ["3".toList])] := by cbv
  obtain ⟨-, -, -, hexit, hholds⟩ := run_changes_output hrequest desk
  have hsuccess : (run sameFile [] desk).exitCode = 0 :=
    hexit.mpr ⟨⟨⟨_, hcontent⟩, by cbv⟩, ⟨_, houtput⟩, _, hread, hfault⟩
  obtain ⟨sheet, hsheet, hbytes⟩ := hholds hsuccess
  obtain rfl := Except.ok.inj (hread.symm.trans hsheet)
  rw [hrows] at hbytes
  exact ⟨hrequest, hsuccess, hbytes⟩

end SheetCalc.CommandLine
