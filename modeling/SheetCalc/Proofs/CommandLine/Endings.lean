import Mathlib
import SheetCalc.CommandLine.Run
import SheetCalc.Proofs.Files.CsvPaths
import SheetCalc.Proofs.Files.Export

/-!
# Endings of the command

The command refuses one of the two paths, or cannot read the sheet, or is stopped by a fault of the
pass, or finishes. `Ends` says for each ending what is found on the way to it, and what the command
leaves; `ends_evaluate` says that there are no others. The place of the output is found before the
sheet is read, and the sheet is read before that place gets its content.
-/

namespace SheetCalc

/-- The bytes of the records that a pass yields. -/
def Pass.bytes (pass : Pass) : Bytes :=
  Utf8.encode (Csv.encode (pass.rows.map Prod.snd))

/-- A sheet depends on the content of its file alone. -/
theorem Sheet.read_congr {tree other : FileTree} {path : Path}
    (h : tree.read path.text = other.read path.text) :
    Sheet.read tree path = Sheet.read other path := by
  rw [Sheet.read, Sheet.read, h]

namespace CommandLine

namespace Options

/-- The path of the input. -/
def inputPath (options : Options) : Path :=
  .ofText options.input

/-- The path of the output. -/
def outputPath (options : Options) : Path :=
  .ofText options.output

/-- The pass over a sheet that the options ask for. -/
def pass (options : Options) (sheet : Sheet) : Pass :=
  (Evaluator.ofSheet sheet options.detectCycles).pass .fresh

end Options

/-- How the command can end on a tree. -/
inductive Ends (options : Options) (tree : FileTree) : Outcome → Prop
  | inputRefused {error : PathError}
      (hrefused : tree.admitCsv options.inputPath true = .error error) :
      Ends options tree (.ofPathError error tree)
  | outputRefused {error : PathError} (hinput : tree.HasCsv options.inputPath)
      (hrefused : tree.admitCsv options.outputPath false = .error error) :
      Ends options tree (.ofPathError error tree)
  | unreadable {location : Location} {fault : Fault} (hinput : tree.HasCsv options.inputPath)
      (houtput : tree.TakesCsv options.outputPath location)
      (hread : Sheet.read tree options.inputPath = .error fault) :
      Ends options tree (.ofFault fault (tree.touch location))
  | stopped {location : Location} {sheet : Sheet} {fault : Fault}
      (hinput : tree.HasCsv options.inputPath)
      (houtput : tree.TakesCsv options.outputPath location)
      (hread : Sheet.read tree options.inputPath = .ok sheet)
      (hfault : (options.pass sheet).fault = some fault) :
      Ends options tree (.ofFault fault (tree.put location (.file (options.pass sheet).bytes)))
  | finished {location : Location} {sheet : Sheet} (hinput : tree.HasCsv options.inputPath)
      (houtput : tree.TakesCsv options.outputPath location)
      (hread : Sheet.read tree options.inputPath = .ok sheet)
      (hfault : (options.pass sheet).fault = none) :
      Ends options tree ⟨0, "", none, tree.put location (.file (options.pass sheet).bytes)⟩

/-- The place of the output does not matter for the sheet. -/
theorem read_touch_of_hasCsv {tree : FileTree} {input output : Path} {location : Location}
    (hinput : tree.HasCsv input) (houtput : tree.TakesCsv output location) :
    Sheet.read (tree.touch location) input = Sheet.read tree input := by
  obtain ⟨⟨content, hcontent⟩, -⟩ := hinput
  have hplace := (FileTree.writable_eq_ok_iff.mp houtput.1).2
  exact Sheet.read_congr ((FileTree.read_touch hplace hcontent).trans hcontent.symm)

/-- The command ends in one of these ways. -/
theorem ends_evaluate (options : Options) (tree : FileTree) :
    Ends options tree (evaluate options tree) := by
  unfold evaluate
  dsimp only
  cases hinput : tree.admitCsv (Path.ofText options.input) true with
  | error error => exact .inputRefused hinput
  | ok admitted =>
      obtain ⟨hcsv, rfl⟩ := FileTree.admitCsv_input_eq_ok_iff.mp hinput
      dsimp only
      cases houtput : admitted.admitCsv (Path.ofText options.output) false with
      | error error => exact .outputRefused hcsv houtput
      | ok touched =>
          obtain ⟨location, htakes, rfl⟩ := FileTree.admitCsv_output_eq_ok_iff.mp houtput
          dsimp only
          rw [read_touch_of_hasCsv hcsv htakes]
          cases hread : Sheet.read admitted (Path.ofText options.input) with
          | error fault => exact .unreadable hcsv htakes hread
          | ok sheet =>
              dsimp only
              rw [Evaluator.exportTo_of_writable _ (FileTree.writable_touch htakes.1),
                FileTree.put_touch]
              cases hfault : ((Evaluator.ofSheet sheet options.detectCycles).pass .fresh).fault with
              | none => exact .finished hcsv htakes hread hfault
              | some fault => exact .stopped hcsv htakes hread hfault

end CommandLine

end SheetCalc
