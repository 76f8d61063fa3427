import Mathlib
import SheetCalc.Proofs.CommandLine.Endings
import SheetCalc.Proofs.Pass.Faults

/-!
# What the command reports

A use of the command succeeds, or prints one message and exits with one, but for faults that it does
not handle: a path is too long to be looked up, no way leads to the place of an output that is to
be created, the pass meets a row with too many digits to be read or a circular reference through a
column without a name, or it ends with a fault whose line has too many digits to be written. Main theorem:
`reports_iff_reportable`. With cycles detected, there are no others in this model, which bounds
neither how deep evaluations and trees nest nor what a device takes: an evaluation that runs out of
stack and a full disk are not modelled.
-/

namespace SheetCalc

/-- A plain fault is reported, unless a row has too many digits. -/
theorem Fault.IsPlain.isReported {fault : Fault} (h : fault.IsPlain)
    (hrows : ∀ cause, fault ≠ .conversion cause) : fault.isReported = true := by
  cases fault with
  | lexical | grammar | evaluation => rfl
  | conversion cause => exact absurd rfl (hrows cause)
  | cycle | column | outOfRange | access | endless => exact h.elim

/-- A circular reference is reported when the cells on the way to it have names. -/
theorem Sheet.ClosesCycle.isReported_iff {sheet : Sheet} {trail : Trail} {cell : Cell}
    (h : sheet.ClosesCycle trail cell) (line : Int) :
    (trail.cycle cell line).isReported = true ↔ ∀ entered ∈ trail, entered.column < 18278 := by
  rw [← h.exists_cycle_iff line]
  unfold Trail.cycle
  cases trail.names cell <;> simp [Fault.isReported]

/-- The faults that are reported have a line. -/
theorem Fault.isReported_iff {fault : Fault} :
    fault.isReported = true ↔ ∃ line, fault.line? = some line := by
  cases fault <;> simp [isReported, line?]

/-- A fault is reported with its message when its line is written. -/
theorem Fault.exists_report_iff {fault : Fault} :
    (∃ message, fault.report = .ok message) ↔
      ∃ line, fault.line? = some line ∧ line.natAbs < 10 ^ Text.maxDigits := by
  unfold report
  cases fault.line? with
  | none => simp
  | some line =>
      dsimp only
      cases hwritten : Text.writeInt line with
      | ok text =>
          exact iff_of_true ⟨_, rfl⟩ ⟨line, rfl, Text.exists_writeInt_iff.mp ⟨text, hwritten⟩⟩
      | error cause =>
          refine iff_of_false nofun ?_
          rintro ⟨other, hother, hshort⟩
          obtain rfl := Option.some.inj hother
          obtain ⟨text, htext⟩ := Text.exists_writeInt_iff.mpr hshort
          cases hwritten.symm.trans htext

namespace Sheet

/-- Nothing keeps a fault of a pass over the sheet from being reported. -/
structure Reports (sheet : Sheet) (fault : Fault) : Prop where
  /-- It is no row with too many digits. -/
  rows : ∀ cause, fault ≠ .conversion cause
  /-- The cells of a circular reference have names. -/
  cells : ∀ trail cell, sheet.ClosesCycle trail cell →
    fault = trail.cycle cell (cell.row + 1) → ∀ entered ∈ trail, entered.column < 18278
  /-- The line has not too many digits. -/
  line : ∀ line, fault.line? = some line → line.natAbs < 10 ^ Text.maxDigits

/-- The fault of a pass is reported, unless something keeps it from being reported. -/
theorem exists_report_iff_of_pass {sheet : Sheet} {fault : Fault}
    (h : ((Evaluator.ofSheet sheet true).pass .fresh).fault = some fault) :
    (∃ message, fault.report = .ok message) ↔ sheet.Reports fault := by
  rw [Fault.exists_report_iff]
  constructor
  · rintro ⟨line, hline, hshort⟩
    have hreported : fault.isReported = true := Fault.isReported_iff.mpr ⟨line, hline⟩
    refine ⟨?_, fun trail cell hcloses hcycle => ?_, fun other hother => ?_⟩
    · rintro cause rfl
      cases hline
    · exact (hcloses.isReported_iff _).mp (hcycle ▸ hreported)
    · obtain rfl := Option.some.inj (hline.symm.trans hother)
      exact hshort
  · intro ⟨hrows, hcells, hshort⟩
    have hreported : fault.isReported = true := by
      rcases (Raises.pass h).plainOrCircular with hplain | ⟨trail, cell, hcloses, hcycle⟩
      · exact hplain.isReported hrows
      · rw [hcycle]
        exact (hcloses.isReported_iff _).mpr (hcells trail cell hcloses hcycle)
    obtain ⟨line, hline⟩ := Fault.isReported_iff.mp hreported
    exact ⟨line, hline, hshort line hline⟩

/-- A sheet in a file that is there cannot be read only for its bytes, which is reported. -/
theorem exists_report_of_read {tree : FileTree} {path : Path} {fault : Fault}
    (hcsv : tree.HasCsv path) (h : Sheet.read tree path = .error fault) :
    ∃ message, fault.report = .ok message := by
  obtain ⟨⟨content, hcontent⟩, -⟩ := hcsv
  rw [Sheet.read, hcontent] at h
  dsimp only at h
  split at h
  · obtain rfl := Except.error.inj h
    exact ⟨_, rfl⟩
  · cases h

end Sheet

namespace CommandLine

/-- A message that says why the command failed: what is wrong with a path, or a reported fault. -/
inductive IsReport : String → Prop
  | path (error : PathError) : IsReport error.message
  | fault {fault : Fault} (h : fault.isReported = true) : IsReport fault.message

/-- The command succeeded, or printed one message and exited with one. -/
def Outcome.Reports (outcome : Outcome) : Prop :=
  outcome.unhandled = none ∧
    (outcome.exitCode = 0 ∨
      outcome.exitCode = 1 ∧ ∃ message, IsReport message ∧ outcome.printed = printedLine message)

/-- A refused path is reported, unless it could not be looked up or created. -/
theorem Outcome.reports_ofPathError_iff {error : PathError} {tree : FileTree} :
    (Outcome.ofPathError error tree).Reports ↔ ¬ ∃ cause, error = .access cause := by
  cases error with
  | missing path =>
      exact iff_of_true ⟨rfl, .inr ⟨rfl, _, .path (.missing path), rfl⟩⟩ nofun
  | notAFile path =>
      exact iff_of_true ⟨rfl, .inr ⟨rfl, _, .path (.notAFile path), rfl⟩⟩ nofun
  | notCsv path =>
      exact iff_of_true ⟨rfl, .inr ⟨rfl, _, .path (.notCsv path), rfl⟩⟩ nofun
  | access cause =>
      refine iff_of_false ?_ (not_not_intro ⟨cause, rfl⟩)
      intro ⟨hhandled, _⟩
      cases hhandled

/-- A refused input is reported, unless its name is too long. -/
theorem Outcome.reports_inputRefused_iff {tree : FileTree} {path : Path} {error : PathError}
    (h : tree.admitCsv path true = .error error) :
    (Outcome.ofPathError error tree).Reports ↔ tree.locate path.text ≠ .error .nameTooLong := by
  have haccess : (∃ cause, error = .access cause) ↔
      tree.locate path.text = .error .nameTooLong := by
    rw [← FileTree.admitCsv_input_eq_access_iff, h]
    simp
  rw [reports_ofPathError_iff, haccess]

/-- A refused output is reported, unless its name is too long, or its suffix is admitted and no way
leads to its place. -/
theorem Outcome.reports_outputRefused_iff {tree : FileTree} {path : Path} {error : PathError}
    (h : tree.admitCsv path false = .error error) :
    (Outcome.ofPathError error tree).Reports ↔
      ∀ reason, tree.locate path.text = .error reason →
        reason ≠ .nameTooLong ∧ path.hasCsvSuffix = false := by
  have haccess : (∃ cause, error = .access cause) ↔
      ∃ reason, tree.locate path.text = .error reason ∧
        (reason = .nameTooLong ∨ path.hasCsvSuffix = true) := by
    rw [← FileTree.admitCsv_output_eq_access_iff, h]
    simp
  rw [reports_ofPathError_iff, haccess]
  push Not
  simp

/-- The message that a fault is reported with says why the command failed. -/
theorem isReport_of_report {fault : Fault} {message : String} (h : fault.report = .ok message) :
    IsReport message := by
  obtain ⟨line, hline, -⟩ := Fault.exists_report_iff.mp ⟨message, h⟩
  unfold Fault.report at h
  rw [hline] at h
  dsimp only at h
  split at h
  · obtain rfl := Except.ok.inj h
    exact .fault (Fault.isReported_iff.mpr ⟨line, hline⟩)
  · cases h

/-- A fault that ends the command is printed when it is one that is reported. -/
theorem Outcome.reports_ofFault_iff {fault : Fault} {tree : FileTree} :
    (Outcome.ofFault fault tree).Reports ↔ ∃ message, fault.report = .ok message := by
  unfold ofFault
  cases hreport : fault.report with
  | ok message =>
      exact iff_of_true ⟨rfl, .inr ⟨rfl, message, isReport_of_report hreport, rfl⟩⟩ ⟨message, rfl⟩
  | error unhandled =>
      refine iff_of_false ?_ nofun
      intro ⟨hhandled, _⟩
      cases hhandled

/-- Nothing can stop the command but what it reports. -/
structure Reportable (options : Options) (tree : FileTree) : Prop where
  /-- The input can be looked up. -/
  input : tree.locate options.inputPath.text ≠ .error .nameTooLong
  /-- A way leads to the place of the output, or the output is refused for its suffix. -/
  output : tree.HasCsv options.inputPath → ∀ reason,
    tree.locate options.outputPath.text = .error reason →
      reason ≠ .nameTooLong ∧ options.outputPath.hasCsvSuffix = false
  /-- Nothing keeps the fault of the pass from being reported. -/
  fault : ∀ location sheet fault, tree.HasCsv options.inputPath →
    tree.TakesCsv options.outputPath location → Sheet.read tree options.inputPath = .ok sheet →
    (options.pass sheet).fault = some fault → sheet.Reports fault

/-- When both paths are admitted, only the fault of the pass matters. -/
theorem Reportable.of_admitted {options : Options} {tree : FileTree} {location : Location}
    (hinput : tree.HasCsv options.inputPath) (houtput : tree.TakesCsv options.outputPath location)
    (hfault : ∀ sheet fault, Sheet.read tree options.inputPath = .ok sheet →
      (options.pass sheet).fault = some fault → sheet.Reports fault) :
    Reportable options tree := by
  refine ⟨hinput.locate_ne_error .nameTooLong, ?_, ?_⟩
  · intro _ reason hnone
    exact absurd hnone (houtput.locate_ne_error reason)
  · intro _ sheet fault _ _
    exact hfault sheet fault

/-- The command reports its ending when nothing but what it reports can stop it, and only then. -/
theorem Ends.reports_iff {options : Options} {tree : FileTree} {outcome : Outcome}
    (hcycles : options.detectCycles = true) (h : Ends options tree outcome) :
    outcome.Reports ↔ Reportable options tree := by
  cases h with
  | @inputRefused error hrefused =>
      have hnever := FileTree.not_hasCsv_of_refused hrefused
      rw [Outcome.reports_inputRefused_iff hrefused]
      exact ⟨fun hshort => ⟨hshort, fun hinput => absurd hinput hnever,
        fun _ _ _ hinput => absurd hinput hnever⟩, fun hreportable => hreportable.input⟩
  | @outputRefused error hinput hrefused =>
      have hnever := FileTree.not_takesCsv_of_refused hrefused
      rw [Outcome.reports_outputRefused_iff hrefused]
      exact ⟨fun hall => ⟨hinput.locate_ne_error _, fun _ => hall,
        fun location _ _ _ houtput => absurd houtput (hnever location)⟩,
        fun hreportable => hreportable.output hinput⟩
  | unreadable hinput houtput hread =>
      have hreport := Sheet.exists_report_of_read hinput hread
      refine iff_of_true (Outcome.reports_ofFault_iff.mpr hreport) (.of_admitted hinput houtput ?_)
      intro sheet _ hsheet
      cases hread.symm.trans hsheet
  | @stopped location sheet fault hinput houtput hread hfault =>
      have hpass : ((Evaluator.ofSheet sheet true).pass .fresh).fault = some fault := by
        rw [← hcycles]
        exact hfault
      rw [Outcome.reports_ofFault_iff, Sheet.exists_report_iff_of_pass hpass]
      constructor
      · intro hreports
        refine .of_admitted hinput houtput ?_
        intro other raised hother hraised
        obtain rfl := Except.ok.inj (hread.symm.trans hother)
        obtain rfl := Option.some.inj (hfault.symm.trans hraised)
        exact hreports
      · intro hreportable
        exact hreportable.fault location sheet fault hinput houtput hread hfault
  | finished hinput houtput hread hfault =>
      refine iff_of_true ⟨rfl, .inl rfl⟩ (.of_admitted hinput houtput ?_)
      intro other _ hother hraised
      obtain rfl := Except.ok.inj (hread.symm.trans hother)
      cases hfault.symm.trans hraised

/-- The command line is a use of the command, with cycles detected. -/
def Request.DetectsCycles : Request → Prop
  | .help => True
  | .evaluate options => options.detectCycles = true
  | .misuse => False

/-- When the command reports its ending. A use of the command with cycles detected exits with zero,
or prints one message and exits with one, if and only if the paths can be looked up, a way leads to
the place of the output, and the fault of the pass, if it has one, is no row with too many digits to
be read, no circular reference through a column after `ZZZ`, and has a line that can be written. A
path is looked up when the one before it was admitted, and the suffix of an output is checked before
it is created. -/
theorem reports_iff_reportable {arguments : List Text} {environment : List (Text × Text)}
    (h : (Request.ofArguments arguments environment).DetectsCycles) (tree : FileTree) :
    (run arguments environment tree).Reports ↔
      ∀ options, Request.ofArguments arguments environment = .evaluate options →
        Reportable options tree := by
  rw [run]
  cases hrequest : Request.ofArguments arguments environment with
  | help => exact iff_of_true ⟨rfl, .inl rfl⟩ nofun
  | misuse =>
      rw [hrequest] at h
      exact h.elim
  | evaluate options =>
      rw [hrequest] at h
      dsimp only
      rw [Ends.reports_iff h (ends_evaluate options tree)]
      constructor
      · intro hreportable other hother
        obtain rfl := Request.evaluate.inj hother
        exact hreportable
      · intro hall
        exact hall options rfl

/-- A working directory with a sheet whose only formula refers to itself, and a directory. -/
def shelf : FileTree :=
  ⟨[(["home".toList, "in.csv".toList], .file (Utf8.encode "h\n=print(A1)\n".toList)),
    (["home".toList, "out".toList], .directory), (["home".toList], .directory)],
    ["home".toList]⟩

/-- The sheet is evaluated into the directory. -/
def intoDirectory : List Text :=
  ["in.csv".toList, "out/out.csv".toList]

/-- The options of this command line. -/
def intoDirectoryOptions : Options :=
  ⟨"in.csv".toList, "out/out.csv".toList, 100, true, .warning⟩

/-- A circular reference in column `A` is reported. -/
theorem reports_iff_reportable_circular :
    (Request.ofArguments intoDirectory []).DetectsCycles ∧
    (run intoDirectory [] shelf).exitCode = 1 ∧ (run intoDirectory [] shelf).Reports := by
  have hrequest : Request.ofArguments intoDirectory [] = .evaluate intoDirectoryOptions := by cbv
  have hdetects : (Request.ofArguments intoDirectory []).DetectsCycles := by
    rw [hrequest]
    rfl
  have hinput : shelf.locate intoDirectoryOptions.inputPath.text =
      .ok ["home".toList, "in.csv".toList] := by cbv
  have houtput : shelf.locate intoDirectoryOptions.outputPath.text =
      .ok ["home".toList, "out".toList, "out.csv".toList] := by cbv
  have hread : Sheet.read shelf intoDirectoryOptions.inputPath =
      .ok ⟨["h".toList, "=print(A1)".toList]⟩ := by cbv
  have hnarrow : Sheet.IsNarrow ⟨["h".toList, "=print(A1)".toList]⟩ := by
    unfold Sheet.IsNarrow
    decide
  have hfault : (intoDirectoryOptions.pass ⟨["h".toList, "=print(A1)".toList]⟩).fault =
      some (.cycle ["A1".toList, "A1".toList] 2) := by cbv
  have hreportable : Reportable intoDirectoryOptions shelf := by
    refine ⟨?_, ?_, ?_⟩
    · intro hnone
      cases hinput.symm.trans hnone
    · intro _ reason hnone
      cases houtput.symm.trans hnone
    · intro _ sheet fault _ _ hsheet hraised
      obtain rfl := Except.ok.inj (hread.symm.trans hsheet)
      obtain rfl := Option.some.inj (hfault.symm.trans hraised)
      refine ⟨?_, fun trail cell hcloses _ entered hmem => ?_, fun line hline => ?_⟩
      · intro cause hcause
        cases hcause
      · exact hnarrow.column_lt (hcloses.isTrail.inside entered hmem)
      · obtain rfl := Option.some.inj hline
        exact Column.lt_of_lt_lastPosition (by decide)
  refine ⟨hdetects, by cbv, (reports_iff_reportable hdetects shelf).mpr ?_⟩
  intro options hoptions
  obtain rfl := Request.evaluate.inj (hrequest.symm.trans hoptions)
  exact hreportable

/-- The sheet is evaluated into a directory that is not there. -/
def intoNowhere : List Text :=
  ["in.csv".toList, "no/out.csv".toList]

/-- No file can be created in a directory that is not there, and this is not reported. -/
theorem missing_directory_not_reported :
    (Request.ofArguments intoNowhere []).DetectsCycles ∧ ¬ (run intoNowhere [] shelf).Reports := by
  have hrequest : Request.ofArguments intoNowhere [] =
      .evaluate ⟨"in.csv".toList, "no/out.csv".toList, 100, true, .warning⟩ := by cbv
  have hunhandled : (run intoNowhere [] shelf).unhandled =
      some (.access ⟨"no/out.csv".toList, .noSuchFile⟩) := by cbv
  refine ⟨?_, ?_⟩
  · rw [hrequest]
    rfl
  · intro hreports
    cases hunhandled.symm.trans hreports.1

end CommandLine

end SheetCalc
