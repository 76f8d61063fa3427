import SheetCalc.CommandLine.Options
import SheetCalc.Export
import SheetCalc.Files.CsvPath
import SheetCalc.Text.ControlSequence

/-!
# The command

The command checks both paths, reads the sheet and writes it evaluated. It exits with 0,
or prints one message and exits with 1; a misuse of the command line exits with 2.
Faults that are no report about the files or the sheet are not handled: they stop the
command without a message of its own.
-/

namespace SheetCalc.CommandLine

/-- How the command ended: its exit code, what it printed, the fault that it did not handle,
and the tree of files afterwards. -/
structure Outcome where
  exitCode : Nat
  printed : String
  unhandled : Option Fault
  tree : FileTree

/-- A message as it is printed: without control sequences, and with a line end. -/
def printedLine (message : String) : String :=
  String.ofList (Text.withoutSequences message.toList) ++ "\n"

/-- The command ended after printing a message. -/
def Outcome.failure (message : String) (tree : FileTree) : Outcome :=
  ⟨1, printedLine message, none, tree⟩

/-- The command ended with a fault: a reported one is printed. -/
def Outcome.ofFault (fault : Fault) (tree : FileTree) : Outcome :=
  match fault.report with
  | .ok message => .failure message tree
  | .error unhandled => ⟨1, "", some unhandled, tree⟩

/-- The command ended with a refused path. That a path cannot be looked up, or no file created
there, is not handled. -/
def Outcome.ofPathError (error : PathError) (tree : FileTree) : Outcome :=
  match error with
  | .access cause => ⟨1, "", some (.access cause), tree⟩
  | _ => .failure error.message tree

/-- Evaluates the sheet in the input file into the output file. -/
def evaluate (options : Options) (tree : FileTree) : Outcome :=
  let input := Path.ofText options.input
  let output := Path.ofText options.output
  match tree.admitCsv input true with
  | .error error => .ofPathError error tree
  | .ok tree =>
    match tree.admitCsv output false with
    | .error error => .ofPathError error tree
    | .ok tree =>
      match Sheet.read tree input with
      | .error fault => .ofFault fault tree
      | .ok sheet =>
        let evaluator := Evaluator.ofSheet sheet options.detectCycles
        match evaluator.exportTo options.flushEvery tree output.text with
        | (none, tree) => ⟨0, "", none, tree⟩
        | (some fault, tree) => .ofFault fault tree

/-- Runs the command. -/
def run (arguments : List Text) (environment : List (Text × Text)) (tree : FileTree) : Outcome :=
  match Request.ofArguments arguments environment with
  | .help => ⟨0, "", none, tree⟩
  | .misuse => ⟨2, "", none, tree⟩
  | .evaluate options => evaluate options tree

end SheetCalc.CommandLine
