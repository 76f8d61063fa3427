import SheetCalc.Main
import SheetCalc.Proofs.CommandLine.Frame
import SheetCalc.Proofs.CommandLine.Reports
import SheetCalc.Proofs.Csv.AtRisk
import SheetCalc.Proofs.Csv.Closing
import SheetCalc.Proofs.Csv.Decoding
import SheetCalc.Proofs.Csv.Failures
import SheetCalc.Proofs.Decimal.Nearest
import SheetCalc.Proofs.Evaluation.Filling
import SheetCalc.Proofs.Evaluation.Spellings
import SheetCalc.Proofs.Evaluation.Transparency
import SheetCalc.Proofs.Files.Checks
import SheetCalc.Proofs.Files.Export
import SheetCalc.Proofs.Files.Lines
import SheetCalc.Proofs.Files.Tables
import SheetCalc.Proofs.Formula.Arithmetic
import SheetCalc.Proofs.Formula.Cancellation
import SheetCalc.Proofs.Formula.Leaves
import SheetCalc.Proofs.Formula.Numbers
import SheetCalc.Proofs.Formula.Positions
import SheetCalc.Proofs.Formula.Replacement
import SheetCalc.Proofs.Formula.Semicolons
import SheetCalc.Proofs.Formula.Signals
import SheetCalc.Proofs.Formula.Source
import SheetCalc.Proofs.Formula.Substitution
import SheetCalc.Proofs.Pass.Absences
import SheetCalc.Proofs.Pass.Causes
import SheetCalc.Proofs.Pass.Cycles
import SheetCalc.Proofs.Pass.Extension
import SheetCalc.Proofs.Pass.Faults
import SheetCalc.Proofs.Pass.Histories
import SheetCalc.Proofs.Pass.Labels
import SheetCalc.Proofs.Pass.Reports
import SheetCalc.Proofs.Pass.Rows
import SheetCalc.Proofs.Pass.Values
import SheetCalc.Proofs.Sheet.Columns
