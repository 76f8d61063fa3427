import SheetCalc.Files.Path
import SheetCalc.Files.Tree

/-!
# Paths of CSV files

Before a sheet is read or written its path is checked: it must name a file, not a
directory, and a suffix, if it has one, must be `.csv` in any letter case. The
input must exist; a missing output is created, empty.
-/

namespace SheetCalc

/-- Why a path is refused. -/
inductive PathError where
  | missing (path : Path)
  | notAFile (path : Path)
  | notCsv (path : Path)
  /-- The path is too long to be looked up, or no file can be created there. -/
  | access (error : AccessError)
  deriving DecidableEq

/-- The wording of a path error. -/
def PathError.message : PathError → String
  | .missing path => String.ofList path.text ++ " does not exist"
  | .notAFile path => String.ofList path.text ++ " is not a file"
  | .notCsv path => String.ofList path.text ++ " is not a CSV file"
  | .access error => error.message

/-- A suffix that a CSV file may have: none, or `.csv` in any letter case. -/
def Path.hasCsvSuffix (path : Path) : Bool :=
  path.suffix = [] || path.suffix.map Char.toLower = ".csv".toList

namespace FileTree

/-- Checks the path of a CSV file and gives the tree afterwards. Unless the file `mustExist`,
a missing one is created. -/
def admitCsv (tree : FileTree) (path : Path) (mustExist : Bool) : Except PathError FileTree :=
  match tree.find path.text with
  | .error error => .error (.access error)
  | .ok found =>
    if mustExist ∧ found = none then .error (.missing path)
    else if found = some .directory then .error (.notAFile path)
    else if ¬ path.hasCsvSuffix then .error (.notCsv path)
    else if found.isSome then .ok tree
    else (tree.write path.text []).mapError .access

end FileTree

end SheetCalc
