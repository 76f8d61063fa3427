import SheetCalc.CommandLine.Run

/-!
# The program

Looks up what the two paths of the command line lead to, runs the command on that part
of the file tree, writes the files that it changed, and prints its message.
-/

namespace SheetCalc

/-- The name of a place, from the root. -/
def Location.name (location : Location) : String :=
  "/" ++ String.ofList (Text.join "/" location)

/-- What stands at a place. What is there and cannot be read as a file is a directory. -/
def Location.observe (location : Location) : IO (Option FileEntry) := do
  try
    let content ← IO.FS.readBinFile location.name
    return some (.file content.toList)
  catch error =>
    match error with
    | .noFileOrDirectory .. => return none
    | _ => return some .directory

/-- A tree with everything that stands on the way of a path. -/
def FileTree.observePath (tree : FileTree) (path : Path) : IO FileTree := do
  let mut seen := tree
  let mut location := tree.origin path.text
  for part in path.parts do
    location := enter location part
    if (seen.at? location).isNone then
      if let some entry ← location.observe then
        seen := seen.put location entry
  return seen

/-- Writes every file that is new or has a new content. -/
def FileTree.commit (before after : FileTree) : IO Unit := do
  for (location, entry) in after.entries do
    if let .file content := entry then
      if before.at? location ≠ some entry then
        IO.FS.writeBinFile location.name ⟨content.toArray⟩

/-- How the command is used. -/
def usage : String :=
  "Usage: sheetcalc [--flush-every N] [--detect-cycles | --no-detect-cycles] " ++
    "[--log-level debug|info|warning|error] INPUT OUTPUT"

/-- Runs the command on what the command line and the environment ask for. -/
def runCommand (arguments : List String) : IO UInt32 := do
  let words := arguments.map String.toList
  let environment ← do
    match ← IO.getEnv (String.ofList CommandLine.logVariable) with
    | some setting => pure [(CommandLine.logVariable, setting.toList)]
    | none => pure []
  let mut tree := FileTree.ofHome (FileTree.partsOf (← IO.currentDir).toString.toList)
  match CommandLine.Request.ofArguments words environment with
  | .evaluate options =>
    tree ← tree.observePath (.ofText options.input)
    tree ← tree.observePath (.ofText options.output)
  | .help => IO.println usage
  | .misuse => IO.eprintln usage
  let outcome := CommandLine.run words environment tree
  tree.commit outcome.tree
  IO.print outcome.printed
  if let some fault := outcome.unhandled then IO.eprintln fault.message
  return UInt32.ofNat outcome.exitCode

end SheetCalc

/-- Runs the command and gives its exit code. -/
def main (arguments : List String) : IO UInt32 :=
  SheetCalc.runCommand arguments
