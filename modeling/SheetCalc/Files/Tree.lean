import SheetCalc.Text.Quoted
import SheetCalc.Text.Utf8

/-!
# File trees

A file tree holds files with their contents, and directories, below a root. A name is
followed part by part, from the root when it starts with a slash and else from the
working directory; every part but the last must lead to a directory. The root is its
own parent, so no name leads out of the tree. A name has at most 4095 bytes, and a part
of it at most 255.
-/

namespace SheetCalc

/-- Why a name cannot be used. -/
inductive AccessReason where
  | noSuchFile
  | notADirectory
  | isADirectory
  /-- The name, or a part of it, has too many bytes. -/
  | nameTooLong
  /-- The name holds the null character, which no file name can. -/
  | nullCharacter
  deriving DecidableEq

/-- A name that cannot be used, and why. -/
structure AccessError where
  name : Text
  reason : AccessReason
  deriving DecidableEq

/-- The wording of an access error. -/
def AccessError.message (error : AccessError) : String :=
  let quoted := String.ofList (Text.quoted error.name)
  match error.reason with
  | .noSuchFile => "[Errno 2] No such file or directory: " ++ quoted
  | .notADirectory => "[Errno 20] Not a directory: " ++ quoted
  | .isADirectory => "[Errno 21] Is a directory: " ++ quoted
  | .nameTooLong => "[Errno 36] File name too long: " ++ quoted
  | .nullCharacter => "embedded null byte"

/-- What stands at a place of a tree. -/
inductive FileEntry where
  | file (content : Bytes)
  | directory
  deriving DecidableEq

/-- A place of a tree: the names that lead to it from the root. -/
abbrev Location := List Text

/-- Files and directories below a root directory, and the working directory. -/
structure FileTree where
  entries : List (Location × FileEntry)
  home : Location
  deriving DecidableEq

namespace FileTree

/-- What stands at a place. -/
def at? (tree : FileTree) (location : Location) : Option FileEntry :=
  if location = [] then some .directory else tree.entries.lookup location

/-- The tree with an entry put at a place, in place of the one that is there. -/
def put (tree : FileTree) (location : Location) (entry : FileEntry) : FileTree :=
  { tree with entries := (location, entry) :: tree.entries.filter (·.1 ≠ location) }

/-- What is put at a place stands there, and nothing else changes. -/
theorem at?_put (tree : FileTree) (location other : Location) (entry : FileEntry)
    (h : location ≠ []) :
    (tree.put location entry).at? other = if other = location then some entry else tree.at? other := by
  unfold at? put
  by_cases root : other = []
  · have distinct : other ≠ location := fun same => h (same ▸ root)
    simp [root, Ne.symm h]
  · by_cases same : other = location
    · simp [same, h]
    · have skip : (other == location) = false := by simpa using same
      simp only [root, if_false, same, List.lookup_cons, skip, ne_eq, decide_not]
      induction tree.entries with
      | nil => rfl
      | cons pair entries ih =>
        obtain ⟨place, old⟩ := pair
        by_cases moved : place = location
        · subst moved
          simp [List.lookup_cons, skip, ih]
        · cases hit : other == place <;> simp [List.lookup_cons, moved, hit, ih]

/-- The place that one part of a name leads to from a directory. -/
def enter (location : Location) (part : Text) : Location :=
  if part = ['.'] then location
  else if part = ['.', '.'] then location.dropLast
  else location ++ [part]

/-- The most bytes that a name can have. -/
def nameBytes : Nat := 4095

/-- The most bytes that a part of a name can have. -/
def partBytes : Nat := 255

/-- A text has more than `bound` bytes. -/
def isLongerThan (bound : Nat) (text : Text) : Bool :=
  bound < (Utf8.encode text).length

/-- The place that the parts of a name lead to. -/
def follow (tree : FileTree) : Location → List Text → Except AccessReason Location
  | location, [] => .ok location
  | location, part :: parts =>
    match tree.at? location with
    | none => .error .noSuchFile
    | some (.file _) => .error .notADirectory
    | some .directory =>
      if isLongerThan partBytes part then .error .nameTooLong
      else tree.follow (enter location part) parts

/-- A name ends with a slash, so it can only mean a directory. -/
def namesDirectory (name : Text) : Bool :=
  name.getLast? == some '/'

/-- The parts of a name between its slashes. -/
def partsOf (name : Text) : List Text :=
  (name.splitOn '/').filter (· ≠ [])

/-- The place from which a name is followed. -/
def origin (tree : FileTree) (name : Text) : Location :=
  if name.head? = some '/' then [] else tree.home

/-- The place that a name leads to, when the parts `parts` of it are followed. -/
def locateParts (tree : FileTree) (name : Text) (parts : List Text) :
    Except AccessReason Location :=
  if '\x00' ∈ name then .error .nullCharacter
  else if name = [] then .error .noSuchFile
  else if isLongerThan nameBytes name then .error .nameTooLong
  else tree.follow (tree.origin name) parts

/-- The place that a name means. A slash at its end asks for a directory, as a part `.` would. -/
def locate (tree : FileTree) (name : Text) : Except AccessReason Location :=
  tree.locateParts name (partsOf name ++ if namesDirectory name then [['.']] else [])

/-- What stands where a name leads, if anything does. Whether anything does cannot be told
of a name that is too long. -/
def find (tree : FileTree) (name : Text) : Except AccessError (Option FileEntry) :=
  match tree.locate name with
  | .ok location => .ok (tree.at? location)
  | .error .nameTooLong => .error ⟨name, .nameTooLong⟩
  | .error _ => .ok none

/-- A name leads to a file. -/
def hasFile (tree : FileTree) (name : Text) : Bool :=
  match tree.find name with
  | .ok (some (.file _)) => true
  | _ => false

/-- The content of the file with this name. -/
def read (tree : FileTree) (name : Text) : Except AccessError Bytes :=
  match tree.locate name with
  | .error reason => .error ⟨name, reason⟩
  | .ok location =>
    match tree.at? location with
    | none => .error ⟨name, .noSuchFile⟩
    | some .directory => .error ⟨name, .isADirectory⟩
    | some (.file content) => .ok content

/-- The place where a file with this name can be written: not that of a directory. A name
that can only mean a directory is refused before its last part is looked at. -/
def writable (tree : FileTree) (name : Text) : Except AccessError Location :=
  let parts := partsOf name
  if namesDirectory name then
    match tree.locateParts name (parts.dropLast ++ [['.']]) with
    | .error reason => .error ⟨name, reason⟩
    | .ok _ => .error ⟨name, .isADirectory⟩
  else
    match tree.locateParts name parts with
    | .error reason => .error ⟨name, reason⟩
    | .ok location =>
      if tree.at? location = some .directory then .error ⟨name, .isADirectory⟩
      else .ok location

/-- The tree with the file of this name written: a new file, or the old one with a new
content. -/
def write (tree : FileTree) (name : Text) (content : Bytes) : Except AccessError FileTree :=
  match tree.writable name with
  | .error error => .error error
  | .ok location => .ok (tree.put location (.file content))

/-- The files below the working directory with their names, parts joined by slashes. -/
def files (tree : FileTree) : List (Text × Bytes) :=
  tree.entries.filterMap fun (location, entry) =>
    match entry with
    | .file content =>
      if tree.home.isPrefixOf location then
        some (Text.join "/" (location.drop tree.home.length), content)
      else none
    | .directory => none

/-- The tree with a directory at a place, and with the directories that lead to it. -/
def makeDirectory (tree : FileTree) (location : Location) : FileTree :=
  (List.range location.length).foldl
    (fun tree length =>
      let place := location.take (length + 1)
      if (tree.at? place).isSome then tree else tree.put place .directory)
    tree

/-- The tree of nothing but the working directory. -/
def ofHome (home : Location) : FileTree :=
  makeDirectory ⟨[], home⟩ home

end FileTree

end SheetCalc
