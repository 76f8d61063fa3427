import SheetCalc.Text.Basic

/-!
# Paths

A path is written with slashes between its parts. Empty parts and parts `.` carry no
meaning and are left out, so a path has one text. The suffix of a path is the end of
its last part from the last point on, unless that point is the first or last character.
-/

namespace SheetCalc

/-- A path: the slashes at its front, and its parts. -/
structure Path where
  root : Text
  parts : List Text
  deriving DecidableEq

namespace Path

/-- The slashes at the front of a path: none, two, or one for any other number. -/
def rootOf (text : Text) : Text :=
  match (text.takeWhile (· = '/')).length with
  | 0 => []
  | 2 => ['/', '/']
  | _ => ['/']

/-- The path that a text writes. -/
def ofText (text : Text) : Path :=
  ⟨rootOf text, (text.splitOn '/').filter fun part => part ≠ [] ∧ part ≠ ['.']⟩

/-- The text of a path; the path without parts is `.`. -/
def text (path : Path) : Text :=
  let written := path.root ++ ['/'].intercalate path.parts
  if written = [] then ['.'] else written

/-- The last part of a path. -/
def name (path : Path) : Text :=
  path.parts.getLastD []

/-- The suffix of a name. -/
def suffixOf (name : Text) : Text :=
  let ending := (name.reverse.takeWhile (· ≠ '.')).reverse
  let front := name.length - ending.length - 1
  if '.' ∈ name ∧ 0 < front ∧ ending ≠ [] then '.' :: ending else []

/-- The suffix of a path. -/
def suffix (path : Path) : Text :=
  suffixOf path.name

end Path

end SheetCalc
