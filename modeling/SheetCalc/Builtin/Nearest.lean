import SheetCalc.Builtin.Name

/-!
# The nearest name

An unknown function is answered with the builtin function of the most similar name.
Two names are as similar as the share of their characters that is left when the
fewest insertions and deletions turn one into the other.
-/

namespace SheetCalc.Builtin

/-- One row of the table of common subsequences: the lengths for `c` put in front of a text,
from the lengths `row` without it. `row` has one entry more than `name`. -/
def subsequenceRow (c : Char) : (name : Text) → (row : List Nat) → List Nat
  | d :: name, above :: row =>
    let rest := subsequenceRow c name row
    let length :=
      if c = d then row.headD 0 + 1 else max above (rest.headD 0)
    length :: rest
  | _, _ => [0]

/-- The length of the longest common subsequence of two texts. -/
def commonLength (text name : Text) : Nat :=
  (text.foldr (fun c row => subsequenceRow c name row)
    (List.replicate (name.length + 1) 0)).headD 0

/-- The fewest insertions and deletions that turn one text into the other. -/
def distance (text name : Text) : Nat :=
  text.length + name.length - 2 * commonLength text name

/-- The similarity of two texts, from 0 to 100. -/
def similarity (text name : Text) : Float :=
  let total := text.length + name.length
  if total = 0 then 100.0
  else (1.0 - (distance text name).toFloat / total.toFloat) * 100.0

/-- The most similar of some functions, the first of several. -/
def mostSimilar? (text : Text) : List Builtin → Option (Builtin × Float)
  | [] => none
  | function :: functions =>
    let score := similarity text function.name
    match mostSimilar? text functions with
    | none => some (function, score)
    -- Of equal scores the earlier function wins.
    | some (other, best) => if score ≥ best then some (function, score) else some (other, best)

/-- The function with the most similar name, if the similarity reaches `threshold`, a share
between 0 and 1. -/
def nearest? (text : Text) (threshold : Float) : Option Builtin :=
  match mostSimilar? text all with
  | none => none
  | some (function, score) => if score ≥ threshold * 100.0 then some function else none

/-- The share at which a name is suggested for an unknown function. -/
def suggestionThreshold : Float := 0.6

end SheetCalc.Builtin
