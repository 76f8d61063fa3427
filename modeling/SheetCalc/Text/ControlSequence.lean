import SheetCalc.Text.Basic

/-!
# Control sequences

A terminal takes the escape character, a bracket, parameters and a letter as a command,
such as one that changes the colour of what follows. Messages quote names and cells, which
can hold such commands; they are printed without them.
-/

namespace SheetCalc.Text

/-- A character of the parameters of a control sequence. -/
def isParameter (c : Char) : Bool :=
  c.isDigit || c = ';' || c = '?'

/-- What follows the control sequence at the front of a text, if there is one. -/
def afterSequence? : Text → Option Text
  | '\x1b' :: '[' :: text =>
    match text.dropWhile isParameter with
    | c :: rest => if c.isAlpha then some rest else none
    | [] => none
  | _ => none

/-- What follows a control sequence is shorter than the text before it. -/
theorem length_of_afterSequence? {text rest : Text} (h : afterSequence? text = some rest) :
    rest.length < text.length := by
  unfold afterSequence? at h
  split at h
  · next parameters =>
    have shorter := (List.dropWhile_sublist (l := parameters) isParameter).length_le
    split at h
    · next after =>
      split at h
      · simp only [Option.some.injEq] at h
        rw [after, List.length_cons] at shorter
        simp only [List.length_cons, ← h]
        omega
      · simp at h
    · simp at h
  · simp at h

/-- A text with every control sequence left out. -/
def withoutSequences : Text → Text
  | [] => []
  | c :: text =>
    match _h : afterSequence? (c :: text) with
    | some rest => withoutSequences rest
    | none => c :: withoutSequences text
termination_by text => text.length
decreasing_by
  · have := length_of_afterSequence? ‹_›
    simpa using this
  · simp

end SheetCalc.Text
