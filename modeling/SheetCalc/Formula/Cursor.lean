import SheetCalc.Formula.OfTokens
import SheetCalc.SignedIndex

/-!
# Reading step by step

A cursor stands between the tokens of a formula. It reads them one step after another;
a step that fails leaves the cursor in front of the tokens that it did not read, and
reading can go on from there.
-/

namespace SheetCalc

/-- Tokens and the number of them that are read. -/
structure Cursor where
  tokens : List Token
  position : Nat

namespace Cursor

/-- The cursor in front of the first token. -/
def start (tokens : List Token) : Cursor :=
  ⟨tokens, 0⟩

/-- The tokens that are not read yet. -/
def rest (cursor : Cursor) : List Token :=
  cursor.tokens.drop cursor.position

/-- The cursor in front of the last `rest` tokens. -/
def moveTo (cursor : Cursor) (rest : List Token) : Cursor :=
  { cursor with position := cursor.tokens.length - rest.length }

/-- The token `offset` places after the cursor, if the formula does not end before it. A
place in front of the first token counts from the end. -/
def lookAhead (cursor : Cursor) (offset : Int) : Except OutOfRange (Option Token) :=
  let place := cursor.position + offset
  if cursor.tokens.length ≤ place then .ok none
  else (signedGet cursor.tokens place).map some

/-- Takes a step of the parser: its result, and the cursor afterwards. -/
def advance {α : Type} (cursor : Cursor) (step : (tokens : List Token) → Parsed α tokens) :
    Except ParseFailure α × Cursor :=
  match step cursor.rest with
  | .ok (result, rest) => (.ok result, cursor.moveTo rest.val)
  | .error stop => (.error stop.cause, cursor.moveTo stop.rest)

/-- Reads a whole formula from the first token on. -/
def formula (cursor : Cursor) (line : Int) : Except ParseFailure (Formula Leaf) × Cursor :=
  match Formula.whole line cursor.tokens with
  | .ok formula => (.ok formula, cursor.moveTo [])
  | .error stop => (.error stop.cause, cursor.moveTo stop.rest)

end Cursor

end SheetCalc
