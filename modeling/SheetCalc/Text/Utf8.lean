import SheetCalc.Text.Basic

/-!
# Bytes of a text file

Files hold texts in UTF-8. Decoding is strict: the first byte that does not fit
decides, and the error says which bytes were read as one character, where they
stand, and why they are none. A byte order mark is a character like any other.
-/

namespace SheetCalc

/-- The content of a file. -/
abbrev Bytes := List UInt8

/-- Why bytes are no character. -/
inductive Utf8Reason where
  /-- No character starts with this byte. -/
  | invalidStart
  /-- The byte after them does not continue the character. -/
  | invalidContinuation
  /-- The file ends within the character. -/
  | unexpectedEnd
  deriving DecidableEq

/-- The bytes at `start`, `count` of them, that are no character; `first` is the first. -/
structure Utf8Error where
  first : UInt8
  start : Nat
  count : Nat
  reason : Utf8Reason
  deriving DecidableEq

/-- The wording of a reason. -/
def Utf8Reason.message : Utf8Reason → String
  | .invalidStart => "invalid start byte"
  | .invalidContinuation => "invalid continuation byte"
  | .unexpectedEnd => "unexpected end of data"

/-- The wording of a decoding error: one byte is shown, several are counted. -/
def Utf8Error.message (error : Utf8Error) : String :=
  let place :=
    if error.count ≤ 1 then
      "byte 0x" ++ String.ofList (Text.hexadecimal 2 error.first.toNat) ++ " in position " ++
        toString error.start
    else
      "bytes in position " ++ toString error.start ++ "-" ++
        toString (error.start + error.count - 1)
  "'utf-8' codec can't decode " ++ place ++ ": " ++ error.reason.message

namespace Utf8

/-- A character whose first `count` bytes are read: `value` is what they say so far,
`missing` bytes are to come, and the next lies between `low` and `high`. -/
structure Partial where
  first : UInt8
  start : Nat
  count : Nat
  missing : Nat
  low : Nat
  high : Nat
  value : Nat

/-- What a byte at the start of a character says. -/
inductive Lead where
  | single (value : Nat)
  | sequence (missing low high value : Nat)
  | invalid

/-- The role of a first byte. The second byte is bounded so that every character has one
form, lies in the Unicode range and is no surrogate. -/
def lead (byte : UInt8) : Lead :=
  let code := byte.toNat
  if code < 0x80 then .single code
  else if code < 0xC2 then .invalid
  else if code < 0xE0 then .sequence 1 0x80 0xBF (code - 0xC0)
  else if code < 0xF0 then
    .sequence 2 (if code = 0xE0 then 0xA0 else 0x80) (if code = 0xED then 0x9F else 0xBF)
      (code - 0xE0)
  else if code < 0xF5 then
    .sequence 3 (if code = 0xF0 then 0x90 else 0x80) (if code = 0xF4 then 0x8F else 0xBF)
      (code - 0xF0)
  else .invalid

/-- Decodes the bytes from `position` on, after `pending` of a character and after the
characters `done`, last first. -/
def decodeFrom (done : Text) (position : Nat) (pending : Option Partial) :
    Bytes → Except Utf8Error Text
  | [] =>
    match pending with
    | none => .ok done.reverse
    | some begun => .error ⟨begun.first, begun.start, begun.count, .unexpectedEnd⟩
  | byte :: rest =>
    match pending with
    | none =>
      match lead byte with
      | .single value => decodeFrom (Char.ofNat value :: done) (position + 1) none rest
      | .sequence missing low high value =>
        decodeFrom done (position + 1) (some ⟨byte, position, 1, missing, low, high, value⟩) rest
      | .invalid => .error ⟨byte, position, 1, .invalidStart⟩
    | some begun =>
      if begun.low ≤ byte.toNat ∧ byte.toNat ≤ begun.high then
        -- Each byte after the first brings six bits.
        let value := 64 * begun.value + (byte.toNat - 0x80)
        if begun.missing ≤ 1 then
          decodeFrom (Char.ofNat value :: done) (position + 1) none rest
        else
          decodeFrom done (position + 1)
            (some { begun with
              count := begun.count + 1, missing := begun.missing - 1
              low := 0x80, high := 0xBF, value }) rest
      else .error ⟨begun.first, begun.start, begun.count, .invalidContinuation⟩

/-- The text that the bytes hold. -/
def decode (bytes : Bytes) : Except Utf8Error Text :=
  decodeFrom [] 0 none bytes

/-- The bytes that hold a text. -/
def encode (text : Text) : Bytes :=
  text.flatMap String.utf8EncodeChar

end Utf8

end SheetCalc
