import SheetCalc.Decimal.Numeral
import SheetCalc.Text.Blank

/-!
# Tokens

A formula is written with names, quoted texts, numbers, and the marks `;`, `(`, `)`,
`[` and `]`, with blanks anywhere between them. Reading takes the longest name or
numeral each time. `Token.list` gives the tokens of a formula or the first cause why
it has none.
-/

namespace SheetCalc

/-- A mark between the other tokens. -/
inductive Mark where
  | semicolon
  | leftParen
  | rightParen
  | leftBracket
  | rightBracket
  deriving DecidableEq

/-- A piece of a formula. A mark knows how it was written; only the mark itself has a meaning. -/
inductive Token where
  | identifier (name : Text)
  | string (content : Text)
  | number (value : Decimal)
  | mark (sign : Mark) (written : Text)
  deriving DecidableEq

namespace Token

/-- The kinds of tokens. -/
inductive Kind where
  | identifier
  | string
  | number
  | mark (sign : Mark)
  deriving DecidableEq

/-- The kind of a token. -/
def kind : Token → Kind
  | .identifier _ => .identifier
  | .string _ => .string
  | .number _ => .number
  | .mark sign _ => .mark sign

/-- The name of a kind in messages. -/
def Kind.name : Kind → String
  | .identifier => "IDENTIFIER"
  | .string => "STRING"
  | .number => "NUMBER"
  | .mark .semicolon => "SEMICOLON"
  | .mark .leftParen => "LPAREN"
  | .mark .rightParen => "RPAREN"
  | .mark .leftBracket => "LBRACKET"
  | .mark .rightBracket => "RBRACKET"

/-- What a token carries, as text: a name, a quoted text without its quotes, a number in
plain notation, or a mark as it was written. -/
def text : Token → Text
  | .identifier name => name
  | .string content => content
  | .number value => value.plain
  | .mark _ written => written

end Token

/-- Why a text is not a list of tokens. -/
inductive LexicalError where
  /-- A character that starts no token. -/
  | unknownCharacter (c : Char)
  /-- A quote without a second one. -/
  | unclosedString
  /-- A numeral followed by another point. -/
  | secondPoint
  /-- A numeral followed by a minus sign. -/
  | innerMinus
  /-- A numeral without a digit. -/
  | noDigits (numeral : Text)
  deriving DecidableEq

/-- The wording of a lexical error. -/
def LexicalError.message : LexicalError → String
  | .unknownCharacter c => "Unknown character: " ++ String.singleton c
  | .unclosedString => "String is not closed"
  | .secondPoint => "Invalid float number"
  | .innerMinus => "Invalid negative number"
  | .noDigits numeral => "Invalid number `" ++ String.ofList numeral ++ "`"

namespace Token

/-- The mark that a character is. -/
def mark? : Char → Option Mark
  | ';' => some .semicolon
  | '(' => some .leftParen
  | ')' => some .rightParen
  | '[' => some .leftBracket
  | ']' => some .rightBracket
  | _ => none

/-- A character that a name can start with. -/
def startsName (c : Char) : Bool :=
  c == '_' || c.isAlpha

/-- A character that a name can go on with. -/
def continuesName (c : Char) : Bool :=
  startsName c || c.isDigit

/-- The number at the front of a text, and what follows it. -/
def number? (text : Text) : Except LexicalError (Token × Text) :=
  let (numeral, rest) := Numeral.split text
  match rest with
  | '.' :: _ => .error .secondPoint
  | '-' :: _ => .error .innerMinus
  | _ =>
    if numeral.digits = [] then .error (.noDigits numeral.text)
    else .ok (.number numeral.value, rest)

/-- The token that starts with the character `c`, which is no blank, and what follows. -/
def first (c : Char) (text : Text) : Except LexicalError (Token × Text) :=
  match mark? c with
  | some sign => .ok (.mark sign [c], text)
  | none =>
    if c = '"' then
      match text.dropWhile (· ≠ '"') with
      | [] => .error .unclosedString
      | _ :: rest => .ok (.string (text.takeWhile (· ≠ '"')), rest)
    else if c.isDigit ∨ c = '-' then number? (c :: text)
    else if startsName c then
      .ok (.identifier (c :: text.takeWhile continuesName), text.dropWhile continuesName)
    else .error (.unknownCharacter c)

/-- What follows a number is shorter than the text before it. -/
theorem length_of_number? {text : Text} {token : Token} {rest : Text}
    (h : number? text = .ok (token, rest)) : rest.length < text.length := by
  have lossless := congrArg List.length (Numeral.text_split text)
  unfold number? at h
  simp only at h
  split at h
  · simp at h
  · simp at h
  · split at h
    · simp at h
    · next digits =>
      simp only [Except.ok.injEq, Prod.mk.injEq] at h
      have nonempty : 0 < (Numeral.split text).1.text.length := by
        rw [Numeral.digits] at digits
        rw [Numeral.text]
        cases whole : (Numeral.split text).1.whole with
        | cons c cs =>
          simp only [List.length_append, List.length_cons]
          omega
        | nil =>
          cases fraction : (Numeral.split text).1.fraction with
          | none => simp [whole, fraction] at digits
          | some ds =>
            simp only [List.length_append, List.length_cons]
            omega
      rw [List.length_append] at lossless
      rw [← h.2]
      omega

/-- What follows a token is no longer than the text after its first character. -/
theorem length_of_first {c : Char} {text : Text} {token : Token} {rest : Text}
    (h : first c text = .ok (token, rest)) : rest.length ≤ text.length := by
  unfold first at h
  split at h
  · simp only [Except.ok.injEq, Prod.mk.injEq] at h
    simp [← h.2]
  · split at h
    · split at h
      · simp at h
      · next after =>
        simp only [Except.ok.injEq, Prod.mk.injEq] at h
        have shorter := (List.dropWhile_sublist (l := text) (· ≠ '"')).length_le
        rw [after, List.length_cons] at shorter
        rw [← h.2]
        omega
    · split at h
      · have shorter := length_of_number? h
        simp only [List.length_cons] at shorter
        omega
      · split at h
        · simp only [Except.ok.injEq, Prod.mk.injEq] at h
          rw [← h.2]
          exact (List.dropWhile_sublist _).length_le
        · simp at h

/-- The tokens of a text, blanks skipped. -/
def scan : Text → Except LexicalError (List Token)
  | [] => .ok []
  | c :: text =>
    if Text.isBlank c then scan text
    else
      match _h : first c text with
      | .error cause => .error cause
      | .ok (token, rest) =>
        match scan rest with
        | .error cause => .error cause
        | .ok tokens => .ok (token :: tokens)
termination_by text => text.length
decreasing_by
  · simp
  · have := length_of_first ‹_›
    simp only [List.length_cons]
    omega

/-- The tokens of a formula, whose ends are trimmed first. -/
def list (formula : Text) : Except LexicalError (List Token) :=
  scan (Text.trim formula)

end Token

end SheetCalc
