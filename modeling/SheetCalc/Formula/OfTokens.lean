import SheetCalc.Formula.Reference

/-!
# Parsing

A formula is one call, `name(…)`. Between parentheses, and between the brackets of an
array, stand expressions; semicolons may stand anywhere between them and carry no
meaning. Parsing goes from left to right and looks at most one token ahead. Each step
gives its result and the tokens that it left; a successful step leaves fewer tokens
than it was given, which is why parsing ends. Trees nest to any depth: there is no
bound on the recursion.
-/

namespace SheetCalc

/-- A failed step: the cause, and the tokens that were not read. -/
structure Stop where
  cause : ParseFailure
  rest : List Token

/-- The outcome of a step on `tokens`: a failure, or a result and fewer tokens. -/
abbrev Parsed (α : Type) (tokens : List Token) :=
  Except Stop (α × { rest : List Token // rest.length < tokens.length })

namespace Formula

/-- What stands at a place of a formula, in messages. -/
def expressionName : Text := "expression".toList

/-- The name of the mark that ends a row of expressions, in messages. -/
def closerName : Mark → Text
  | .rightBracket => "right bracket".toList
  | _ => "right parenthesis".toList

mutual

/-- Reads one expression. -/
def expression (line : Int) : (tokens : List Token) → Parsed (Expr Leaf) tokens
  | [] => .error ⟨.grammar (.expected expressionName none), []⟩
  | .identifier name :: .mark .leftParen _ :: tokens =>
    match items line .rightParen tokens with
    | .error stop => .error stop
    | .ok (arguments, ⟨rest, _⟩) =>
      .ok (.call name arguments line, ⟨rest, by simp only [List.length_cons]; omega⟩)
  | .identifier name :: tokens =>
    if name = "true".toList then
      .ok (.leaf (.literal (.boolean true)), ⟨tokens, by simp⟩)
    else if name = "false".toList then
      .ok (.leaf (.literal (.boolean false)), ⟨tokens, by simp⟩)
    else
      match Reference.ofName name with
      | .error cause => .error ⟨cause, tokens⟩
      | .ok reference => .ok (.leaf (.reference reference), ⟨tokens, by simp⟩)
  | .number value :: tokens => .ok (.leaf (.literal (.number value)), ⟨tokens, by simp⟩)
  | .string content :: tokens => .ok (.leaf (.literal (.string content)), ⟨tokens, by simp⟩)
  | .mark .leftBracket _ :: tokens =>
    match items line .rightBracket tokens with
    | .error stop => .error stop
    | .ok (elements, ⟨rest, _⟩) =>
      .ok (.array elements, ⟨rest, by simp only [List.length_cons]; omega⟩)
  | token :: tokens =>
    .error ⟨.grammar (.expected expressionName (some token.kind)), token :: tokens⟩
termination_by tokens => (tokens.length, 0)

/-- Reads expressions up to the mark `closer`, which is read too. -/
def items (line : Int) (closer : Mark) :
    (tokens : List Token) → Parsed (List (Expr Leaf)) tokens
  | [] => .error ⟨.grammar (.expected (closerName closer) none), []⟩
  | token :: tokens =>
    if token.kind = .mark closer then .ok ([], ⟨tokens, by simp⟩)
    else if token.kind = .mark .semicolon then
      match items line closer tokens with
      | .error stop => .error stop
      | .ok (exprs, ⟨rest, _⟩) =>
        .ok (exprs, ⟨rest, by simp only [List.length_cons]; omega⟩)
    else
      match expression line (token :: tokens) with
      | .error stop => .error stop
      | .ok (expr, ⟨after, _⟩) =>
        match items line closer after with
        | .error stop => .error stop
        | .ok (exprs, ⟨rest, _⟩) => .ok (expr :: exprs, ⟨rest, by omega⟩)
termination_by tokens => (tokens.length, 1)

end

/-- Reads one token of the given kind, called `what` in messages. -/
def tokenOf (kind : Token.Kind) (what : Text) : (tokens : List Token) → Parsed Token tokens
  | [] => .error ⟨.grammar (.expected what none), []⟩
  | token :: tokens =>
    if token.kind = kind then .ok (token, ⟨tokens, by simp⟩)
    else .error ⟨.grammar (.expected what (some token.kind)), token :: tokens⟩

/-- Reads one token of any kind. -/
def anyToken : (tokens : List Token) → Parsed Token tokens
  | [] => .error ⟨.grammar .endOfFormula, []⟩
  | token :: tokens => .ok (token, ⟨tokens, by simp⟩)

/-- Reads a call. -/
def call (line : Int) (tokens : List Token) : Parsed (Formula Leaf) tokens :=
  match tokenOf .identifier "identifier".toList tokens with
  | .error stop => .error stop
  | .ok (name, ⟨afterName, _⟩) =>
    match tokenOf (.mark .leftParen) "left parenthesis".toList afterName with
    | .error stop => .error stop
    | .ok (_, ⟨inside, _⟩) =>
      match items line .rightParen inside with
      | .error stop => .error stop
      | .ok (arguments, ⟨rest, _⟩) => .ok (⟨name.text, arguments, line⟩, ⟨rest, by omega⟩)

/-- Reads an array. -/
def array (line : Int) (tokens : List Token) : Parsed (Expr Leaf) tokens :=
  match tokenOf (.mark .leftBracket) "left bracket".toList tokens with
  | .error stop => .error stop
  | .ok (_, ⟨inside, _⟩) =>
    match items line .rightBracket inside with
    | .error stop => .error stop
    | .ok (elements, ⟨rest, _⟩) => .ok (.array elements, ⟨rest, by omega⟩)

/-- Reads a token of any kind as the name of a cell. -/
def reference (tokens : List Token) : Parsed Reference tokens :=
  match anyToken tokens with
  | .error stop => .error stop
  | .ok (token, rest) =>
    match Reference.ofName token.text with
    | .error cause => .error ⟨cause, rest.val⟩
    | .ok reference => .ok (reference, rest)

/-- Reads a formula: a call, and nothing after it. -/
def whole (line : Int) (tokens : List Token) : Except Stop (Formula Leaf) :=
  match call line tokens with
  | .error stop => .error stop
  | .ok (formula, ⟨[], _⟩) => .ok formula
  | .ok (formula, ⟨token :: rest, _⟩) =>
    .error ⟨.grammar (.trailing formula.name (some token.kind)), token :: rest⟩

/-- The formula that tokens write. -/
def ofTokens (line : Int) (tokens : List Token) : Except ParseFailure (Formula Leaf) :=
  match whole line tokens with
  | .error stop => .error stop.cause
  | .ok formula => .ok formula

end Formula

end SheetCalc
