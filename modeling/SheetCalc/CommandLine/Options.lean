import SheetCalc.CommandLine.Count

/-!
# Options

The command takes two paths, the input and the output, and options anywhere around
them. What follows `--` is never an option. Of an option given twice the last one
counts; the log level can also be set by a variable of the environment.
-/

namespace SheetCalc.CommandLine

/-- The levels of the log. -/
inductive LogLevel where
  | debug
  | info
  | warning
  | error
  deriving DecidableEq

/-- The log level with this name, in any letter case. -/
def LogLevel.ofName? (name : Text) : Option LogLevel :=
  let lower := String.ofList (name.map Char.toLower)
  if lower = "debug" then some .debug
  else if lower = "info" then some .info
  else if lower = "warning" then some .warning
  else if lower = "error" then some .error
  else none

/-- What the command is to do. -/
structure Options where
  input : Text
  output : Text
  flushEvery : Int
  detectCycles : Bool
  logLevel : LogLevel
  deriving DecidableEq

/-- What a command line asks for. -/
inductive Request where
  | help
  | evaluate (options : Options)
  /-- The command line is no use of the command. -/
  | misuse
  deriving DecidableEq

/-- The arguments of a command line, sorted out but not read. -/
structure Arguments where
  paths : List Text
  flushEvery : Option Text
  detectCycles : Bool
  logLevel : Option Text
  help : Bool

/-- The arguments of an empty command line. -/
def Arguments.empty : Arguments :=
  ⟨[], none, true, none, false⟩

/-- The name of the variable that sets the log level. -/
def logVariable : Text := "MINICEL_LOG".toList

/-- An argument that is an option: it starts with a dash and goes on after it. -/
def isOption (argument : Text) : Bool :=
  argument.head? = some '-' && 1 < argument.length

/-- The name of an option, and its value when there is an equal sign. -/
def splitOption (argument : Text) : Text × Option Text :=
  match argument.dropWhile (· ≠ '=') with
  | [] => (argument, none)
  | _ :: value => (argument.takeWhile (· ≠ '='), some value)

/-- The arguments with an option that takes a value set, if there is such an option. -/
def Arguments.setValue? (arguments : Arguments) (name value : Text) : Option Arguments :=
  if name = "--flush-every".toList then some { arguments with flushEvery := some value }
  else if name = "--log-level".toList then some { arguments with logLevel := some value }
  else none

/-- The arguments with an option that takes no value set, if there is such an option. -/
def Arguments.setFlag? (arguments : Arguments) (name : Text) : Option Arguments :=
  if name = "--detect-cycles".toList then some { arguments with detectCycles := true }
  else if name = "--no-detect-cycles".toList then some { arguments with detectCycles := false }
  else if name = "--help".toList then some { arguments with help := true }
  else none

/-- Sorts out a command line, unless it has an unknown option, an option without its value or
a value for an option that takes none. -/
def Arguments.ofList (arguments : Arguments) : List Text → Option Arguments
  | [] => some arguments
  | argument :: rest =>
    if argument = "--".toList then some { arguments with paths := arguments.paths ++ rest }
    else if ¬ isOption argument then
      ofList { arguments with paths := arguments.paths ++ [argument] } rest
    else
      match splitOption argument with
      | (name, some value) =>
        match arguments.setValue? name value with
        | some changed => ofList changed rest
        | none => none
      | (name, none) =>
        match arguments.setFlag? name with
        | some changed => ofList changed rest
        | none =>
          -- Without an equal sign the value is the next argument, even one that is an option.
          match rest with
          | [] => none
          | value :: rest =>
            match arguments.setValue? name value with
            | some changed => ofList changed rest
            | none => none

/-- The number of rows between two flushes. -/
def flushEvery? : Option Text → Option Nat
  | none => some 100
  | some text => count? text

/-- A text that can name a file: the null character is in no name. -/
def namesFile (path : Text) : Bool :=
  '\x00' ∉ path

/-- The log level: that of the option, or else that of the variable unless it is empty. -/
def logLevel? (option setting : Option Text) : Option LogLevel :=
  match option, setting with
  | some name, _ => LogLevel.ofName? name
  | none, none => some .warning
  | none, some [] => some .warning
  | none, some name => LogLevel.ofName? name

/-- What a command line asks for in an environment. Asking for help comes before everything
but a misuse of the options. -/
def Request.ofArguments (arguments : List Text) (environment : List (Text × Text)) : Request :=
  match Arguments.empty.ofList arguments with
  | none => .misuse
  | some sorted =>
    if sorted.help then .help
    else
      match sorted.paths, flushEvery? sorted.flushEvery,
          logLevel? sorted.logLevel (environment.lookup logVariable) with
      | [input, output], some flushEvery, some logLevel =>
        if namesFile input && namesFile output then
          .evaluate ⟨input, output, flushEvery, sorted.detectCycles, logLevel⟩
        else .misuse
      | _, _, _ => .misuse

end SheetCalc.CommandLine
