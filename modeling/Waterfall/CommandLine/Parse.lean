import Waterfall.CommandLine.Options

/-! # Reading the command line

Arguments are read from left to right. An option that takes a value gets it after an equals sign or
as the next argument, unless that begins with a dash. The value is checked when the next option or
the end is reached, so an argument that is no option at all, or a value for an option that takes
none, is reported first. Asking for the help ends the reading.
-/

namespace Waterfall.CommandLine

/-- An option of the program. -/
inductive Argument
  | monitor
  | help
  | setting (choice : Setting)
deriving DecidableEq, Repr

namespace Argument

/-- Every option, in the order of the help. -/
def all : List Argument := monitor :: Setting.all.map setting ++ [help]

/-- The name of an option, without its dashes. -/
def name : Argument → String
  | monitor => "monitor"
  | help => "help"
  | setting choice => choice.name

/-- The option as it is written, with its value if it takes one. -/
def text : Argument → String
  | monitor => "--monitor"
  | help => "--help"
  | setting choice => choice.text

/-- The option of a name. -/
def ofName? (name : String) : Option Argument := all.find? fun argument => argument.name == name

end Argument

/-- What one argument looks like. -/
inductive Token
  /-- Two dashes alone: no option follows. -/
  | escape
  /-- A name after two dashes, and what follows an equals sign. -/
  | long (name : String) (value : Option String)
  /-- The first letter after a single dash. -/
  | short (letter : Char)
  /-- Anything else. -/
  | plain (text : String)
deriving DecidableEq, Repr

/-- What an argument looks like. -/
def Token.ofText (text : String) : Token :=
  match text.toList with
  | ['-', '-'] => .escape
  | '-' :: '-' :: rest =>
    let name := rest.takeWhile (· != '=')
    match rest.dropWhile (· != '=') with
    | [] => .long (String.ofList name) none
    | _ :: value => .long (String.ofList name) (some (String.ofList value))
  | '-' :: letter :: _ => .short letter
  | _ => .plain text

/-- Why a command line is not accepted. -/
inductive Refusal
  | unknownArgument (argument : String)
  | missingValue (setting : Setting)
  | repeated (argument : Argument)
  | invalidValue (setting : Setting) (value : String) (fault : NumberFault)
  /-- A value for an option that takes none. -/
  | unexpectedValue (argument : Argument) (value : String)
deriving DecidableEq, Repr

/-- The name of a kind of refusal. -/
def Refusal.kind : Refusal → String
  | unknownArgument _ => "UnknownArgument"
  | missingValue _ => "InvalidValue"
  | repeated _ => "ArgumentConflict"
  | invalidValue _ _ _ => "ValueValidation"
  | unexpectedValue _ _ => "TooManyValues"

/-- The refusal with the texts from the command line changed. -/
def Refusal.mapArguments (change : String → String) : Refusal → Refusal
  | unknownArgument argument => unknownArgument (change argument)
  | invalidValue setting value fault => invalidValue setting (change value) fault
  | unexpectedValue argument value => unexpectedValue argument (change value)
  | refusal => refusal

/-- The refusal in words. -/
def Refusal.text : Refusal → String
  | unknownArgument argument => s!"unexpected argument '{argument}' found"
  | missingValue setting => s!"a value is required for '{setting.text}' but none was supplied"
  | repeated argument => s!"the argument '{argument.text}' cannot be used multiple times"
  | invalidValue setting value fault =>
    s!"invalid value '{value}' for '{setting.text}': {fault.text}"
  | unexpectedValue argument value =>
    s!"unexpected value '{value}' for '{argument.text}' found; no more were expected"

/-- What ends the reading of a command line early. -/
inductive Interruption
  /-- The help was asked for. -/
  | help
  | refused (refusal : Refusal)
deriving DecidableEq, Repr

/-- The name of a kind of interruption. -/
def Interruption.kind : Interruption → String
  | help => "DisplayHelp"
  | refused refusal => refusal.kind

/-- What was read so far. -/
structure Progress where
  options : Options := {}
  /-- The options that were given a value or set. -/
  given : List Argument := []
  /-- The option read last, with its value as far as there is one, still to be checked. -/
  pending : Option (Setting × Option String) := none

namespace Progress

/-- Note that an option was given, which may happen only once. -/
def giveOnce (progress : Progress) (argument : Argument) : Except Interruption Progress :=
  if argument ∈ progress.given then .error (.refused (.repeated argument))
  else .ok { progress with given := argument :: progress.given }

/-- Give an option its value. -/
def assign (progress : Progress) (setting : Setting) (value : String) :
    Except Interruption Progress := do
  let progress ← progress.giveOnce (.setting setting)
  match progress.options.assign setting value with
  | .ok options => return { progress with options }
  | .error fault => throw (.refused (.invalidValue setting value fault))

/-- Check the option read last. -/
def settle (progress : Progress) : Except Interruption Progress :=
  match progress.pending with
  | none => .ok progress
  | some (setting, none) => .error (.refused (.missingValue setting))
  | some (setting, some value) => { progress with pending := none }.assign setting value

/-- Read an option with what follows its equals sign. -/
def readLong (progress : Progress) : Argument → Option String → Except Interruption Progress
  | .setting setting, some value => do (← progress.settle).assign setting value
  | .setting setting, none => do return { ← progress.settle with pending := some (setting, none) }
  | .help, none => do
    let _ ← progress.settle
    throw .help
  | .monitor, none => do
    let progress ← (← progress.settle).giveOnce .monitor
    return { progress with options := { progress.options with monitor := true } }
  | flag, some value => .error (.refused (.unexpectedValue flag value))

/-- Read one argument before any escape. -/
def read (progress : Progress) : Token → Except Interruption Progress
  | .long name value =>
    match Argument.ofName? name with
    | some argument => progress.readLong argument value
    | none => .error (.refused (.unknownArgument s!"--{name}"))
  | .short letter =>
    if letter = 'h' then do
      let _ ← progress.settle
      throw .help
    else .error (.refused (.unknownArgument s!"-{letter}"))
  | .plain text =>
    match progress.pending with
    | some (setting, none) => .ok { progress with pending := some (setting, some text) }
    | _ => .error (.refused (.unknownArgument text))
  | .escape => .ok progress

/-- Read the remaining arguments; after an escape there may be none. -/
def readAll (progress : Progress) : List String → Except Interruption Progress
  | [] => progress.settle
  | text :: rest =>
    match Token.ofText text, rest with
    | .escape, [] => progress.settle
    | .escape, extra :: _ => .error (.refused (.unknownArgument extra))
    | token, rest => do (← progress.read token).readAll rest

end Progress

/-- The options of a command line. -/
def parse (arguments : List String) : Except Interruption Options := do
  return (← Progress.readAll {} arguments).options

end Waterfall.CommandLine
