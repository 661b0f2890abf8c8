import IdentityCache.CommandLine.Options

/-!
# Reading the command line

Arguments are read from left to right.  A parameter is given as `--name`, the value
of an option as `--name=value` or as the next argument, unless that begins with a
hyphen and is not a hyphen alone.  Nothing but parameters is accepted, and each of
them at most once.

The value of an option that is the next argument is taken in when the argument after
it has been recognised as a parameter, or at the end of the line.  Parameters that
were not given take their value from the environment, or else their default.
-/

namespace IdentityCache.CommandLine

set_option autoImplicit false

/-- Why a command line cannot be used. -/
inductive UsageError
  /-- An argument is not a parameter. -/
  | unknownArgument
  /-- An option has no value. -/
  | invalidValue
  /-- The text of a value cannot be read. -/
  | valueValidation
  /-- A parameter was given twice. -/
  | argumentConflict
  /-- A switch was given a value. -/
  | tooManyValues
  /-- A log filter would have to be cut within a character, which is a crash. -/
  | uncuttableFilter
  deriving DecidableEq, Repr

/-- The variables of the environment that parameters take their values from. -/
structure Environment where
  namespaceName : Option String := none
  logFilter : Option String := none
  deriving DecidableEq, Repr

/-- What the arguments read so far come to. -/
structure Selection where
  options : Options := {}
  given : List Parameter := []
  /-- The option whose value is being read, and its value once that has been read. -/
  current : Option (ValueOption × Option String) := none
  /-- Whether two hyphens have ended the parameters. -/
  ended : Bool := false
  deriving DecidableEq, Repr

/-- The parts of an argument that begins with two hyphens: a name, and the text after the first
equals sign. -/
def splitArgument (text : List Char) : String × Option String :=
  let name := text.takeWhile (· ≠ '=')
  match text.drop name.length with
  | [] => (String.ofList name, none)
  | _ :: value => (String.ofList name, some (String.ofList value))

namespace Selection

/-- Notes that a parameter was given. -/
def note (selection : Selection) (parameter : Parameter) : Except UsageError Selection :=
  if parameter ∈ selection.given then .error .argumentConflict
  else .ok { selection with given := parameter :: selection.given }

/-- Why a text is no value of an option. -/
def valueFault (option : ValueOption) (text : String) : UsageError :=
  if option = .logLevel ∧ filterVerdict text = .uncuttable then .uncuttableFilter
  else .valueValidation

/-- Gives an option a value. -/
def assign (selection : Selection) (option : ValueOption) (text : String) :
    Except UsageError Selection := do
  let selection ← selection.note (.option option)
  match selection.options.assign? option text with
  | some options => .ok { selection with options }
  | none => .error (valueFault option text)

/-- Takes in the option whose value was being read. -/
def finishCurrent (selection : Selection) : Except UsageError Selection :=
  match selection.current with
  | none => .ok selection
  | some (_, none) => .error .invalidValue
  | some (option, some text) => { selection with current := none }.assign option text

/-- Reads an argument that gives a parameter. -/
def takeParameter (selection : Selection) (parameter : Parameter) (value : Option String) :
    Except UsageError Selection :=
  match parameter, value with
  | .switch _, some _ => .error .tooManyValues
  | .switch switch, none => do
    let selection ← selection.finishCurrent
    let selection ← selection.note (.switch switch)
    .ok { selection with options := selection.options.turnOn switch }
  | .option option, some text => do
    let selection ← selection.finishCurrent
    selection.assign option text
  | .option option, none => do
    let selection ← selection.finishCurrent
    .ok { selection with current := some (option, none) }

/-- Reads the next argument. -/
def takeArgument (selection : Selection) (argument : String) : Except UsageError Selection :=
  if selection.ended then .error .unknownArgument
  else
    match argument.toList with
    | ['-', '-'] => .ok { selection with ended := true }
    | '-' :: '-' :: text =>
      let (name, value) := splitArgument text
      match Parameter.ofName? name with
      | some parameter => selection.takeParameter parameter value
      | none => .error .unknownArgument
    | '-' :: _ :: _ => .error .unknownArgument
    | _ =>
      match selection.current with
      | some (option, none) => .ok { selection with current := some (option, some argument) }
      | some (_, some _) | none => .error .unknownArgument

/-- Gives an option the value of a variable, if the variable is set and the option was not
given. -/
def takeVariable (selection : Selection) (option : ValueOption) (value : Option String) :
    Except UsageError Selection :=
  match value with
  | none => .ok selection
  | some text =>
    if .option option ∈ selection.given then .ok selection else selection.assign option text

end Selection

/-- The values of all parameters for a command line and an environment. -/
def Options.ofArguments (environment : Environment) (arguments : List String) :
    Except UsageError Options := do
  let selection ← arguments.foldlM Selection.takeArgument {}
  let selection ← selection.finishCurrent
  let selection ← selection.takeVariable .logLevel environment.logFilter
  let selection ← selection.takeVariable .namespaceName environment.namespaceName
  return selection.options

end IdentityCache.CommandLine
