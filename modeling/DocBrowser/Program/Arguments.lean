/-!
# Arguments of the command line

An argument that starts with a dash names options: one in full behind two dashes, or one or more by
their letters. An option that takes a value finds it behind an equals sign, in the rest of its letters
or in the next argument, whatever that looks like. Two dashes alone end the options.
-/

namespace DocBrowser

/-- An option of a command: its names, dashes included, the one it goes by first. -/
structure OptionSpec where
  name : String
  aliases : List String := []
  takesValue : Bool := false

/-- What is wrong with a command line. -/
inductive UsageFault where
  | unknownOption (name : String)
  | missingValue (name : String)
  | unexpectedValue (name : String)
  | invalidValue (name value : String)
  | missingArgument (name : String)
  | extraArgument (value : String)
  | missingCommand
  | unknownCommand (name : String)
  /-- The user has asked for help. -/
  | help
  deriving DecidableEq, Repr

/-- A fault in words. -/
def UsageFault.message : UsageFault → String
  | .unknownOption name => "No such option: " ++ name
  | .missingValue name => "Option '" ++ name ++ "' requires an argument."
  | .unexpectedValue name => "Option '" ++ name ++ "' does not take a value."
  | .invalidValue name value => "Invalid value for '" ++ name ++ "': '" ++ value ++ "'"
  | .missingArgument name => "Missing argument '" ++ name ++ "'."
  | .extraArgument value => "Got unexpected extra argument (" ++ value ++ ")"
  | .missingCommand => "Missing command."
  | .unknownCommand name => "No such command '" ++ name ++ "'."
  | .help => ""

/-- Options as given, with their values, and the arguments that are no options. -/
structure Arguments where
  options : List (String × Option String) := []
  positional : List String := []

namespace Arguments

/-- What an argument that names options gives, and the option that takes the next argument. -/
structure Clause where
  given : List (String × Option String) := []
  pending : Option String := none

/-- The option of a name. -/
def lookup (specs : List OptionSpec) (name : String) : Option OptionSpec :=
  specs.find? fun spec => spec.name = name || spec.aliases.contains name

/-- Reads the letters of options. -/
def readLetters (specs : List OptionSpec) : List Char → Except UsageFault Clause
  | [] => .ok {}
  | c :: rest =>
    let name := String.ofList ['-', c]
    match lookup specs name with
    | none => .error (.unknownOption name)
    | some spec =>
      if spec.takesValue then
        match rest with
        | [] => .ok { pending := some spec.name }
        | value => .ok { given := [(spec.name, some (String.ofList value))] }
      else (readLetters specs rest).map fun clause =>
        { clause with given := (spec.name, none) :: clause.given }

/-- Reads an option in full, with its value if it has one behind an equals sign. -/
def readFull (specs : List OptionSpec) (argument : List Char) : Except UsageFault Clause :=
  let name := String.ofList (argument.takeWhile (· ≠ '='))
  match lookup specs name, argument.dropWhile (· ≠ '=') with
  | none, _ => .error (.unknownOption name)
  | some spec, [] =>
    if spec.takesValue then .ok { pending := some spec.name } else .ok { given := [(spec.name, none)] }
  | some spec, _ :: value =>
    if spec.takesValue then .ok { given := [(spec.name, some (String.ofList value))] }
    else .error (.unexpectedValue spec.name)

/-- Reads an argument that starts with a dash. -/
def readOption (specs : List OptionSpec) (argument : List Char) : Except UsageFault Clause :=
  match argument with
  | '-' :: '-' :: _ => readFull specs argument
  | _ => readLetters specs argument.tail

/-- Adds options in front. -/
def withOptions (options : List (String × Option String)) (arguments : Arguments) : Arguments :=
  { arguments with options := options ++ arguments.options }

/-- Whether an argument names options. -/
def namesOptions (argument : String) : Bool :=
  match argument.toList with
  | '-' :: _ :: _ => true
  | _ => false

/-- Sorts a command line into options and other arguments. Where options are read only up to the first
other argument, all that follows it is kept as it is. -/
def parse (specs : List OptionSpec) (mixed : Bool) : List String → Except UsageFault Arguments
  | [] => .ok {}
  | argument :: rest =>
    if argument = "--" then .ok { positional := rest }
    else if namesOptions argument then do
      let clause ← readOption specs argument.toList
      match clause.pending, rest with
      | none, rest => return (← parse specs mixed rest).withOptions clause.given
      | some name, value :: rest =>
        return (← parse specs mixed rest).withOptions (clause.given ++ [(name, some value)])
      | some name, [] => .error (.missingValue name)
    else if mixed then do
      let arguments ← parse specs mixed rest
      return { arguments with positional := argument :: arguments.positional }
    else .ok { positional := argument :: rest }

/-- The value of an option as it was given last. -/
def value? (arguments : Arguments) (name : String) : Option String :=
  (arguments.options.reverse.find? (·.1 = name)).bind (·.2)

/-- Whether an option was given. -/
def has (arguments : Arguments) (name : String) : Bool := arguments.options.any (·.1 = name)

/-- The only argument besides the options. -/
def single (arguments : Arguments) (name : String) : Except UsageFault String :=
  match arguments.positional with
  | [] => .error (.missingArgument name)
  | [value] => .ok value
  | _ :: value :: _ => .error (.extraArgument value)

/-- That there are no arguments besides the options. -/
def expectNone (arguments : Arguments) : Except UsageFault Unit :=
  match arguments.positional with
  | [] => .ok ()
  | value :: _ => .error (.extraArgument value)

end Arguments

end DocBrowser
