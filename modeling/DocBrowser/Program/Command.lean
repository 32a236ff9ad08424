import DocBrowser.Files.Path
import DocBrowser.Program.Arguments
import DocBrowser.Text.Digits
/-!
# Commands

The program is called with options of its own, the name of a command, and the arguments of that
command. The command's arguments are looked at only when the settings have been read.
-/

namespace DocBrowser

/-- The part of a query that a text is for. -/
inductive QueryPart where
  | filter
  | sort
  | projection
  deriving DecidableEq, Repr

/-- A query as it is typed on the command line. -/
structure QueryTexts where
  filter : Option String := none
  sort : Option String := none
  projection : Option String := none
  skip : Int := 0
  limit : Int := 50

/-- What the program can do. -/
inductive Command where
  /-- Compiles a text and prints the document. -/
  | compile (text : String) (part : QueryPart)
  /-- Prints the documents of a file. -/
  | format (path : Path) (sortKeys : Bool)
  /-- Opens the documents of a file that match a query. -/
  | browse (path : Path) (query : QueryTexts) (save : Bool)
  /-- Lists the saved queries, or forgets them. -/
  | history (clear : Bool)
  | version

/-- A call of the program. -/
structure Invocation where
  verbose : Bool := false
  /-- Where the settings are, unless in their usual place. -/
  directory : Option Path := none
  name : String
  arguments : List String

namespace Command

/-- The option that asks for help. -/
def helpOption : OptionSpec := { name := "--help" }

/-- The names of the commands. -/
def names : List String := ["compile", "format", "browse", "history", "version"]

/-- The options of a command. -/
def options : String → List OptionSpec
  | "compile" => [helpOption, { name := "--kind", aliases := ["-k"], takesValue := true }]
  | "format" => [helpOption, { name := "--sort-keys", aliases := ["-s"] }]
  | "browse" =>
    [helpOption, { name := "--filter", aliases := ["-f"], takesValue := true },
      { name := "--sort", takesValue := true },
      { name := "--projection", aliases := ["-p"], takesValue := true },
      { name := "--skip", takesValue := true },
      { name := "--limit", aliases := ["-n"], takesValue := true }, { name := "--save" }]
  | "history" => [helpOption, { name := "--clear" }]
  | _ => [helpOption]

/-- The part of a query that an option names. -/
def partOf (arguments : Arguments) : Except UsageFault QueryPart :=
  match arguments.value? "--kind" with
  | none | some "filter" => .ok .filter
  | some "sort" => .ok .sort
  | some "projection" => .ok .projection
  | some value => .error (.invalidValue "--kind" value)

/-- The whole number that an option gives. -/
def numberOf (arguments : Arguments) (name : String) (otherwise : Int) : Except UsageFault Int :=
  match arguments.value? name with
  | none => .ok otherwise
  | some value =>
    match Text.readInt value.toList with
    | .ok n => .ok n
    | .error _ => .error (.invalidValue name value)

/-- The command of a name with its arguments. -/
def ofArguments (name : String) (arguments : Arguments) : Except UsageFault Command := do
  if arguments.has "--help" then .error .help
  match name with
  | "compile" => return .compile (← arguments.single "TEXT") (← partOf arguments)
  | "format" => return .format (.ofText (← arguments.single "PATH")) (arguments.has "--sort-keys")
  | "browse" =>
    let query : QueryTexts :=
      { filter := arguments.value? "--filter", sort := arguments.value? "--sort"
        projection := arguments.value? "--projection", skip := ← numberOf arguments "--skip" 0
        limit := ← numberOf arguments "--limit" 50 }
    return .browse (.ofText (← arguments.single "PATH")) query (arguments.has "--save")
  | "history" =>
    arguments.expectNone
    return .history (arguments.has "--clear")
  | _ =>
    arguments.expectNone
    return .version

end Command

namespace Invocation

/-- The options of the program itself. -/
def options : List OptionSpec :=
  [Command.helpOption, { name := "--verbose", aliases := ["-v"] },
    { name := "--config-dir", takesValue := true }, { name := "--install-completion" },
    { name := "--show-completion" }]

/-- Reads a command line up to the arguments of the command. -/
def parse (arguments : List String) : Except UsageFault Invocation := do
  let own ← Arguments.parse options false arguments
  if arguments.isEmpty || own.has "--help" then .error .help
  match own.positional with
  | [] => .error .missingCommand
  | name :: rest =>
    if Command.names.contains name then
      return { verbose := own.has "--verbose", directory := (own.value? "--config-dir").map Path.ofText
               name, arguments := rest }
    else .error (.unknownCommand name)

/-- The command that is called for. -/
def command (invocation : Invocation) : Except UsageFault Command := do
  Command.ofArguments invocation.name
    (← Arguments.parse (Command.options invocation.name) true invocation.arguments)

end Invocation

end DocBrowser
