import DocBrowser.Files.Path
import DocBrowser.Json.Parse
import DocBrowser.Json.Write
import DocBrowser.Log.Basic
/-!
# Settings

Settings are read from a file of JSON whose keys stand over the defaults. A file that is missing or
holds something else than an object gives the defaults; a setting with a bad value is refused. Saved
settings read back as they were.
-/

namespace DocBrowser

/-- Which editor is opened. -/
structure EditorSettings where
  command : String := ""
  /-- The variable of the environment that names an editor where no command is set. -/
  variableName : String := "EDITOR"
  deriving DecidableEq, Repr

/-- The settings of the program. -/
structure Settings where
  editor : EditorSettings := {}
  timezone : String := "UTC"
  historySize : Int := 10
  logLevel : Log.Level := .info
  sortKeys : Bool := false
  deriving DecidableEq, Repr

namespace EditorSettings

/-- The editor when nothing else names one. -/
def fallback : String := "vi"

/-- The command that opens the editor: the one that is set, or else the one in the environment. -/
def resolve (settings : EditorSettings) (environment : String → Option String) : String :=
  if settings.command ≠ "" then settings.command
  else if settings.variableName = "" then fallback
  else
    match Text.trim ((environment settings.variableName).getD "").toList with
    | [] => fallback
    | command => String.ofList command

end EditorSettings

namespace Settings

/-! ## Files -/

/-- The file of the settings in their directory. -/
def fileIn (directory : Path) : Path := directory.child "config.json"

/-- The file of the saved queries. -/
def historyIn (directory : Path) : Path := directory.child "history.txt"

/-- The file of the log. -/
def logIn (directory : Path) : Path := directory.child "mongopeek.log"

/-! ## Reading -/

/-- The failure for a setting with a bad value. -/
def refused (message setting : String) : Failure := .report (.configuration message setting)

/-- The text of a field that may be missing or empty. -/
def textField (fields : List (String × Json)) (key : String) : String :=
  match field? fields key with
  | some value => if value.counts then String.ofList value.plainText else ""
  | none => ""

/-- The editor in the fields of a file. -/
def readEditor (fields : List (String × Json)) : Except Failure EditorSettings :=
  match field? fields "editor" with
  | none => .ok {}
  | some value =>
    if !value.counts then .ok { command := "", variableName := "" }
    else
      match value with
      | .obj own => .ok { command := textField own "command", variableName := textField own "env" }
      | _ => .error (refused "editor must be an object" "editor")

/-- The number of saved queries in the fields of a file. -/
def readHistorySize (fields : List (String × Json)) : Except Failure Int :=
  match (field? fields "history_size").getD (.int 10) with
  | .int n =>
    if 1 ≤ n then .ok n
    else .error (refused "history_size must be a positive integer" "history_size")
  | _ => .error (refused "history_size must be a positive integer" "history_size")

/-- The upper case of a letter in the name of a level, where the dotless i counts as an i. -/
def upperCase (c : Char) : Char := if c = 'ı' then 'I' else c.toUpper

/-- The level of the log in the fields of a file. -/
def readLogLevel (fields : List (String × Json)) : Except Failure Log.Level :=
  match field? fields "log_level" with
  | none => .ok .info
  | some value =>
    match Log.Level.ofName? (String.ofList (value.plainText.map upperCase)) with
    | some level => .ok level
    | none =>
      let names := ", ".intercalate (Log.Level.all.map (·.name))
      .error (refused ("log_level must be one of " ++ names) "log_level")

/-- The name of the time zone in the fields of a file. -/
def readTimezone (fields : List (String × Json)) : String :=
  match field? fields "timezone" with
  | none => "UTC"
  | some value => String.ofList value.plainText

/-- Whether keys are sorted, in the fields of a file. -/
def readSortKeys (fields : List (String × Json)) : Bool :=
  match field? fields "sort_keys" with
  | none => false
  | some value => value.counts

/-- The time zone of settings. -/
def zone (settings : Settings) (zones : ZoneData := .own) : Except Failure Zone :=
  match Zone.ofName? settings.timezone zones with
  | some zone => .ok zone
  | none => .error (refused (Zone.unknownMessage settings.timezone) "timezone")

/-- The settings in the fields of a file. -/
def ofFields (fields : List (String × Json)) (zones : ZoneData := .own) : Except Failure Settings := do
  let editor ← readEditor fields
  let historySize ← readHistorySize fields
  let logLevel ← readLogLevel fields
  let settings : Settings :=
    { editor, timezone := readTimezone fields, historySize, logLevel, sortKeys := readSortKeys fields }
  let _ ← settings.zone zones
  return settings

/-- What a file of settings holds. -/
inductive Contents where
  | missing
  | object (fields : List (String × Json))
  /-- JSON, but no object. -/
  | otherData
  /-- No JSON, with the fault in words. -/
  | corrupt (message : String)

/-- What the text of a file holds. A number that is too long to convert fails at once. -/
def contentsOf (file : Option (List Char)) : Except Failure Contents :=
  match file with
  | none => .ok .missing
  | some text =>
    let text := Text.universalNewlines text
    match Json.parseLenient text with
    | .ok (.obj fields) => .ok (.object fields)
    | .ok _ => .ok .otherData
    | .error (.syntaxAt fault position) => .ok (.corrupt ((Json.Fault.syntaxAt fault position).message text))
    | .error fault => .error (.conversion (fault.message text))

/-- The fields that a file sets. -/
def Contents.given : Contents → List (String × Json)
  | .object fields => fields
  | _ => []

/-- The settings in a file that may be missing. -/
def load (file : Option (List Char)) (zones : ZoneData := .own) : Except Failure Settings := do
  ofFields (← contentsOf file).given zones

/-- What the log says when a file of settings is passed over because it cannot be read. -/
def unreadable (path : Path) (reason : String) : Log.Entry :=
  ⟨.settings, .warning, "Ignoring unreadable config " ++ path.text ++ ": " ++ reason⟩

/-- What the log says about a file of settings. -/
def warnings (path : Path) (file : Option (List Char)) : List Log.Entry :=
  match contentsOf file with
  | .ok .otherData =>
    [⟨.settings, .warning, "Ignoring " ++ path.text ++ ": top level is not an object"⟩]
  | .ok (.corrupt message) => [unreadable path message]
  | _ => []

/-! ## Writing -/

/-- Settings as data. -/
def toJson (settings : Settings) : Json :=
  .obj [("editor", .obj [("command", .str settings.editor.command),
      ("env", .str settings.editor.variableName)]),
    ("timezone", .str settings.timezone), ("history_size", .int settings.historySize),
    ("log_level", .str settings.logLevel.name), ("sort_keys", .bool settings.sortKeys)]

/-- The text of a file of settings. -/
def fileOf (settings : Settings) : List Char := Json.write ⟨.indented, true⟩ settings.toJson ++ ['\n']

end Settings

end DocBrowser
