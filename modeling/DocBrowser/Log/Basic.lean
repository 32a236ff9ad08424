import DocBrowser.Calendar.Timestamp
import DocBrowser.Failure
/-!
# The log

What the program does is written to a log, one entry after the other. An entry names the part of the
program that it comes from, and its level decides whether it is kept.
-/

namespace DocBrowser

namespace Log

/-- How grave an entry is. -/
inductive Level where
  | debug
  | info
  | warning
  | error
  deriving DecidableEq, Repr, Inhabited

namespace Level

/-- The levels, the least grave first. -/
def all : List Level := [.debug, .info, .warning, .error]

/-- The name of a level. -/
def name : Level → String
  | .debug => "DEBUG"
  | .info => "INFO"
  | .warning => "WARNING"
  | .error => "ERROR"

/-- The level of a name. -/
def ofName? (name : String) : Option Level := all.find? (·.name = name)

/-- A number that grows with the level. -/
def weight : Level → Nat
  | .debug => 1
  | .info => 2
  | .warning => 3
  | .error => 4

end Level

/-- The parts of the program that write to the log. -/
inductive Source where
  | settings
  | compiler
  | store
  | query
  | history
  | service
  | navigator
  | viewer
  deriving DecidableEq, Repr

/-- The name of a part of the program. -/
def Source.name : Source → String
  | .settings => "mongopeek.config.settings"
  | .compiler => "mongopeek.documents.compiler"
  | .store => "mongopeek.services.store"
  | .query => "mongopeek.services.query"
  | .history => "mongopeek.services.history"
  | .service => "mongopeek.services.document_service"
  | .navigator => "mongopeek.navigator.state"
  | .viewer => "mongopeek.ui.document_viewer"

/-- An entry of the log. -/
structure Entry where
  source : Source
  level : Level
  message : String
  deriving DecidableEq, Repr

/-- An entry as a line. -/
def Entry.text (entry : Entry) : String :=
  entry.source.name ++ " - " ++ entry.level.name ++ " - " ++ entry.message

/-- A line of the log file: the time in UTC, given in seconds from the start of 1970, and the entry. -/
def Entry.line (entry : Entry) (seconds : Int) : String :=
  let time := ((Timestamp.ofMillis? (seconds * 1000)).map Timestamp.plainText).getD []
  String.ofList (time.map fun c => if c = 'T' then ' ' else c) ++ " - " ++ entry.text

/-- The entries that a log of some level keeps. -/
def kept (level : Level) (entries : List Entry) : List Entry :=
  entries.filter fun entry => level.weight ≤ entry.level.weight

end Log

end DocBrowser
