import DocBrowser.Json.Basic
/-!
# Reports

A report is what the user is told about something that failed: a message and, in brackets, the
circumstances. Each kind of report has a message of its own and circumstances that it names itself.
-/

namespace DocBrowser

/-- The kinds of reports. -/
inductive ReportKind where
  | general
  | compile
  | format
  | editor
  | clipboard
  | query
  | store
  | notFound
  | configuration
  deriving DecidableEq, Repr, Inhabited

/-- What the user is told about a failure. -/
structure Report where
  kind : ReportKind
  message : String
  context : List (String × Json) := []
  /-- Whether trying again may help. -/
  retryable : Json := .bool false
  /-- The offending piece of query text, whole. -/
  fragment : Option String := none
  deriving Inhabited

namespace ReportKind

/-- The message of a report that brings none of its own. -/
def defaultMessage : ReportKind → String
  | .general | .store => ""
  | .compile => "Invalid query"
  | .format => "Cannot format value"
  | .editor => "Editing document failed"
  | .clipboard => "Clipboard unavailable"
  | .query => "Invalid query options"
  | .notFound => "Document not found"
  | .configuration => "Configuration error"

/-- The circumstances that a kind of report names itself; they come after all others. -/
def ownCircumstances : ReportKind → List String
  | .compile => ["fragment"]
  | .format => ["value_type"]
  | .editor => ["command", "exit_code"]
  | .query => ["option"]
  | .notFound => ["document_id"]
  | .configuration => ["setting"]
  | .general | .clipboard | .store => []

/-- Whether a circumstance counts as given: some count unless null, the others unless empty. -/
def counts (key : String) (value : Json) : Bool :=
  if key = "fragment" || key = "exit_code" || key = "document_id" then
    match value with
    | .null => false
    | _ => true
  else value.counts

end ReportKind

/-- A fragment as it is shown: the first hundred characters, with dots for the rest. -/
def shortFragment (fragment : String) : String :=
  let cs := fragment.toList
  if 100 < cs.length then String.ofList (cs.take 100) ++ "..." else fragment

namespace Report

/-- A report with the given circumstances. -/
def make (kind : ReportKind) (message : Option String) (circumstances : List (String × Json)) : Report :=
  let message := message.getD kind.defaultMessage
  let own := kind.ownCircumstances
  let others := circumstances.filter fun (key, _) => key ≠ "retryable" && !own.contains key
  let named := own.filterMap fun key => (field? circumstances key).bind fun value =>
    if ReportKind.counts key value then
      some (key, match key, value with
        | "fragment", .str text => .str (shortFragment text)
        | _, _ => value)
    else none
  let fragment := match kind, field? circumstances "fragment" with
    | .compile, some (.str text) => some text
    | _, _ => none
  { kind, message, context := named.foldl (fun fields (k, v) => setField fields k v) others
    retryable := (field? circumstances "retryable").getD (.bool false), fragment }

/-- The circumstances as they are shown. -/
def shownContext (report : Report) : List (String × String) :=
  report.context.map fun (key, value) => (key, String.ofList value.shown)

/-- The whole text of a report. -/
def text (report : Report) : String :=
  if report.context.isEmpty then report.message
  else
    let parts := report.shownContext.map fun (key, value) => key ++ "=" ++ value
    report.message ++ " (" ++ ", ".intercalate parts ++ ")"

/-- A report about query text, with the offending piece of it. -/
def compile (message fragment : String) : Report :=
  { kind := .compile, message, context := [("fragment", .str (shortFragment fragment))]
    fragment := some fragment }

/-- A report about a value that has no written form. -/
def format (message : String) (context : List (String × Json)) : Report :=
  { kind := .format, message, context }

/-- A report about an option of a query. -/
def query (message option : String) : Report :=
  { kind := .query, message, context := if option = "" then [] else [("option", .str option)] }

/-- A report about the store. -/
def store (message : String) (context : List (String × Json)) : Report :=
  { kind := .store, message, context }

/-- A report about a setting. -/
def configuration (message setting : String) : Report :=
  { kind := .configuration, message, context := [("setting", .str setting)] }

/-- A report about a round trip through the editor. -/
def editor (message command : String) (exitCode : Option Int) : Report :=
  { kind := .editor, message
    context := (if command = "" then [] else [("command", .str command)]) ++
      (exitCode.map fun code => ("exit_code", Json.int code)).toList }

/-- A report that no clipboard could be used. -/
def clipboard (message : String) : Report := { kind := .clipboard, message }

end Report

end DocBrowser
