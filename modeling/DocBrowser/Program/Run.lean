import DocBrowser.Console.Line
import DocBrowser.Files.Folder
import DocBrowser.History
import DocBrowser.Log.Loading
import DocBrowser.Program.Command
import DocBrowser.Settings
import DocBrowser.Viewer.Action
/-!
# Running the program

A run reads the settings, carries out one command and ends with an exit code. Browsing stops half-way,
with a session for the viewer, and goes on when the viewer has been closed.
-/

namespace DocBrowser

namespace Program

/-- The version of the program. -/
def version : String := "0.3.0"

/-- What a run starts from. -/
structure Surroundings where
  folder : Folder
  /-- Where the settings usually are. -/
  directory : Path
  ids : IdSource
  zones : ZoneData := .own

/-- What a run has done so far. -/
structure Progress where
  folder : Folder
  output : List Char := []
  errors : List Char := []
  log : List Log.Entry := []
  /-- The level of the log once it is open, and its file. -/
  level : Log.Level := .info
  logFile : Option Path := none

/-- What a run leaves behind. -/
structure Result where
  exitCode : Nat
  progress : Progress
  /-- The failure that ended the run, if that was no report. -/
  failure : Option Failure := none

/-- What remains to be done when the viewer is closed. -/
structure Browsing where
  progress : Progress
  editor : EditorSettings
  path : Path
  save : Bool

/-- Where a run stands. -/
inductive Stage where
  | ended (result : Result)
  | browsing (session : Session) (rest : Browsing)

namespace Progress

/-- Adds to the output. -/
def print (progress : Progress) (text : List Char) : Progress :=
  { progress with output := progress.output ++ text }

/-- Adds to the errors. -/
def complain (progress : Progress) (text : List Char) : Progress :=
  { progress with errors := progress.errors ++ text }

/-- Adds entries to the log. -/
def note (progress : Progress) (entries : List Log.Entry) : Progress :=
  { progress with log := progress.log ++ Log.kept progress.level entries }

/-- A run that has done all there was to do. -/
def finish (progress : Progress) : Result := { exitCode := 0, progress }

/-- A line that shows an error. -/
def errorLine (text : String) : List Char :=
  Console.line ("[red]Error: ".toList ++ Markup.escape text.toList ++ "[/red]".toList)

/-- A run that ends with an error that is shown. -/
def fail (progress : Progress) (text : String) : Result :=
  { exitCode := 1, progress := progress.complain (errorLine text) }

/-- A run that ends with a failure that nothing shows. -/
def abort (progress : Progress) (failure : Failure) : Result :=
  { exitCode := 1, progress, failure := some failure }

/-- A run that ends with a failure: reports of the given kinds are shown. -/
def failWith (progress : Progress) (kinds : List ReportKind) (failure : Failure) : Result :=
  match failure with
  | .report report =>
    if kinds.contains report.kind then progress.fail report.text else progress.abort failure
  | failure => progress.abort failure

/-- A run that ends because of the command line; asking for help is no mistake. -/
def refuse (progress : Progress) (fault : UsageFault) : Result :=
  match fault with
  | .help => progress.finish
  | fault =>
    { exitCode := 2, progress := progress.complain ("Error: " ++ fault.message ++ "\n").toList }

end Progress

/-- The kinds of reports. -/
def allKinds : List ReportKind :=
  [.general, .compile, .format, .editor, .clipboard, .query, .store, .notFound, .configuration]

/-! ## Compiling and formatting -/

/-- The texts of a query that has one part only. -/
def queryFor (part : QueryPart) (text : String) : QueryTexts :=
  match part with
  | .filter => { filter := some text, limit := 0 }
  | .sort => { sort := some text, limit := 0 }
  | .projection => { projection := some text, limit := 0 }

/-- Compiles the texts of a query. -/
def build (zone : Zone) (query : QueryTexts) : Except Failure Query.Options :=
  Query.build zone query.filter query.sort query.projection query.skip query.limit

/-- What the log says about compiling the texts of a query. -/
def buildLog (zone : Zone) (query : QueryTexts) : List Log.Entry :=
  Log.ofBuilding zone query.filter query.sort query.projection query.skip query.limit

/-- A part of a compiled query. -/
def partOf (options : Query.Options) : QueryPart → Document
  | .filter => options.filter
  | .sort => options.sort
  | .projection => options.projection

/-- A run that ends because a text does not compile: the piece at fault is shown on a line below. -/
def failCompiling (progress : Progress) (failure : Failure) : Result :=
  match failure.report? with
  | some { kind := .compile, message, fragment, .. } =>
    let result := progress.fail message
    match fragment with
    | none | some "" => result
    | some fragment =>
      let line := Console.plainLine ("  near: ".toList ++ fragment.toList)
      { result with progress := result.progress.complain line }
  | _ => progress.abort failure

/-- Compiles a text and prints the document. -/
def compile (settings : Settings) (zone : Zone) (text : String) (part : QueryPart)
    (progress : Progress) : Result :=
  let query := queryFor part text
  let progress := progress.note (buildLog zone query)
  match build zone query with
  | .error failure => failCompiling progress failure
  | .ok options =>
    match (partOf options part).render settings.sortKeys with
    | .ok text => (progress.print (text ++ ['\n'])).finish
    | .error refusal => progress.abort refusal.failure

/-- The documents in a file of the folder. -/
def load (folder : Folder) (path : Path) : Except Failure (List Document) :=
  let text := path.text
  match folder.find path with
  | .file bytes => DocumentFile.load text (some bytes)
  | .missing => DocumentFile.load text none
  | .directory => .error (DocumentFile.unreadable text (DocumentFile.isDirectory text))
  | .throughFile => .error (DocumentFile.unreadable text (DocumentFile.throughFile text))

/-- Reads the documents in a file of the folder and logs how. -/
def loadNoted (progress : Progress) (path : Path) : Except Failure (List Document) × Progress :=
  (load progress.folder path, progress.note (Log.ofLoading path.text (progress.folder.bytes? path)))

/-- The kinds of reports that are shown when documents are printed. -/
def formatKinds : List ReportKind := [.store, .notFound, .format, .query]

/-- Prints documents one after the other, up to the first that has no written form. -/
def printAll (sortKeys : Bool) (progress : Progress) : List Document → Result
  | [] => progress.finish
  | doc :: rest =>
    match doc.render sortKeys with
    | .ok text => printAll sortKeys (progress.print (text ++ ['\n'])) rest
    | .error refusal => progress.failWith formatKinds refusal.failure

/-- Prints the documents of a file. -/
def format (settings : Settings) (path : Path) (sortKeys : Bool) (progress : Progress) : Result :=
  match loadNoted progress path with
  | (.ok docs, progress) => printAll (sortKeys || settings.sortKeys) progress docs
  | (.error failure, progress) => progress.failWith formatKinds failure

/-! ## Saved queries -/

/-- The saved queries in a directory of settings. -/
def historyIn (settings : Settings) (directory : Path) (folder : Folder) : Except Failure History := do
  let file ← (folder.bytes? (Settings.historyIn directory)).mapM DocumentFile.decode
  return { limit := settings.historySize, file }

/-- Writes the saved queries. -/
def writeHistory (directory : Path) (history : History) (progress : Progress) : Progress :=
  match history.file with
  | some text =>
    let path := Settings.historyIn directory
    { progress with folder := progress.folder.write path (Text.encodeUtf8 text) }
  | none => progress

/-- Saves the text of a filter unless it asks for nothing. -/
def saveFilter (settings : Settings) (directory : Path) (text : Option String) (progress : Progress) :
    Except Failure Progress := do
  let some text := text | return progress
  if Query.isBlank text.toList then return progress
  let (entries, history) := (← historyIn settings directory progress.folder).save text.toList
  let entry : Log.Entry :=
    ⟨.history, .debug, s!"Saved query to history ({entries.length} entries)"⟩
  return writeHistory directory history (progress.note [entry])

/-- The lines of a list of saved queries, counted from a number. -/
def historyLines : Nat → List (List Char) → List Char
  | _, [] => []
  | number, entry :: rest =>
    let digits := Nat.toDigits 10 number
    List.replicate (2 - digits.length) ' ' ++ digits ++ ' ' :: entry ++ '\n' ::
      historyLines (number + 1) rest

/-- Lists the saved queries, the newest first, or forgets them. -/
def history (settings : Settings) (directory : Path) (clear : Bool) (progress : Progress) : Result :=
  match historyIn settings directory progress.folder with
  | .error failure => progress.abort failure
  | .ok history =>
    if clear then
      let progress := writeHistory directory history.clear progress
      (progress.print (Console.line "[green]History cleared[/green]".toList)).finish
    else
      match history.newestFirst with
      | [] => (progress.print (Console.line "[yellow]No saved queries[/yellow]".toList)).finish
      | entries => (progress.print (historyLines 1 entries)).finish

/-! ## Browsing -/

/-- A query as it was found in a file: the store, the page, and the number of all that match. -/
structure Found where
  store : Store
  options : Query.Options
  documents : List Document
  total : Nat

/-- Runs a query on the documents of a file. -/
def search (zone : Zone) (ids : IdSource) (path : Path) (query : QueryTexts) (progress : Progress) :
    Except Failure Found × Progress :=
  match loadNoted progress path with
  | (.error failure, progress) => (.error failure, progress)
  | (.ok docs, progress) =>
    match Store.insertAll { documents := [], ids } docs with
    | (.error failure, _) => (.error failure, progress)
    | (.ok (), store) =>
      let progress := progress.note (buildLog zone query)
      match build zone query with
      | .error failure => (.error failure, progress)
      | .ok options =>
        match store.list options with
        | .error failure => (.error failure, progress)
        | .ok (documents, total) =>
          let entry : Log.Entry :=
            ⟨.query, .debug, s!"Query matched {total} documents, returning {documents.length}"⟩
          (.ok { store, options, documents, total }, progress.note [entry])

/-- Opens the documents of a file that match a query. -/
def browse (settings : Settings) (directory : Path) (zone : Zone) (ids : IdSource) (path : Path)
    (query : QueryTexts) (save : Bool) (progress : Progress) : Stage :=
  match search zone ids path query progress with
  | (.error failure, progress) => .ended (progress.failWith allKinds failure)
  | (.ok found, progress) =>
    match saveFilter settings directory query.filter progress with
    | .error failure => .ended (progress.abort failure)
    | .ok progress =>
      if found.documents.isEmpty then
        .ended (progress.print (Console.line "[yellow]No documents match[/yellow]".toList)).finish
      else
        match Viewer.make found.documents (some found.total) settings.sortKeys found.options.projection with
        | .error failure => .ended (progress.abort failure)
        | .ok viewer =>
          let editing := some { zone, sortKeys := settings.sortKeys : Editing.Options }
          .browsing { viewer, store := found.store, editing }
            { progress, editor := settings.editor, path, save }

/-- Writes all documents of a store to the file that they came from. -/
def saveDocuments (path : Path) (docs : List Document) (progress : Progress) : Result :=
  match dumpDocuments docs with
  | .error refusal => progress.abort refusal.failure
  | .ok text =>
    let folder := progress.folder.write path (Text.encodeUtf8 text)
    let line := s!"[green]Saved {docs.length} documents to ".toList ++
      Markup.escape path.text.toList ++ "[/green]".toList
    ({ progress with folder }.print (Console.line line)).finish

/-- Goes on when the viewer has been closed, with what has been logged meanwhile. -/
def resume (rest : Browsing) (session : Session) (log : List Log.Entry) : Result :=
  let progress := rest.progress.note log
  if rest.save then saveDocuments rest.path session.store.documents progress else progress.finish

/-! ## The whole program -/

/-- Carries out a command. -/
def carryOut (surroundings : Surroundings) (settings : Settings) (directory : Path) (zone : Zone)
    (command : Command) (progress : Progress) : Stage :=
  match command with
  | .compile text part => .ended (compile settings zone text part progress)
  | .format path sortKeys => .ended (format settings path sortKeys progress)
  | .browse path query save =>
    browse settings directory zone surroundings.ids path query save progress
  | .history clear => .ended (history settings directory clear progress)
  | .version => .ended (progress.print ("mongopeek version " ++ version ++ "\n").toList).finish

/-- The settings that a file in the folder gives. -/
def settingsIn (folder : Folder) (path : Path) (zones : ZoneData) : Except Failure (Settings × List Log.Entry) := do
  match folder.find path with
  | .file bytes =>
    let file := some (← DocumentFile.decode bytes)
    return (← Settings.load file zones, Settings.warnings path file)
  | .directory =>
    return (← Settings.load none zones, [Settings.unreadable path (DocumentFile.isDirectory path.text)])
  | .missing | .throughFile => return (← Settings.load none zones, [])

/-- Writes settings to their file in a directory, which is made if it is not there. It fails where a file stands in the
way to the directory, or a directory in the place of the file. -/
def saveSettings (folder : Folder) (directory : Path) (settings : Settings) : Option Folder := do
  let folder ← folder.makeDirectories directory
  let path := Settings.fileIn directory
  match folder.find path with
  | .file _ | .missing => return folder.write path (Text.encodeUtf8 settings.fileOf)
  | .directory | .throughFile => none

/-- What is shown of entries that are logged before the log is open. -/
def early (entries : List Log.Entry) : List Char :=
  entries.flatMap fun entry => (entry.message ++ "\n").toList

/-- The files that a call of the program looks at. -/
def filesFor (directory : Path) (arguments : List String) : List Path :=
  match Invocation.parse arguments with
  | .error _ => []
  | .ok invocation =>
    let directory := invocation.directory.getD directory
    let own := [Settings.fileIn directory, Settings.historyIn directory]
    match invocation.command with
    | .ok (.format path _) | .ok (.browse path _ _) => path :: own
    | _ => own

/-- Runs the program up to its end, or until a viewer has to be shown. -/
def start (surroundings : Surroundings) (arguments : List String) : Stage :=
  let progress : Progress := { folder := surroundings.folder }
  match Invocation.parse arguments with
  | .error fault => .ended (progress.refuse fault)
  | .ok invocation =>
    let directory := invocation.directory.getD surroundings.directory
    match settingsIn surroundings.folder (Settings.fileIn directory) surroundings.zones with
    | .error failure => .ended (progress.failWith [.configuration] failure)
    | .ok (settings, warnings) =>
      let progress := { progress with
        folder := surroundings.folder.makeDirectory directory
        errors := early warnings
        level := if invocation.verbose then .debug else settings.logLevel
        logFile := some (Settings.logIn directory) }
      match invocation.command, settings.zone surroundings.zones with
      | .error fault, _ => .ended (progress.refuse fault)
      | _, .error failure => .ended (progress.abort failure)
      | .ok command, .ok zone => carryOut surroundings settings directory zone command progress

end Program

end DocBrowser
