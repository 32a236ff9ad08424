import DocBrowser.External.Clipboard
import DocBrowser.External.Editor
import DocBrowser.Program.Run
import DocBrowser.Viewer.Key
/-!
# The command line

Reads the files that a call looks at, runs the program on them, and writes back what has changed. The
viewer is driven by lines on standard input, each of which names a key. No other program is started
from here, so the editor and the clipboard are reported as missing.
-/

namespace DocBrowser

namespace Terminal

/-- Takes whatever stands at a path into a folder. -/
def collectAt (folder : Folder) (path : Path) : IO Folder := do
  let .ok file ← (IO.FS.realPath path.text).toBaseIO | return folder
  if ← file.isDir then return folder.makeDirectory path
  match ← (IO.FS.readBinFile file).toBaseIO with
  | .ok bytes => return folder.write path bytes.toList
  | .error _ => return folder

/-- Takes whatever stands on the way along a path into a folder. -/
def collect (folder : Folder) (path : Path) : IO Folder :=
  (List.range path.names.length).foldlM
    (fun folder n => collectAt folder { path with names := path.names.take (n + 1) }) folder

/-- Writes what has changed in a folder. -/
def writeBack (earlier folder : Folder) : IO Unit := do
  for directory in folder.directories.drop earlier.directories.length do
    IO.FS.createDirAll directory
  for (key, bytes) in earlier.changedSince folder do
    IO.FS.writeBinFile key ⟨bytes.toArray⟩

/-- The seconds from the start of 1970, as a file that has just been made shows them. -/
def now : IO Int := do
  let (_, file) ← IO.FS.createTempFile
  let time := (← file.metadata).modified.sec
  IO.FS.removeFile file
  return time

/-- Appends entries to a log. -/
def appendLog (path : Path) (entries : List Log.Entry) : IO Unit := do
  if entries.isEmpty then return
  let time ← now
  let file ← IO.FS.Handle.mk path.text .append
  for entry in entries do
    file.putStrLn (entry.line time)

/-- The directory of the settings unless the command line names another. -/
def directory : IO Path := do
  match ← IO.getEnv "MONGOPEEK_CONFIG_DIR" with
  | some text => return .ofText text
  | none => return (((Path.ofText ((← IO.getEnv "HOME").getD "/")).child ".config").child "mongopeek")

/-- Where fresh identifiers come from. -/
def identifiers : IO IdSource := do
  let number ← IO.rand 0 0xFFFFFFFFFF
  return { time := ← now, process := IdSource.bytesOf 5 number
           process_length := IdSource.length_bytesOf 5 number, counter := ← IO.rand 0 (IdSource.cycle - 1) }

/-- A clipboard that no program gives access to. -/
def clipboard (text : List Char) : Except Failure Unit :=
  (Clipboard.write { run := fun _ => .missing, library := none } text).1

/-- The editor of the settings where no program is installed. -/
def editor (settings : EditorSettings) : IO Editor := do
  let value ← IO.getEnv settings.variableName
  return ExternalEditor.editor
    { locate := fun _ => none, start := fun _ _ => .notStarted "" } (settings.resolve fun _ => value)

/-- Shows the screen of a viewer. -/
def paint (viewer : Viewer) : IO Unit := do
  IO.println viewer.header
  for row in viewer.rows do
    IO.println (String.ofList row)
  IO.println Request.legend

/-- Does what a key asks for, with an answer to the question that it may raise. -/
def serve (editor : Editor) (session : Session) (request : Request) : IO (Session × Outcome) := do
  let some action := request.action clipboard editor false | return (session, {})
  let (next, outcome) := session.step action
  let some label := outcome.asked | return (next, outcome)
  IO.println s!"Delete document {String.ofList label}?"
  let answer ← (← IO.getStdin).getLine
  let some action := request.action clipboard editor (answer.trimAscii.toString = "y") | return (next, outcome)
  return session.step action

/-- Serves keys until the viewer is closed: the session at the end, and what was logged. -/
partial def browse (editor : Editor) (session : Session) (log : List Log.Entry) :
    IO (Session × List Log.Entry) := do
  paint session.viewer
  let line ← (← IO.getStdin).getLine
  if line.isEmpty then return (session, log)
  match Request.ofKey? line.trimAscii.toString with
  | some .quit => return (session, log)
  | none => browse editor session log
  | some request =>
    let (session, outcome) ← serve editor session request
    for notice in outcome.notices do
      IO.print (String.ofList (Console.line notice.text))
    browse editor session (log ++ outcome.log)

/-- The number that a variable of the environment holds. -/
def sizeFrom (name : String) (otherwise : Nat) : IO Int := do
  return ((← IO.getEnv name).bind String.toNat?).getD otherwise

/-- Shows the viewer if there is one, and goes on when it has been closed. -/
def finish : Program.Stage → IO Program.Result
  | .ended result => return result
  | .browsing session rest => do
    let (session, _) := session.step (.resize (← sizeFrom "COLUMNS" 80) (← sizeFrom "LINES" 24))
    let (session, log) ← browse (← editor rest.editor) session []
    return Program.resume rest session log

/-- Runs the program and leaves its effects behind. -/
def run (arguments : List String) : IO UInt32 := do
  let directory ← directory
  let folder ← (Program.filesFor directory arguments).foldlM collect {}
  let result ← finish (Program.start { folder, directory, ids := ← identifiers } arguments)
  let progress := result.progress
  writeBack folder progress.folder
  for path in progress.logFile do
    appendLog path progress.log
  IO.print (String.ofList progress.output)
  IO.eprint (String.ofList progress.errors)
  for text in result.failure.bind Failure.text? do
    IO.eprintln text
  return result.exitCode.toUInt32

end Terminal

end DocBrowser

/-- Runs the program. -/
def main (arguments : List String) : IO UInt32 := DocBrowser.Terminal.run arguments
