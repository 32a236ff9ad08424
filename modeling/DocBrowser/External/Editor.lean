import DocBrowser.Editing.Basic
import DocBrowser.Text.Bytes
import DocBrowser.Text.CodePoint
import DocBrowser.Text.Lines
import DocBrowser.Text.ShellWords
/-!
# An editor as a program

The text is put into a temporary file, the editor is started on that file, and the text is read back
when the editor has ended well. Once the text is in the file, the file is removed however the attempt ends.
-/

namespace DocBrowser

namespace ExternalEditor

/-- What the name of the temporary file ends in. -/
def fileSuffix : String := ".json"

/-- What becomes of a program that is started on a file. A file that it leaves can be opened and removed. -/
inductive Run where
  /-- An argument cannot be passed to a program, such as one with a null character. -/
  | notPassed (message : String)
  /-- The program does not start, with the reason in words. -/
  | notStarted (reason : String)
  /-- The program ends with a code and leaves the file with some text, or without it. -/
  | ended (code : Int) (file : Option (List Char))
  /-- The program ends with a code and leaves the file with bytes that are no text. -/
  | garbled (code : Int) (bytes : List UInt8) (odd : Text.decodeUtf8? bytes = none)

/-- Files with their bytes. -/
abbrev Files := List (String × List UInt8)

/-- What an editor finds around itself. -/
structure Surroundings where
  /-- Where a program is installed, if it is. -/
  locate : String → Option String
  /-- Starts a program with arguments on a file that holds the given text. -/
  start : List String → List Char → Run
  /-- The temporary files that are there already. -/
  files : Files := []
  /-- The name of the file that is added to them. -/
  fileName : String := "draft" ++ fileSuffix

/-- An attempt at editing a text. -/
structure Attempt where
  result : Except Failure (List Char)
  /-- The program and its arguments as they were started, none if it did not come to that. -/
  started : Option (List String) := none
  /-- The temporary files behind the attempt. -/
  files : Files

/-- The failure of an attempt. -/
def failed (message command : String) (exitCode : Option Int) : Failure :=
  .report (.editor message command exitCode)

/-- The program that a command names, where it is installed, and its arguments. -/
def arguments (surroundings : Surroundings) (command : String) : Except Failure (String × List String) :=
  match Text.shellWords command.toList with
  | .error fault => .error (failed ("Cannot parse editor command: " ++ fault.message) command none)
  | .ok [] => .error (failed "No editor configured" "" none)
  | .ok (program :: rest) =>
    match surroundings.locate (String.ofList program) with
    | some path => .ok (path, rest.map String.ofList)
    | none => .error (failed "Editor not found" (String.ofList program) none)

/-- What is read from a file that a program has left behind with an exit code. -/
def readFile (program : String) (code : Int) (contents : Except Failure (List Char)) : Except Failure (List Char) :=
  if code ≠ 0 then .error (failed "Editor exited with an error" program (some code))
  else contents.map Text.universalNewlines

/-- The text that is read back behind a run of a program. -/
def readBack (program : String) : Run → Except Failure (List Char)
  | .notPassed message => .error (.conversion message)
  | .notStarted reason => .error (failed ("Failed to start editor: " ++ reason) program none)
  | .ended code (some text) => readFile program code (.ok text)
  | .ended code none => readFile program code (.error .missingFile)
  | .garbled code _ _ => readFile program code (.error .encoding)

/-- The files that a run on one of them leaves behind. -/
def Run.files (name : String) (files : Files) : Run → Files
  | .notPassed _ | .notStarted _ => files
  | .ended _ none => eraseField files name
  | .ended _ (some text) => setField files name (Text.encodeUtf8 text)
  | .garbled _ bytes _ => setField files name bytes

/-- Edits a text with the program that a command names. -/
def attempt (surroundings : Surroundings) (command : String) (text : RawText) : Attempt :=
  match arguments surroundings command with
  | .error failure => { result := .error failure, files := surroundings.files }
  | .ok (program, rest) =>
    let name := surroundings.fileName
    match text.encoded with
    -- the file is made before the text is encoded, and nothing removes it yet
    | .error failure => { result := .error failure, files := setField surroundings.files name [] }
    | .ok contents =>
      let run := surroundings.start (program :: rest) contents
      { result := readBack program run, started := some (program :: rest)
        files := eraseField (run.files name (setField surroundings.files name (Text.encodeUtf8 contents))) name }

/-- The editor that a command names. -/
def editor (surroundings : Surroundings) (command : String) : Editor := fun text =>
  (attempt surroundings command text).result

end ExternalEditor

end DocBrowser
