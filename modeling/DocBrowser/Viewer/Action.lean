import DocBrowser.Console.Markup
import DocBrowser.Log.Editing
import DocBrowser.Store.Projection
import DocBrowser.Viewer.Basic
/-!
# Actions in the viewer

An action moves through the documents, copies from the shown one, or writes to the store behind the
viewer. Whatever a write does or fails to do is notified; only failures that are no reports end the
action without a word.
-/

namespace DocBrowser

/-- How grave a notice is. -/
inductive Severity where
  | information
  | warning
  | error
  deriving DecidableEq, Repr

/-- What the user is told in passing, as marked-up text. -/
structure Notice where
  severity : Severity
  text : List Char
  deriving DecidableEq, Repr

/-- A notice that shows a text as it is. -/
def Notice.showing (severity : Severity) (text : String) : Notice :=
  ⟨severity, Markup.escape text.toList⟩

/-- A viewer and the store behind it. Without options for editing, the store is not written. -/
structure Session where
  viewer : Viewer
  store : Store
  editing : Option Editing.Options

/-- What an action needs the editor for. -/
inductive Writing where
  | edit
  | insert
  | duplicate
  deriving DecidableEq, Repr

/-- What is told when nothing has been written. -/
def Writing.nothingDone : Writing → String
  | .edit => "No changes"
  | .insert | .duplicate => "Nothing inserted"

/-- What is told when a document has been written. -/
def Writing.done : Writing → String
  | .edit => "Document updated"
  | .insert => "Document inserted"
  | .duplicate => "Document duplicated"

/-- What the user can do. -/
inductive Action where
  | move (step : Window.Move)
  | resize (width height : Int)
  | next
  | previous
  /-- Copies to a clipboard, which may fail. -/
  | copy (mode : CopyMode) (clipboard : List Char → Except Failure Unit)
  | write (what : Writing) (editor : Editor)
  /-- Deletes the shown document if that is confirmed. -/
  | delete (confirmed : Bool)

/-- What becomes of an action besides its effect on the session. -/
structure Outcome where
  notices : List Notice := []
  /-- The identifier that the user is asked about. -/
  asked : Option (List Char) := none
  copied : Option (List Char) := none
  /-- The failure that ended the action. -/
  failure : Option Failure := none
  log : List Log.Entry := []

namespace Session

/-- An entry of the viewer in the log. -/
private def grave (message : String) : Log.Entry := ⟨.viewer, .error, message⟩

/-- An outcome that is a single notice. -/
def notify (severity : Severity) (text : String) : Outcome :=
  { notices := [⟨severity, text.toList⟩] }

/-- The outcome of an action that ends with a failure: a report is shown, all else ends the action. -/
def failing (what : String) (failure : Failure) : Outcome :=
  match failure with
  | .report report =>
    { notices := [.showing .error report.text], log := [grave (what ++ ": " ++ report.text)] }
  | failure => { failure := some failure }

/-- The identifier of the shown document, or the notice that there is none to work on. -/
def currentId (session : Session) : Except Outcome Value :=
  match session.editing, session.viewer.documents[session.viewer.index]? with
  | some _, some doc =>
    match field? doc Store.idKey with
    | some id => .ok id
    | none => .error (notify .error "Document has no _id")
  | _, _ => .error (notify .warning "Editing is not available")

/-- What the editor is opened for, and the options for it. -/
def purposeFor (session : Session) (what : Writing) : Except Outcome (Editing.Options × Editing.Purpose) := do
  let some options := session.editing | .error (notify .warning "Editing is not available")
  match what with
  | .edit => return (options, .edit (← session.currentId))
  | .insert => return (options, .insert)
  | .duplicate => return (options, .duplicate (← session.currentId))

/-- The text that the editor is given, if it is opened at all. -/
def draftFor (session : Session) (what : Writing) : Option (List Char) :=
  match session.purposeFor what with
  | .ok (options, purpose) => (purpose.draft options session.store).toOption
  | .error _ => none

/-- A document as the query shapes it. -/
def projected (viewer : Viewer) (doc : Document) : Except Failure Document :=
  if viewer.projection.isEmpty then .ok doc else projectDocument doc viewer.projection

/-- Shows a document that has been written. -/
def showWritten (viewer : Viewer) (what : Writing) (doc : Document) : Viewer × Option Failure :=
  match projected viewer doc with
  | .error failure => (viewer, some failure)
  | .ok doc =>
    match what with
    | .edit => viewer.replaceCurrent doc
    | .insert | .duplicate => viewer.append doc

/-- A session whose viewer has shown something else, with words for the case that it could be shown. -/
def shown (session : Session) (result : Viewer × Option Failure) (words : Option String)
    (log : List Log.Entry) : Session × Outcome :=
  let session := { session with viewer := result.1 }
  match result.2, words with
  | some failure, _ => (session, { failure := some failure, log })
  | none, some words => (session, { notify .information words with log })
  | none, none => (session, { log })

/-- Writes to the store with an editor. -/
def write (session : Session) (what : Writing) (editor : Editor) : Session × Outcome :=
  match session.purposeFor what with
  | .error outcome => (session, outcome)
  | .ok (options, purpose) =>
    let log := Log.ofPurpose options editor purpose session.store
    let (result, store) := Editing.perform options editor purpose session.store
    let session := { session with store }
    match result with
    | .error failure =>
      let outcome := failing "Editor round trip failed" failure
      (session, { outcome with log := log ++ outcome.log })
    | .ok none => (session, { notify .information what.nothingDone with log })
    | .ok (some doc) =>
      session.shown (showWritten session.viewer what doc) (some what.done) log

/-- Deletes the document with an identifier, which is the shown one. -/
def deleteShown (session : Session) (id : Value) : Session × Outcome :=
  match session.store.delete id with
  | .error failure => (session, failing "Delete failed" failure)
  | .ok store =>
    let log := Log.ofDeleting id session.store
    let session := { session with store }
    session.shown session.viewer.removeCurrent (some "Document deleted") log

/-- Asks whether to delete the shown document, and does so if it is confirmed. -/
def delete (session : Session) (confirmed : Bool) : Session × Outcome :=
  match session.currentId with
  | .error outcome => (session, outcome)
  | .ok id =>
    let (session, outcome) := if confirmed then session.deleteShown id else (session, {})
    (session, { outcome with asked := some id.shown })

/-- The name of a copy mode in the log. -/
def modeName : CopyMode → String
  | .full => "CopyMode.FULL"
  | .value => "CopyMode.VALUE"
  | .raw => "raw"

/-- The start of a copied text that is shown. -/
def preview (text : List Char) : List Char :=
  if text.length ≤ 40 then text else text.take 37 ++ ['.', '.', '.']

/-- What becomes of copying a text. -/
def copying (mode : CopyMode) (clipboard : List Char → Except Failure Unit) (text : List Char) : Outcome :=
  match clipboard text with
  | .ok () =>
    { notices := [⟨.information, "Copied ".toList ++ Markup.escape (preview text)⟩], copied := some text
      log := [⟨.navigator, .debug, s!"Copied {text.length} characters ({modeName mode})"⟩] }
  | .error failure => failing "Copy failed" failure

/-- Does what the user asks for. -/
def step (session : Session) (action : Action) : Session × Outcome :=
  match action with
  | .move step => ({ session with viewer := session.viewer.move step }, {})
  | .resize width height => ({ session with viewer := session.viewer.resize width height }, {})
  | .next => session.shown session.viewer.next none []
  | .previous => session.shown session.viewer.previous none []
  | .copy mode clipboard => (session, copying mode clipboard (session.viewer.navigator.copyText mode))
  | .write what editor => session.write what editor
  | .delete confirmed => session.delete confirmed

end Session

end DocBrowser
