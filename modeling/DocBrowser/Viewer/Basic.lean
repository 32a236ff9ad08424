import DocBrowser.ExtendedJson.Encode
import DocBrowser.Failure
import DocBrowser.Navigator.Basic
import DocBrowser.Navigator.Paint
/-!
# The viewer

A viewer pages through a list of documents and shows one of them in a navigator. The header and the
rows stand as they were last painted: a document that cannot be rendered leaves the screen alone.
-/

namespace DocBrowser

/-- Documents to page through, and what the screen shows of them. -/
structure Viewer where
  documents : List Document
  /-- The number of documents that match the query, shown or not. -/
  total : Int
  sortKeys : Bool := false
  /-- The projection of the query, for documents that are written later. -/
  projection : Document := []
  index : Nat := 0
  navigator : Navigator
  header : String := ""
  rows : List (List Char) := []

namespace Viewer

/-- The text of the document at an index, empty if there is none. -/
def textAt (documents : List Document) (sortKeys : Bool) (index : Nat) : Except Failure (List Char) :=
  match documents[index]? with
  | some doc => orFailure ExtendedJson.Refusal.failure (doc.render sortKeys)
  | none => .ok []

/-- The text of the shown document. -/
def currentText (viewer : Viewer) : Except Failure (List Char) :=
  textAt viewer.documents viewer.sortKeys viewer.index

/-- The text of the header. -/
def headerText (viewer : Viewer) : String :=
  if viewer.documents.isEmpty then "No documents"
  else s!"Document {viewer.index + 1} of {viewer.documents.length} ({viewer.total} matching)"

/-- The rows that the navigator shows. -/
def paintedRows (nav : Navigator) : List (List Char) :=
  let (first, behind) := nav.highlightRange
  (Paint.rows nav.lineTexts nav.window (first, behind)).map Paint.plainText

/-- Paints the rows anew. -/
def repaint (viewer : Viewer) : Viewer := { viewer with rows := paintedRows viewer.navigator }

/-- A viewer on the first of some documents; the total is their number unless it is given. -/
def make (documents : List Document) (total : Option Int) (sortKeys : Bool) (projection : Document) :
    Except Failure Viewer := do
  let text ← textAt documents sortKeys 0
  let viewer : Viewer :=
    { documents, total := total.getD documents.length, sortKeys, projection
      navigator := Navigator.make text 0 1 }
  return { viewer with header := viewer.headerText }

/-- The number of columns that the marker in front of a row takes. -/
def markerWidth : Int := 2

/-- Fits the text into a view of another size. -/
def resize (viewer : Viewer) (width height : Int) : Viewer :=
  repaint { viewer with navigator := viewer.navigator.resize (max 1 (width - markerWidth)) height }

/-- Moves the cursor. -/
def move (viewer : Viewer) (step : Window.Move) : Viewer :=
  repaint { viewer with navigator := viewer.navigator.move step }

/-- Shows the document at an index, unless it has no rendering. -/
def showAt (viewer : Viewer) (index : Nat) : Viewer × Option Failure :=
  let viewer := { viewer with index }
  match viewer.currentText with
  | .ok text =>
    let viewer := { viewer with navigator := viewer.navigator.openText text }
    (repaint { viewer with header := viewer.headerText }, none)
  | .error failure => (viewer, some failure)

/-- Shows the next document if there is one. -/
def next (viewer : Viewer) : Viewer × Option Failure :=
  if viewer.index + 1 < viewer.documents.length then viewer.showAt (viewer.index + 1) else (viewer, none)

/-- Shows the document in front of the shown one if there is one. -/
def previous (viewer : Viewer) : Viewer × Option Failure :=
  if 0 < viewer.index then viewer.showAt (viewer.index - 1) else (viewer, none)

/-- Puts a document in the place of the shown one. -/
def replaceCurrent (viewer : Viewer) (doc : Document) : Viewer × Option Failure :=
  { viewer with documents := viewer.documents.set viewer.index doc }.showAt viewer.index

/-- Shows one more document behind the others. -/
def append (viewer : Viewer) (doc : Document) : Viewer × Option Failure :=
  { viewer with documents := viewer.documents ++ [doc], total := viewer.total + 1 }.showAt
    viewer.documents.length

/-- Takes the shown document off the list and shows the one that stands in its place, or the last. -/
def removeCurrent (viewer : Viewer) : Viewer × Option Failure :=
  let documents := viewer.documents.eraseIdx viewer.index
  { viewer with documents, total := max 0 (viewer.total - 1) }.showAt
    (min viewer.index (documents.length - 1))

end Viewer

end DocBrowser
