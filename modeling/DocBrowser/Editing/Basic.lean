import DocBrowser.Store.Memory
/-!
# Editing documents

A document is edited as text: it is rendered, an editor changes the text, and what the text compiles
to goes into the store. Text that differs in white space only, and text that compiles to the same
document, change nothing.
-/

namespace DocBrowser

/-- An editor: the text that it leaves behind for the text it is given, or why it leaves none. -/
abbrev Editor := List Char → Except Failure (List Char)

namespace Editing

/-- How documents are put into text and read from it. -/
structure Options where
  /-- Where dates without an offset are placed. -/
  zone : Zone := .utc
  sortKeys : Bool := false

/-- What an editor is opened for. -/
inductive Purpose where
  /-- To change the document with an identifier. -/
  | edit (id : Value)
  /-- To write a new document. -/
  | insert
  /-- To write a new document that starts as a copy of another one. -/
  | duplicate (id : Value)

/-- The document that the editor starts from. -/
def Purpose.source (store : Store) : Purpose → Except Failure Document
  | .edit id => store.get id
  | .insert => .ok []
  | .duplicate id => (store.get id).map (eraseField · Store.idKey)

/-- The text that the editor is given for a document. -/
def draftOf (options : Options) (doc : Document) : Except Failure (List Char) :=
  orFailure ExtendedJson.Refusal.failure (doc.render options.sortKeys)

/-- The text that the editor is given for its purpose. -/
def Purpose.draft (options : Options) (store : Store) (purpose : Purpose) : Except Failure (List Char) := do
  draftOf options (← purpose.source store)

/-- The document that edited text stands for. -/
def compileEdited (options : Options) (text : List Char) : Except Failure Document :=
  match Query.compile options.zone (String.ofList text) with
  | .ok doc => .ok doc
  | .error fault =>
    if fault.fragment?.isSome then
      .error (.report (.editor ("Edited document is invalid: " ++ fault.message) "" none))
    else .error fault.failure

/-- What an editor has done to a document. -/
inductive Revision where
  /-- Nothing but white space has changed. -/
  | sameText
  /-- The text is another one, but the document is not. -/
  | sameDocument
  | changed (doc : Document)

/-- What edited text does to a document whose draft is known. -/
def revisionOf (options : Options) (doc : Document) (draft edited : List Char) :
    Except Failure Revision := do
  if Text.squeeze edited = Text.squeeze draft then return .sameText
  let result ← compileEdited options edited
  let same ← orFailure Signaling.failure (Document.same result doc)
  return if same then .sameDocument else .changed result

/-- Opens an editor on a document. -/
def revise (options : Options) (editor : Editor) (doc : Document) : Except Failure Revision := do
  let draft ← draftOf options doc
  revisionOf options doc draft (← editor draft)

/-- A document as it is stored under an identifier. -/
def under (id : Value) (doc : Document) : Document := (Store.idKey, id) :: eraseField doc Store.idKey

/-- Inserts a document and looks it up again. -/
def insertAndGet (store : Store) (doc : Document) : Except Failure (Option Document) × Store :=
  match store.insert doc with
  | (.ok id, store) => ((store.getLast id).map some, store)
  | (.error failure, store) => (.error failure, store)

/-- Edits the document with an identifier, which it keeps. -/
def edit (options : Options) (editor : Editor) (id : Value) (store : Store) :
    Except Failure (Option Document) × Store :=
  match (store.get id).bind (revise options editor) with
  | .error failure => (.error failure, store)
  | .ok (.changed doc) =>
    match store.update id (under id doc) with
    | .ok store => (.ok (some (under id doc)), store)
    | .error failure => (.error failure, store)
  | .ok _ => (.ok none, store)

/-- Inserts a document that is written from nothing. -/
def insert (options : Options) (editor : Editor) (store : Store) :
    Except Failure (Option Document) × Store :=
  match revise options editor [] with
  | .error failure => (.error failure, store)
  | .ok (.changed doc) => insertAndGet store doc
  | .ok _ => (.ok none, store)

/-- The edited copy of a document, without an identifier; none if the text is left empty. -/
def editedCopy (options : Options) (editor : Editor) (id : Value) (store : Store) :
    Except Failure (Option Document) := do
  let draft ← (Purpose.duplicate id).draft options store
  match ← compileEdited options (← editor draft) with
  | [] => return none
  | doc => return some (eraseField doc Store.idKey)

/-- Inserts an edited copy of the document with an identifier under a fresh one. -/
def duplicate (options : Options) (editor : Editor) (id : Value) (store : Store) :
    Except Failure (Option Document) × Store :=
  match editedCopy options editor id store with
  | .error failure => (.error failure, store)
  | .ok (some doc) => insertAndGet store doc
  | .ok none => (.ok none, store)

/-- Does what an editor was opened for: the document that has been written, if any, and the store behind it. -/
def perform (options : Options) (editor : Editor) (purpose : Purpose) (store : Store) :
    Except Failure (Option Document) × Store :=
  match purpose with
  | .edit id => edit options editor id store
  | .insert => insert options editor store
  | .duplicate id => duplicate options editor id store

end Editing

end DocBrowser
