import DocBrowser.Editing.Basic
import DocBrowser.Log.Compile
import DocBrowser.Value.Shown
/-!
# What the log says about editing

Whatever an editor leaves behind is logged: text that changes nothing, text that does not compile,
and the documents that are written.
-/

namespace DocBrowser.Log

/-- An entry of the editing service. -/
private def serviceEntry (level : Level) (message : String) : Entry := ⟨.service, level, message⟩

/-- An identifier in the log. -/
private def idShown (id : Value) : String := String.ofList id.shown

/-- The entries for text that an editor has left behind, with the words for text that is invalid. -/
def ofEdited (options : Editing.Options) (whose : String) (text : List Char) : List Entry :=
  ofCompiling options.zone (String.ofList text) ++
    match Query.compile options.zone (String.ofList text) with
    | .ok _ => []
    | .error fault =>
      match fault.failure with
      | .report report => [serviceEntry .error (whose ++ " does not compile: " ++ report.text)]
      | _ => []

/-- The entries for opening an editor on a document, and what it has done, if it could be told. -/
def ofRevising (options : Editing.Options) (editor : Editor) (doc : Document) : List Entry :=
  match Editing.draftOf options doc with
  | .error _ => []
  | .ok draft =>
    match editor draft with
    | .error _ => []
    | .ok edited =>
      if Text.squeeze edited = Text.squeeze draft then
        [serviceEntry .debug "Editor returned unchanged text"]
      else
        ofEdited options "Edited document" edited ++
          match Editing.revisionOf options doc draft edited with
          | .ok .sameDocument => [serviceEntry .debug "Edited text compiles to the same document"]
          | _ => []

/-- The entries for inserting a document, with the words for a document that has been inserted. -/
def ofInserting (store : Store) (doc : Document) (words : Value → String) : List Entry :=
  match store.insert doc with
  | (.ok id, _) => [serviceEntry .info (words id)]
  | (.error _, _) => []

/-- The entries for editing the document with an identifier. -/
def ofEditing (options : Editing.Options) (editor : Editor) (id : Value) (store : Store) : List Entry :=
  match store.get id with
  | .error _ => []
  | .ok doc =>
    ofRevising options editor doc ++
      match Editing.edit options editor id store with
      | (.ok (some _), _) => [serviceEntry .info ("Updated document " ++ idShown id)]
      | _ => []

/-- The entries for writing a document from nothing. -/
def ofWriting (options : Editing.Options) (editor : Editor) (store : Store) : List Entry :=
  ofRevising options editor [] ++
    match Editing.revise options editor [] with
    | .ok (.changed doc) => ofInserting store doc fun id => "Inserted document " ++ idShown id
    | _ => []

/-- The entries for duplicating the document with an identifier. -/
def ofDuplicating (options : Editing.Options) (editor : Editor) (id : Value) (store : Store) :
    List Entry :=
  let edited := match (Editing.Purpose.duplicate id).draft options store with
    | .error _ => []
    | .ok draft =>
      match editor draft with
      | .error _ => []
      | .ok text => ofEdited options "Duplicated document" text
  edited ++
    match Editing.editedCopy options editor id store with
    | .ok (some doc) => ofInserting store doc fun new =>
        "Duplicated document " ++ idShown id ++ " as " ++ idShown new
    | _ => []

/-- The entries for what an editor was opened for. -/
def ofPurpose (options : Editing.Options) (editor : Editor) (purpose : Editing.Purpose) (store : Store) :
    List Entry :=
  match purpose with
  | .edit id => ofEditing options editor id store
  | .insert => ofWriting options editor store
  | .duplicate id => ofDuplicating options editor id store

/-- The entries for deleting the document with an identifier. -/
def ofDeleting (id : Value) (store : Store) : List Entry :=
  match store.delete id with
  | .ok _ => [serviceEntry .info ("Deleted document " ++ idShown id)]
  | .error _ => []

end DocBrowser.Log
