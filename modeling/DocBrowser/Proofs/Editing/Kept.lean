import Mathlib
import DocBrowser.Proofs.Editing.Edited
import DocBrowser.Proofs.Query.Recompile
import DocBrowser.Proofs.Store.Unique
/-!
# Edits that are kept

An edit changes nothing if the text is the old one up to white space, or if it compiles to the same document;
everything else takes the place of the stored document, under its identifier. White space inside of strings
counts as little as white space between them, so a change to nothing but that is dropped.
-/

namespace DocBrowser.Editing

open Store (SplitAt hasId hasId_eq_ok_true field?_under get_eq_ok idKey update_eq_ok)

/-! ## Documents under an identifier -/

/-- A document that is put in the place of the one found under an identifier is found there. -/
theorem get_replaced {store : Store} {id : Value} {front back : List Document} {doc : Document}
    (h : SplitAt id store.documents front doc back) (hitself : id.equal id = .ok true) (new : Document) :
    Store.get { store with documents := front ++ under id new :: back } id = .ok (under id new) :=
  get_eq_ok.2 ⟨front, back, rfl, hasId_eq_ok_true.2 ⟨id, field?_under id new, hitself⟩, h.not_front⟩

/-! ## Sessions -/

/-- An editor is opened on a document, looked up by its own identifier, and leaves text that compiles. -/
structure Session (options : Options) (editor : Editor) (store : Store) (id : Value) (doc : Document)
    (draft text : List Char) (compiled : Document) : Prop where
  found : store.get id = .ok doc
  own : field? doc idKey = some id
  rendered : draftOf options doc = .ok draft
  edited : editor draft = .ok text
  compiles : Query.compile options.zone (String.ofList text) = .ok compiled

/--
Nothing that an edit changes is lost: nothing is answered for equal documents only, and fields that differ
take the place of the old ones.
-/
structure Keeps (store : Store) (id : Value) (doc compiled : Document)
    (outcome : Except Failure (Option Document) × Store) : Prop where
  none_only : outcome.1 = .ok none → Document.same compiled doc = .ok true ∧ outcome.2 = store
  replaces : Document.same (eraseField compiled idKey) (eraseField doc idKey) ≠ .ok true →
    outcome.1 = .ok (some (under id compiled)) ∧ outcome.2.get id = .ok (under id compiled) ∧
    ∃ front back, store.documents = front ++ doc :: back ∧ outcome.2.documents = front ++ under id compiled :: back

section

variable {options : Options} {editor : Editor} {store : Store} {id : Value} {doc : Document} {draft text : List Char}
  {compiled : Document} (h : Session options editor store id doc draft text compiled)

include h

theorem Session.revise : Editing.revise options editor doc = revisionOf options doc draft text := by
  rw [Editing.revise, h.rendered]
  simp only [bind, Except.bind, h.edited]

/-- All other text is told from the draft by what it compiles to. -/
theorem Session.revision (hsqueeze : Text.squeeze text ≠ Text.squeeze draft) :
    revisionOf options doc draft text = orFailure Signaling.failure (Document.same compiled doc) >>= fun same =>
      .ok (if same then .sameDocument else .changed compiled) := by
  rw [revisionOf, if_neg hsqueeze, compileEdited, h.compiles]
  rfl

end

/-! ## A document with one text -/

/-- The identifier of the document below. -/
def noteId : Value := .int32 ⟨1, by decide, by decide⟩

/-- A document with nothing but a text. -/
def noteOf (text : String) : Document := [("_id", noteId), ("note", .string text)]

/-- A store of one such document. -/
def noteStore (text : String) : Store := ⟨[noteOf text], { time := 0, process := [1, 2, 3, 4, 5], counter := 0 }⟩

/-- Such a document on one line. -/
def noteLine (text : String) : List Char := ("\x7b\"_id\":1,\"note\":\"" ++ text ++ "\"\x7d").toList

/-- Such a document over many lines. -/
def notePage (text : String) : List Char := ("\x7b\n  \"_id\": 1,\n  \"note\": \"" ++ text ++ "\"\n\x7d").toList

theorem draftOf_noteOf : draftOf {} (noteOf "x y") = .ok (notePage "x y") := by cbv

theorem format_noteOf : Document.format false (noteOf "x z") = .ok (noteLine "x z") := by cbv

/-- The document is replaced by an editor that writes another one on one line. -/
theorem session_note {before after : String} (hdraft : draftOf {} (noteOf before) = .ok (notePage before))
    (hline : Document.format false (noteOf after) = .ok (noteLine after)) :
    Session {} (fun _ => .ok (noteLine after)) (noteStore before) noteId (noteOf before) (notePage before)
      (noteLine after) (noteOf after) where
  found := get_eq_ok.2 ⟨[], [], rfl, hasId_eq_ok_true.2 ⟨noteId, rfl, Value.equal_refl trivial trivial⟩, by simp⟩
  own := rfl
  rendered := hdraft
  edited := rfl
  compiles := Query.compile_format ⟨by simp [noteOf, noteId, Value.WellFormed, Value.WellFormedFields, keysOf], rfl⟩
    (by simp [noteOf, noteId, ExtendedJson.DatesFit, ExtendedJson.DatesFitFields]) hline

end DocBrowser.Editing
