import Mathlib
import DocBrowser.Proofs.Store.Lookup
/-!
# Edited text

A document that an editor has changed, and a copy that it has made, is what the text compiles to that the
editor left behind for the draft it was given. An edit answers with the changed document and puts it in the
place of the old one, or it leaves the store alone.
-/

namespace DocBrowser.Editing

open Store (SplitAt get_eq_ok idKey update_eq_ok)

variable {options : Options} {editor : Editor}

theorem draftOf_eq_ok {doc : Document} {draft : List Char} :
    draftOf options doc = .ok draft ↔ doc.render options.sortKeys = .ok draft := by
  rw [draftOf, orFailure_eq_ok]

theorem compileEdited_eq_ok {text : List Char} {doc : Document} :
    compileEdited options text = .ok doc ↔ Query.compile options.zone (String.ofList text) = .ok doc := by
  rw [compileEdited]
  cases Query.compile options.zone (String.ofList text) with
  | ok compiled => simp
  | error fault =>
    dsimp only
    split_ifs <;> simp

/-- An editor is opened on a document and leaves text that compiles. -/
structure Rewritten (options : Options) (editor : Editor) (doc : Document) (draft text : List Char)
    (compiled : Document) : Prop where
  rendered : draftOf options doc = .ok draft
  edited : editor draft = .ok text
  compiles : Query.compile options.zone (String.ofList text) = .ok compiled

/-- A changed document is what the edited text compiles to. -/
theorem rewritten_of_revise {doc changed : Document} (h : revise options editor doc = .ok (.changed changed)) :
    ∃ draft text, Rewritten options editor doc draft text changed := by
  obtain ⟨draft, hdraft, h⟩ := bind_eq_ok.1 h
  obtain ⟨text, htext, h⟩ := bind_eq_ok.1 h
  rw [revisionOf] at h
  split_ifs at h
  · cases h
  · obtain ⟨result, hresult, h⟩ := bind_eq_ok.1 h
    obtain ⟨same, -, h⟩ := bind_eq_ok.1 h
    cases same <;> cases h
    exact ⟨draft, text, hdraft, htext, compileEdited_eq_ok.1 hresult⟩

/-- A copy is what the edited text compiles to, without its identifier; text without fields makes none. -/
theorem editedCopy_eq_some {id : Value} {store : Store} {copy : Document} :
    editedCopy options editor id store = .ok (some copy) ↔ ∃ source draft text compiled, store.get id = .ok source ∧
      Rewritten options editor (eraseField source idKey) draft text compiled ∧ compiled ≠ [] ∧
      copy = eraseField compiled idKey := by
  constructor
  · intro h
    obtain ⟨draft, hdraft, h⟩ := bind_eq_ok.1 h
    obtain ⟨text, htext, h⟩ := bind_eq_ok.1 h
    obtain ⟨compiled, hcompiled, h⟩ := bind_eq_ok.1 h
    obtain ⟨doc, hdoc, hdraft⟩ := bind_eq_ok.1 hdraft
    obtain ⟨source, hsource, rfl⟩ := map_eq_ok.1 hdoc
    have hrewritten : Rewritten options editor (eraseField source idKey) draft text compiled :=
      ⟨hdraft, htext, compileEdited_eq_ok.1 hcompiled⟩
    -- an edit that leaves nothing is no copy
    cases compiled with
    | nil => cases h
    | cons field rest =>
      cases h
      exact ⟨source, draft, text, field :: rest, hsource, hrewritten, List.cons_ne_nil _ _, rfl⟩
  · rintro ⟨source, draft, text, compiled, hget, h, hfields, rfl⟩
    obtain ⟨field, rest, rfl⟩ := List.exists_cons_of_ne_nil hfields
    rw [editedCopy, Purpose.draft, Purpose.source, hget]
    simp only [Except.map, bind, Except.bind, h.rendered, h.edited, compileEdited_eq_ok.2 h.compiles]
    rfl

/-! ## Documents under an identifier -/

theorem eraseField_under (id : Value) (doc : Document) : eraseField (under id doc) idKey = eraseField doc idKey := by
  rw [under, eraseField, List.filter_cons_of_neg (by simp), eraseField, List.filter_filter]
  simp

/-- Only the last identifier counts. -/
theorem under_under (id other : Value) (doc : Document) : under id (under other doc) = under id doc := by
  rw [under, eraseField_under, under]

/-- A changed document takes the place of the one found under the identifier. -/
theorem edit_of_changed {options : Options} {editor : Editor} {store : Store} {id : Value} {doc changed : Document}
    (hget : store.get id = .ok doc) (hrevise : revise options editor doc = .ok (.changed changed)) :
    ∃ front back, SplitAt id store.documents front doc back ∧ edit options editor id store =
      (.ok (some (under id changed)), { store with documents := front ++ under id changed :: back }) := by
  obtain ⟨front, back, hsplit⟩ := get_eq_ok.1 hget
  have hupdate : store.update id (under id changed) =
      .ok { store with documents := front ++ under id changed :: back } :=
    update_eq_ok.2 ⟨front, doc, back, hsplit, by rw [under_under]⟩
  refine ⟨front, back, hsplit, ?_⟩
  rw [edit, hget, Except.bind, hrevise]
  dsimp only
  rw [hupdate]

/-- The ways in which an edit can go. -/
theorem edit_cases (options : Options) (editor : Editor) (id : Value) (store : Store) :
    (∃ failure, edit options editor id store = (.error failure, store)) ∨
    edit options editor id store = (.ok none, store) ∨
    ∃ front doc back changed, SplitAt id store.documents front doc back ∧
      revise options editor doc = .ok (.changed changed) ∧ edit options editor id store =
        (.ok (some (under id changed)), { store with documents := front ++ under id changed :: back }) := by
  rcases hrevision : (store.get id).bind (revise options editor) with failure | _ | _ | changed
  · exact .inl ⟨failure, by rw [edit, hrevision]⟩
  · exact .inr (.inl (by rw [edit, hrevision]))
  · exact .inr (.inl (by rw [edit, hrevision]))
  · obtain ⟨doc, hget, hrevise⟩ := bind_eq_ok.1 hrevision
    obtain ⟨front, back, hsplit, hedit⟩ := edit_of_changed hget hrevise
    exact .inr (.inr ⟨front, doc, back, changed, hsplit, hrevise, hedit⟩)

end DocBrowser.Editing
