import Mathlib
import DocBrowser.Proofs.Editing.Edited
import DocBrowser.Proofs.ExtendedJson.Renderable
import DocBrowser.Proofs.Query.Recompile
import DocBrowser.Proofs.Store.Lookup
/-!
# Written documents have renderings

What compiles can be rendered, under whatever identifier it is stored. So an editor leaves a store of
documents with renderings as one, and answers with such a document.
-/

namespace DocBrowser

open ExtendedJson (Writable)

/-- All documents of a store have renderings. -/
def Store.Renderable (store : Store) : Prop := ∀ doc ∈ store.documents, Writable (.document doc)

theorem writable_idKey_cons {doc : Document} (h : Writable (.document doc)) (hkey : field? doc Store.idKey = none)
    {id : Value} (hid : Writable id) : Writable (.document ((Store.idKey, id) :: doc)) :=
  h.cons (field?_eq_none_iff.1 hkey) (by decide) hid

namespace Editing

theorem writable_under {doc : Document} (h : Writable (.document doc)) {id : Value} (hid : Writable id) :
    Writable (.document (under id doc)) :=
  writable_idKey_cons (h.eraseField _) (field?_eraseField doc _) hid

theorem writable_of_revise {options : Options} {editor : Editor} {doc changed : Document}
    (h : revise options editor doc = .ok (.changed changed)) : Writable (.document changed) := by
  obtain ⟨draft, text, hrewritten⟩ := rewritten_of_revise h
  exact Query.writable_of_compile hrewritten.compiles

theorem writable_of_editedCopy {options : Options} {editor : Editor} {id : Value} {store : Store} {copy : Document}
    (h : editedCopy options editor id store = .ok (some copy)) : Writable (.document copy) := by
  obtain ⟨source, draft, text, compiled, -, hrewritten, -, rfl⟩ := editedCopy_eq_some.1 h
  exact (Query.writable_of_compile hrewritten.compiles).eraseField _

theorem mem_of_getLast {store : Store} {id : Value} {doc : Document} (h : store.getLast id = .ok doc) :
    doc ∈ store.documents := by
  have hfound {place : Option Document} (h : Store.getLast.found id place = .ok doc) : place = some doc := by
    cases place <;> cases h
    rfl
  obtain ⟨place, -, h⟩ := bind_eq_ok.1 h
  cases place with
  | some position => exact List.mem_of_getElem? (hfound h)
  | none =>
    obtain ⟨answer, -, h⟩ := bind_eq_ok.1 h
    cases answer with
    | false => cases h
    | true => exact List.mem_of_getLast? (hfound h)

theorem renderable_append {docs : List Document} {ids : IdSource}
    (hdocs : ∀ doc ∈ docs, Writable (.document doc)) {last : Document} (hlast : Writable (.document last)) :
    Store.Renderable ⟨docs ++ [last], ids⟩ :=
  List.forall_mem_append.2 ⟨hdocs, List.forall_mem_singleton.2 hlast⟩

/-- What is inserted, under whichever identifier, is looked up among documents with renderings. -/
theorem renderable_insertAndGet {store : Store} (hstore : store.Renderable) {doc : Document}
    (hdoc : Writable (.document doc)) :
    (insertAndGet store doc).2.Renderable ∧
      ∀ found, (insertAndGet store doc).1 = .ok (some found) → Writable (.document found) := by
  -- what is read back is one of the documents kept
  have hfound {after : Store} (hafter : after.Renderable) {id : Value} {found : Document}
      (h : (after.getLast id).map some = .ok (some found)) : Writable (.document found) := by
    obtain ⟨doc, hdoc, hsome⟩ := map_eq_ok.1 h
    cases hsome
    exact hafter _ (mem_of_getLast hdoc)
  rw [insertAndGet]
  obtain ⟨id, ids, hid, -, h⟩ | ⟨id, -, -, h⟩ | ⟨failure, ids, h⟩ := store.insert_cases doc
  · have hwritten : Writable (.document ((Store.idKey, .objectId id) :: doc)) :=
      writable_idKey_cons hdoc hid ⟨trivial, rfl⟩
    have hafter : Store.Renderable ⟨_, ids⟩ := renderable_append hstore hwritten
    rw [h]
    exact ⟨hafter, fun found => hfound hafter⟩
  · have hafter : Store.Renderable (store.append doc) := renderable_append hstore hdoc
    rw [h]
    exact ⟨hafter, fun found => hfound hafter⟩
  · rw [h]
    exact ⟨hstore, nofun⟩

/-- An editor leaves documents with renderings, and answers with one. -/
theorem renderable_perform (options : Options) (editor : Editor) {purpose : Purpose} {store : Store}
    (hstore : store.Renderable) (hid : ∀ id, purpose = .edit id → Writable id) :
    (perform options editor purpose store).2.Renderable ∧
      ∀ doc, (perform options editor purpose store).1 = .ok (some doc) → Writable (.document doc) := by
  cases purpose with
  | edit id =>
    rw [perform]
    obtain ⟨failure, h⟩ | h | ⟨front, old, back, changed, hsplit, hrevise, h⟩ := edit_cases options editor id store
    · rw [h]
      exact ⟨hstore, nofun⟩
    · rw [h]
      exact ⟨hstore, nofun⟩
    · -- the new document takes the place of the old one, the others stay
      have hwritten := writable_under (writable_of_revise hrevise) (hid id rfl)
      rw [Store.Renderable, hsplit.eq_append, List.forall_mem_append, List.forall_mem_cons] at hstore
      rw [h]
      refine ⟨?_, fun doc h => by cases h; exact hwritten⟩
      exact List.forall_mem_append.2 ⟨hstore.1, List.forall_mem_cons.2 ⟨hwritten, hstore.2.2⟩⟩
  | insert =>
    rw [perform, insert]
    rcases hrevision : revise options editor [] with failure | _ | _ | doc
    · exact ⟨hstore, nofun⟩
    · exact ⟨hstore, nofun⟩
    · exact ⟨hstore, nofun⟩
    · exact renderable_insertAndGet hstore (writable_of_revise hrevision)
  | duplicate id =>
    rw [perform, duplicate]
    rcases hcopy : editedCopy options editor id store with failure | _ | copy
    · exact ⟨hstore, nofun⟩
    · exact ⟨hstore, nofun⟩
    · exact renderable_insertAndGet hstore (writable_of_editedCopy hcopy)

theorem renderable_delete {store after : Store} (hstore : store.Renderable) {id : Value}
    (h : store.delete id = .ok after) : after.Renderable := by
  obtain ⟨front, old, back, hsplit, rfl⟩ := Store.delete_eq_ok.1 h
  rw [Store.Renderable, hsplit.eq_append, List.forall_mem_append, List.forall_mem_cons] at hstore
  exact List.forall_mem_append.2 ⟨hstore.1, hstore.2.2⟩

end Editing

end DocBrowser
