import Mathlib
import DocBrowser.Log.Editing
import DocBrowser.Proofs.Editing.Unchanged
import DocBrowser.Proofs.Store.Unique
/-!
# Work on one document among others

What an editor does to the document that is found under an identifier, it does as if no other document were
stored: the others are not looked at for more than their identifiers, and they stay where they are.
-/

namespace DocBrowser

open Editing (under)

namespace Store

/-- A store with documents around its first one. What was added behind the first is behind all of them. -/
def among (front back : List Document) (store : Store) : Store :=
  { store with documents := front ++ store.documents.take 1 ++ back ++ store.documents.drop 1 }

/-- Whether the next identifier is not one of a stored document. -/
def GeneratesNew (store : Store) : Prop :=
  ∀ id, store.ids.next.1 = .ok id → ∀ doc ∈ store.documents, field? doc idKey ≠ some (.objectId id)

theorem among_singleton (front back : List Document) (source : Document) (ids : IdSource) :
    among front back ⟨[source], ids⟩ = ⟨front ++ source :: back, ids⟩ := by
  simp [among]

/-- A document that is found among others is found alone. -/
theorem SplitAt.only {id : Value} {docs front back : List Document} {source : Document}
    (h : SplitAt id docs front source back) : SplitAt id [source] [] source [] :=
  ⟨rfl, h.found, List.forall_mem_nil _⟩

theorem delete_of_splitAt {id : Value} {docs front back : List Document} {source : Document} (ids : IdSource)
    (h : SplitAt id docs front source back) : delete ⟨docs, ids⟩ id = .ok ⟨front ++ back, ids⟩ :=
  delete_eq_ok.2 ⟨front, source, back, h, rfl⟩

theorem get_of_splitAt {id : Value} {docs front back : List Document} {source : Document} (ids : IdSource)
    (h : SplitAt id docs front source back) : get ⟨docs, ids⟩ id = .ok source :=
  get_eq_ok.2 ⟨front, back, h⟩

theorem update_of_splitAt {id : Value} {docs front back : List Document} {source : Document} (ids : IdSource)
    (h : SplitAt id docs front source back) (doc : Document) :
    update ⟨docs, ids⟩ id doc = .ok ⟨front ++ under id doc :: back, ids⟩ :=
  update_eq_ok.2 ⟨front, source, back, h, rfl⟩

/-- A new identifier leads to the document that has just been stored under it. -/
theorem getLast_of_new {docs : List Document} {id : ObjectId}
    (hnew : ∀ doc ∈ docs, field? doc idKey ≠ some (.objectId id)) (doc : Document) (ids : IdSource) :
    getLast ⟨docs ++ [doc], ids⟩ (.objectId id) = .ok doc :=
  (Editing.getLast_concat_eq_ok fun other hother => hasId_objectId_eq_ok_false.2 (hnew other hother)).2 ⟨rfl, rfl⟩

end Store

namespace Editing

open Store (SplitAt GeneratesNew idKey)

section

variable {id : Value} {front back : List Document} {source : Document} {ids : IdSource}
  (h : SplitAt id (front ++ source :: back) front source back)

include h

theorem edit_among (options : Options) (editor : Editor) :
    edit options editor id ⟨front ++ source :: back, ids⟩ =
      ((edit options editor id ⟨[source], ids⟩).1, (edit options editor id ⟨[source], ids⟩).2.among front back) := by
  rw [edit, edit, Store.get_of_splitAt ids h, Store.get_of_splitAt ids h.only]
  simp only [Except.bind]
  rcases revise options editor source with failure | _ | _ | doc
  · rw [Store.among_singleton]
  · rw [Store.among_singleton]
  · rw [Store.among_singleton]
  · dsimp only
    rw [Store.update_of_splitAt ids h, Store.update_of_splitAt ids h.only, List.nil_append, Store.among_singleton]

theorem draft_among (options : Options) :
    (Purpose.duplicate id).draft options ⟨front ++ source :: back, ids⟩ =
      (Purpose.duplicate id).draft options ⟨[source], ids⟩ := by
  rw [Purpose.draft, Purpose.draft, Purpose.source, Purpose.source, Store.get_of_splitAt ids h,
    Store.get_of_splitAt ids h.only]

theorem editedCopy_among (options : Options) (editor : Editor) :
    editedCopy options editor id ⟨front ++ source :: back, ids⟩ = editedCopy options editor id ⟨[source], ids⟩ := by
  rw [editedCopy, editedCopy, draft_among h]

end

/-- A copy comes without an identifier. -/
theorem field?_of_editedCopy {options : Options} {editor : Editor} {id : Value} {store : Store} {copy : Document}
    (h : editedCopy options editor id store = .ok (some copy)) : field? copy idKey = none := by
  obtain ⟨-, -, -, compiled, -, -, -, rfl⟩ := editedCopy_eq_some.1 h
  exact field?_eraseField compiled idKey

section

variable {front back : List Document} {source doc : Document} {ids : IdSource} (hid : field? doc idKey = none)

include hid

/-- A document without an identifier is inserted whatever else is stored. -/
theorem insert_fst (docs others : List Document) :
    (Store.insert ⟨docs, ids⟩ doc).1 = (Store.insert ⟨others, ids⟩ doc).1 := by
  rw [Store.insert, Store.insert, hid]
  dsimp only
  rcases ids.next with ⟨failure | fresh, after⟩ <;> rfl

/-- A document without an identifier is stored behind all others, and found again if its identifier is new. -/
theorem insertAndGet_among (hnew : GeneratesNew ⟨front ++ source :: back, ids⟩) :
    insertAndGet ⟨front ++ source :: back, ids⟩ doc =
      ((insertAndGet ⟨[source], ids⟩ doc).1, (insertAndGet ⟨[source], ids⟩ doc).2.among front back) := by
  rw [insertAndGet, insertAndGet, Store.insert, Store.insert, hid]
  dsimp only
  rcases hnext : ids.next with ⟨failure | fresh, after⟩
  · exact congrArg _ (Store.among_singleton front back source after).symm
  · have hfresh := hnew fresh (congrArg Prod.fst hnext)
    have hsource : ∀ other ∈ [source], field? other idKey ≠ some (.objectId fresh) :=
      List.forall_mem_singleton.2 (hfresh source (by simp))
    simp only [Store.append, Store.getLast_of_new hfresh, Store.getLast_of_new hsource, Except.map, Store.among]
    simp

end

section

variable {id : Value} {front back : List Document} {source : Document} {ids : IdSource}
  (h : SplitAt id (front ++ source :: back) front source back)
  (hnew : GeneratesNew ⟨front ++ source :: back, ids⟩)

include h hnew

theorem duplicate_among (options : Options) (editor : Editor) :
    duplicate options editor id ⟨front ++ source :: back, ids⟩ =
      ((duplicate options editor id ⟨[source], ids⟩).1,
        (duplicate options editor id ⟨[source], ids⟩).2.among front back) := by
  rw [duplicate, duplicate, editedCopy_among h]
  rcases hcopy : editedCopy options editor id ⟨[source], ids⟩ with failure | _ | copy
  · rw [Store.among_singleton]
  · rw [Store.among_singleton]
  · exact insertAndGet_among (field?_of_editedCopy hcopy) hnew

end

end Editing

namespace Log

open Store (SplitAt idKey)

/-- What is logged of an insertion does not depend on what else is stored. -/
theorem ofInserting_of_none {doc : Document} (hid : field? doc idKey = none) (docs others : List Document)
    (ids : IdSource) (words : Value → String) :
    ofInserting ⟨docs, ids⟩ doc words = ofInserting ⟨others, ids⟩ doc words := by
  have hsame : (Store.insert ⟨docs, ids⟩ doc).1 = (Store.insert ⟨others, ids⟩ doc).1 :=
    Editing.insert_fst hid docs others
  rw [ofInserting, ofInserting]
  generalize Store.insert ⟨docs, ids⟩ doc = result at hsame ⊢
  generalize Store.insert ⟨others, ids⟩ doc = result' at hsame ⊢
  obtain ⟨answer, _⟩ := result
  obtain ⟨_, _⟩ := result'
  cases hsame
  cases answer <;> rfl

variable {id : Value} {front back : List Document} {source : Document} {ids : IdSource}
  (h : SplitAt id (front ++ source :: back) front source back)

include h

theorem ofEditing_among (options : Editing.Options) (editor : Editor) :
    ofEditing options editor id ⟨front ++ source :: back, ids⟩ = ofEditing options editor id ⟨[source], ids⟩ := by
  rw [ofEditing, ofEditing, Store.get_of_splitAt ids h, Store.get_of_splitAt ids h.only, Editing.edit_among h]
  rcases Editing.edit options editor id ⟨[source], ids⟩ with ⟨failure | _ | doc, after⟩ <;> rfl

theorem ofDuplicating_among (options : Editing.Options) (editor : Editor) :
    ofDuplicating options editor id ⟨front ++ source :: back, ids⟩ =
      ofDuplicating options editor id ⟨[source], ids⟩ := by
  rw [ofDuplicating, ofDuplicating, Editing.draft_among h, Editing.editedCopy_among h]
  rcases hcopy : Editing.editedCopy options editor id ⟨[source], ids⟩ with failure | _ | copy
  · rfl
  · rfl
  · exact congrArg _ (ofInserting_of_none (Editing.field?_of_editedCopy hcopy) _ _ ids _)

theorem ofDeleting_among : ofDeleting id ⟨front ++ source :: back, ids⟩ = ofDeleting id ⟨[source], ids⟩ := by
  rw [ofDeleting, ofDeleting, Store.delete_of_splitAt ids h, Store.delete_of_splitAt ids h.only]

end Log

end DocBrowser
