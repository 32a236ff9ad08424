import Mathlib
import DocBrowser.Editing.Basic
import DocBrowser.Proofs.Failure
import DocBrowser.Proofs.Value.Equality
/-!
# Looking up documents

A document is found at the first place whose identifier is equal to the wanted one. Every operation of
a store looks a place up first and writes, if at all, only behind that.
-/

namespace DocBrowser.Store

open Editing (under)

/-! ## Places -/

/-- Whether a comparison says yes; one without an answer counts as no. -/
def holds : Except Failure Bool → Bool
  | .ok answer => answer
  | .error _ => false

theorem holds_iff {answer : Except Failure Bool} : holds answer = true ↔ answer = .ok true := by
  cases answer <;> simp [holds]

/-- Whether a document is stored under an identifier. -/
def isUnder (id : Value) (doc : Document) : Bool := holds (hasId id doc)

theorem hasId_eq_ok_true {id : Value} {doc : Document} :
    hasId id doc = .ok true ↔ ∃ own, field? doc idKey = some own ∧ own.equal id = .ok true := by
  rw [hasId]
  cases field? doc idKey <;> simp

/-- A fresh identifier is compared with that of every document. -/
theorem hasId_objectId_isOk (id : ObjectId) (doc : Document) : ∃ answer, hasId (.objectId id) doc = .ok answer := by
  rw [hasId]
  cases field? doc idKey with
  | none => exact ⟨false, rfl⟩
  | some own => exact own.equal_objectId_isOk id

/-- The documents split at the first one under an identifier. -/
structure SplitAt (id : Value) (docs front : List Document) (doc : Document) (back : List Document) : Prop where
  eq_append : docs = front ++ doc :: back
  found : hasId id doc = .ok true
  not_front : ∀ other ∈ front, hasId id other = .ok false

/-- The place of an identifier is that of the first document under it. -/
theorem positionOf?_eq_some {id : Value} {docs : List Document} {position : ℕ} :
    positionOf? id docs = .ok (some position) ↔
      ∃ front doc back, SplitAt id docs front doc back ∧ front.length = position := by
  constructor
  · -- forth along the search, back along the front, where each comparison answers no
    intro h
    induction docs generalizing position with
    | nil => simp [positionOf?] at h
    | cons doc docs ih =>
      rw [positionOf?] at h
      obtain ⟨answer, hanswer, h⟩ := bind_eq_ok.1 h
      cases answer with
      | true =>
        cases h
        exact ⟨[], doc, docs, ⟨rfl, hanswer, by simp⟩, rfl⟩
      | false =>
        obtain ⟨place, hplace, h⟩ := bind_eq_ok.1 h
        cases place with
        | none => cases h
        | some place =>
          cases h
          obtain ⟨front, found, back, ⟨rfl, hfound, hfront⟩, rfl⟩ := ih hplace
          exact ⟨doc :: front, found, back, ⟨rfl, hfound, List.forall_mem_cons.2 ⟨hanswer, hfront⟩⟩, rfl⟩
  · rintro ⟨front, doc, back, ⟨rfl, hdoc, hfront⟩, rfl⟩
    induction front with
    | nil =>
      rw [List.nil_append, positionOf?, hdoc]
      rfl
    | cons first rest ih =>
      obtain ⟨hfirst, hrest⟩ := List.forall_mem_cons.1 hfront
      rw [List.cons_append, positionOf?, hfirst, ih hrest]
      rfl

/-- An identifier has no place exactly where every document is under another one. -/
theorem positionOf?_eq_none {id : Value} {docs : List Document} :
    positionOf? id docs = .ok none ↔ ∀ doc ∈ docs, hasId id doc = .ok false := by
  induction docs with
  | nil => simp [positionOf?]
  | cons doc docs ih =>
    rw [positionOf?, List.forall_mem_cons, ← ih, bind_eq_ok]
    -- the search goes on past a document only where the comparison answers no
    constructor
    · rintro ⟨answer, hanswer, h⟩
      cases answer with
      | true => cases h
      | false =>
        obtain ⟨place, hplace, h⟩ := bind_eq_ok.1 h
        cases place with
        | none => exact ⟨hanswer, hplace⟩
        | some place => cases h
    · rintro ⟨hanswer, hplace⟩
      exact ⟨false, hanswer, by rw [hplace]; rfl⟩

/-- Where every comparison has an answer, so has the lookup. -/
theorem positionOf?_isOk {id : Value} {docs : List Document}
    (h : ∀ doc ∈ docs, ∃ answer, hasId id doc = .ok answer) : ∃ place, positionOf? id docs = .ok place := by
  induction docs with
  | nil => exact ⟨none, rfl⟩
  | cons doc docs ih =>
    obtain ⟨answer, hanswer⟩ := h doc (by simp)
    obtain ⟨place, hplace⟩ := ih fun doc hdoc => h doc (List.mem_cons_of_mem _ hdoc)
    rw [positionOf?, hanswer]
    cases answer with
    | true => exact ⟨some 0, rfl⟩
    | false => exact ⟨place.map (· + 1), by rw [hplace]; rfl⟩

/-! ## Operations -/

theorem positionOf_eq_ok {store : Store} {id : Value} {position : ℕ} :
    store.positionOf id = .ok position ↔ positionOf? id store.documents = .ok (some position) := by
  rw [positionOf, bind_eq_ok]
  constructor
  · rintro ⟨place, hplace, h⟩
    cases place with
    | none => cases h
    | some place =>
      cases h
      exact hplace
  · intro h
    exact ⟨some position, h, rfl⟩

theorem get_eq_ok {store : Store} {id : Value} {doc : Document} :
    store.get id = .ok doc ↔ ∃ front back, SplitAt id store.documents front doc back := by
  rw [get, bind_eq_ok]
  simp only [positionOf_eq_ok, positionOf?_eq_some]
  constructor
  · rintro ⟨_, ⟨front, found, back, hsplit, rfl⟩, h⟩
    rw [hsplit.eq_append, List.getElem?_append_right le_rfl, Nat.sub_self, List.getElem?_cons_zero] at h
    cases h
    exact ⟨front, back, hsplit⟩
  · rintro ⟨front, back, hsplit⟩
    refine ⟨front.length, ⟨front, doc, back, hsplit, rfl⟩, ?_⟩
    rw [hsplit.eq_append, List.getElem?_append_right le_rfl, Nat.sub_self, List.getElem?_cons_zero]
    rfl

/-- Updating replaces the first document under the identifier. -/
theorem update_eq_ok {store after : Store} {id : Value} {doc : Document} :
    store.update id doc = .ok after ↔ ∃ front old back, SplitAt id store.documents front old back ∧
      after = { store with documents := front ++ under id doc :: back } := by
  rw [update, bind_eq_ok]
  simp only [positionOf_eq_ok, positionOf?_eq_some]
  have hset {front back : List Document} {old : Document} (hsplit : SplitAt id store.documents front old back) :
      store.documents.set front.length (under id doc) = front ++ under id doc :: back := by
    rw [hsplit.eq_append, List.set_append_right _ _ le_rfl, Nat.sub_self, List.set_cons_zero]
  constructor
  · rintro ⟨_, ⟨front, old, back, hsplit, rfl⟩, h⟩
    cases h
    exact ⟨front, old, back, hsplit, by rw [← hset hsplit, under]⟩
  · rintro ⟨front, old, back, hsplit, rfl⟩
    exact ⟨front.length, ⟨front, old, back, hsplit, rfl⟩, by rw [← hset hsplit, under]; rfl⟩

/-- Deleting removes the first document under the identifier. -/
theorem delete_eq_ok {store after : Store} {id : Value} :
    store.delete id = .ok after ↔ ∃ front old back, SplitAt id store.documents front old back ∧
      after = { store with documents := front ++ back } := by
  rw [delete, bind_eq_ok]
  simp only [positionOf_eq_ok, positionOf?_eq_some]
  have herase {front back : List Document} {old : Document} (hsplit : SplitAt id store.documents front old back) :
      store.documents.eraseIdx front.length = front ++ back := by
    rw [hsplit.eq_append, List.eraseIdx_append_of_length_le le_rfl, Nat.sub_self, List.eraseIdx_cons_zero]
  constructor
  · rintro ⟨_, ⟨front, old, back, hsplit, rfl⟩, h⟩
    cases h
    exact ⟨front, old, back, hsplit, by rw [← herase hsplit]⟩
  · rintro ⟨front, old, back, hsplit, rfl⟩
    exact ⟨front.length, ⟨front, old, back, hsplit, rfl⟩, by rw [← herase hsplit]; rfl⟩

/-- The ways in which inserting can go. -/
theorem insert_cases (store : Store) (doc : Document) :
    (∃ id ids, field? doc idKey = none ∧ store.ids.next = (.ok id, ids) ∧
      store.insert doc = (.ok (.objectId id), ⟨store.documents ++ [(idKey, .objectId id) :: doc], ids⟩)) ∨
    (∃ id, field? doc idKey = some id ∧ (∀ other ∈ store.documents, hasId id other = .ok false) ∧
      store.insert doc = (.ok id, store.append doc)) ∨
    ∃ failure ids, store.insert doc = (.error failure, { store with ids }) := by
  rw [insert]
  cases hid : field? doc idKey with
  | none =>
    rcases hnext : store.ids.next with ⟨failure | id, ids⟩
    · exact .inr (.inr ⟨failure, ids, rfl⟩)
    · exact .inl ⟨id, ids, rfl, rfl, rfl⟩
  | some id =>
    -- a document with an id of its own is looked for before anything is written
    dsimp only
    rcases hplace : positionOf? id store.documents with failure | place | place
    · exact .inr (.inr ⟨failure, store.ids, rfl⟩)
    · cases htext : idText id with
      | error failure => exact .inr (.inr ⟨failure, store.ids, rfl⟩)
      | ok text => exact .inr (.inl ⟨id, rfl, positionOf?_eq_none.1 hplace, rfl⟩)
    · exact .inr (.inr ⟨_, store.ids, rfl⟩)

end DocBrowser.Store
