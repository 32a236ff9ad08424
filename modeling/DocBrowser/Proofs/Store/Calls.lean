import Mathlib
import DocBrowser.Proofs.Store.Lookup
/-!
# Calls to a store

A store is used by calls one after the other, each at a time of its own. A call that fails leaves the
documents as they are; what the others do to them is said once, and whatever holds of the documents
throughout is derived from it.
-/

namespace DocBrowser.Store

open Editing (under)

/-- What a store is asked for. -/
inductive Operation where
  | insert (doc : Document)
  | update (id : Value) (doc : Document)
  | delete (id : Value)
  | get (id : Value)

/-- The identifier that an operation is about; a document that brings none gets a fresh one. -/
def Operation.id? : Operation → Option Value
  | .insert doc => field? doc idKey
  | .update id _ | .delete id | .get id => some id

/-- What a store answers. -/
inductive Answer where
  | inserted (id : Value)
  | updated
  | deleted
  | found (doc : Document)

/-- The store behind an operation that gives no answer but the store itself. -/
def settle (store : Store) (answer : Answer) : Except Failure Store → Except Failure Answer × Store
  | .ok after => (.ok answer, after)
  | .error failure => (.error failure, store)

/-- The answer to an operation, and the store behind it. -/
def perform (store : Store) : Operation → Except Failure Answer × Store
  | .insert doc => ((store.insert doc).1.map .inserted, (store.insert doc).2)
  | .update id doc => store.settle .updated (store.update id doc)
  | .delete id => store.settle .deleted (store.delete id)
  | .get id => ((store.get id).map .found, store)

/-- An operation at a time. -/
structure Call where
  time : Int
  operation : Operation

/-- A store when the clock shows a time. -/
def atTime (store : Store) (time : Int) : Store := { store with ids := { store.ids with time } }

/-- The answer to a call, and the store behind it. -/
def step (store : Store) (call : Call) : Except Failure Answer × Store :=
  (store.atTime call.time).perform call.operation

/-- The store behind calls. -/
def run (store : Store) (calls : List Call) : Store :=
  calls.foldl (fun store call => (store.step call).2) store

/-- A store without documents. -/
def empty (ids : IdSource) : Store := ⟨[], ids⟩

@[simp] theorem atTime_documents (store : Store) (time : Int) : (store.atTime time).documents = store.documents := rfl

@[simp] theorem empty_documents (ids : IdSource) : (empty ids).documents = [] := rfl

@[simp] theorem run_nil (store : Store) : store.run [] = store := rfl

theorem run_append (store : Store) (calls more : List Call) : store.run (calls ++ more) = (store.run calls).run more :=
  List.foldl_append

theorem run_concat (store : Store) (calls : List Call) (call : Call) :
    store.run (calls ++ [call]) = ((store.run calls).step call).2 := run_append store calls [call]

/-! ## What an operation does -/

/-- What an operation answers and which documents it leaves behind. -/
inductive Effect (store : Store) : Operation → Except Failure Answer → List Document → Prop where
  | failed {operation : Operation} {failure : Failure} : Effect store operation (.error failure) store.documents
  /-- A document without an identifier comes last, under a fresh one. -/
  | generated {doc : Document} {id : ObjectId} (hid : field? doc idKey = none) (hnext : store.ids.next.1 = .ok id) :
    Effect store (.insert doc) (.ok (.inserted (.objectId id))) (store.documents ++ [(idKey, .objectId id) :: doc])
  /-- A document under an identifier that no other has comes last. -/
  | inserted {doc : Document} {id : Value} (hid : field? doc idKey = some id)
    (hfree : ∀ other ∈ store.documents, hasId id other = .ok false) :
    Effect store (.insert doc) (.ok (.inserted id)) (store.documents ++ [doc])
  /-- The first document under the identifier is replaced in its place. -/
  | updated {id : Value} {doc old : Document} {front back : List Document}
    (hsplit : SplitAt id store.documents front old back) :
    Effect store (.update id doc) (.ok .updated) (front ++ under id doc :: back)
  /-- The first document under the identifier is left out. -/
  | deleted {id : Value} {old : Document} {front back : List Document}
    (hsplit : SplitAt id store.documents front old back) :
    Effect store (.delete id) (.ok .deleted) (front ++ back)
  | found {id : Value} {doc : Document} (hget : store.get id = .ok doc) :
    Effect store (.get id) (.ok (.found doc)) store.documents

theorem perform_effect (store : Store) (operation : Operation) :
    Effect store operation (store.perform operation).1 (store.perform operation).2.documents := by
  cases operation with
  | insert doc =>
    rw [perform]
    -- an id made here, an id of the document's own, and no insertion
    obtain ⟨id, ids, hid, hnext, h⟩ | ⟨id, hid, hfree, h⟩ | ⟨failure, ids, h⟩ := insert_cases store doc
    · rw [h]
      exact .generated hid (by rw [hnext])
    · rw [h]
      exact .inserted hid hfree
    · rw [h]
      exact .failed
  | update id doc =>
    rw [perform]
    cases h : store.update id doc with
    | error failure => exact .failed
    | ok after =>
      obtain ⟨front, old, back, hsplit, rfl⟩ := update_eq_ok.1 h
      exact .updated hsplit
  | delete id =>
    rw [perform]
    cases h : store.delete id with
    | error failure => exact .failed
    | ok after =>
      obtain ⟨front, old, back, hsplit, rfl⟩ := delete_eq_ok.1 h
      exact .deleted hsplit
  | get id =>
    rw [perform]
    cases h : store.get id with
    | error failure => exact .failed
    | ok doc => exact .found h

end DocBrowser.Store
