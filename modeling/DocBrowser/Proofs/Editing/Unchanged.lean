import Mathlib
import DocBrowser.Proofs.Editing.Edited
import DocBrowser.Proofs.Query.RoundTrip
import DocBrowser.Proofs.Store.Lookup
/-!
# Operations that fail

An operation on documents looks up, renders, edits and compiles before it writes, so that a failure leaves
the documents as they were. What follows a write can fail in one way only: a new document is looked up again
under its identifier, and under a number that is a NaN nothing is found.
-/

namespace DocBrowser.Editing

open Store (hasId idKey positionOf? positionOf?_eq_some positionOf?_eq_none positionOf?_isOk)

/-- What is done to the documents of a store. -/
inductive Operation where
  /-- What an editor is opened for. -/
  | write (purpose : Purpose)
  | delete (id : Value)

/-- Does an operation: the document that has been written, if any, and the store behind it. -/
def serve (options : Options) (editor : Editor) (operation : Operation) (store : Store) :
    Except Failure (Option Document) × Store :=
  match operation with
  | .write purpose => perform options editor purpose store
  | .delete id =>
    match store.delete id with
    | .ok after => (.ok none, after)
    | .error failure => (.error failure, store)

/-- Whether an operation on a store has failed and left other documents behind. -/
def FailsWritten {α : Type} (store : Store) (result : Except Failure α × Store) : Prop :=
  (∃ failure, result.1 = .error failure) ∧ result.2.documents ≠ store.documents

theorem not_failsWritten_of_ok {α : Type} {store after : Store} {answer : α} :
    ¬ FailsWritten store (.ok answer, after) := by
  rintro ⟨⟨failure, h⟩, -⟩
  cases h

theorem not_failsWritten_of_eq {α : Type} {store after : Store} {result : Except Failure α}
    (h : after.documents = store.documents) : ¬ FailsWritten store (result, after) := fun hfails => hfails.2 h

/-! ## Looking up what has been inserted -/

/-- A fresh identifier is always found again, be it at its own document or at one in front of it. -/
theorem getLast_objectId_isOk (docs : List Document) (doc : Document) (ids : IdSource) (id : ObjectId) :
    ∃ found, Store.getLast ⟨docs ++ [doc], ids⟩ (.objectId id) = .ok found := by
  obtain ⟨place, hplace⟩ : ∃ place, positionOf? (.objectId id) docs = .ok place := by
    exact positionOf?_isOk fun other _ => Store.hasId_objectId_isOk id other
  rw [Store.getLast]
  dsimp only
  rw [List.dropLast_concat, hplace]
  cases place with
  | none =>
    have hitself : (Value.objectId id).equalsItself = .ok true := Value.equalsItself_eq_ok_true.2 rfl
    exact ⟨doc, by simp [hitself, Store.getLast.found, Bind.bind, Except.bind]⟩
  | some position =>
    obtain ⟨front, found, back, hsplit, rfl⟩ := positionOf?_eq_some.1 hplace
    exact ⟨found, by simp [hsplit.eq_append, Store.getLast.found, Bind.bind, Except.bind]⟩

/-- An identifier that no document in front has leads to the last one, unless it is a number that is a NaN. -/
theorem getLast_concat_eq_ok {docs : List Document} {doc found : Document} {ids : IdSource} {id : Value}
    (hfree : ∀ other ∈ docs, hasId id other = .ok false) :
    Store.getLast ⟨docs ++ [doc], ids⟩ id = .ok found ↔ id.isNaN = false ∧ doc = found := by
  rw [← Value.equalsItself_eq_ok_true, Store.getLast]
  dsimp only
  rw [List.dropLast_concat, positionOf?_eq_none.2 hfree]
  cases id.equalsItself with
  | error failure => simp [Bind.bind, Except.bind]
  | ok answer => cases answer <;> simp [Store.getLast.found, Bind.bind, Except.bind]

theorem getLast_isOk_iff {docs : List Document} (doc : Document) (ids : IdSource) {id : Value}
    (hfree : ∀ other ∈ docs, hasId id other = .ok false) :
    (∃ found, Store.getLast ⟨docs ++ [doc], ids⟩ id = .ok found) ↔ id.isNaN = false := by
  simp [getLast_concat_eq_ok hfree]

/-- Inserting a document fails behind the write exactly if the document brings a number that is a NaN. -/
theorem failsWritten_insertAndGet_iff {store : Store} {doc : Document} :
    FailsWritten store (insertAndGet store doc) ↔
      ∃ id, field? doc idKey = some id ∧ id.isNaN = true ∧ (store.insert doc).1 = .ok id := by
  rw [insertAndGet]
  obtain ⟨id, ids, hid, hnext, h⟩ | ⟨id, hid, hfree, h⟩ | ⟨failure, ids, h⟩ := store.insert_cases doc
  · obtain ⟨found, hfound⟩ := getLast_objectId_isOk store.documents ((idKey, .objectId id) :: doc) ids id
    rw [h]
    dsimp only
    rw [hfound]
    simp [hid, not_failsWritten_of_ok, Except.map]
  · -- a NaN is equal to nothing, so what was written under it is not found again
    have hfound := getLast_isOk_iff doc store.ids hfree
    rw [h]
    dsimp only [Store.append]
    cases hnan : id.isNaN with
    | false =>
      obtain ⟨found, hfound⟩ := hfound.2 hnan
      rw [hfound]
      simp [hid, hnan, not_failsWritten_of_ok, Except.map]
    | true =>
      cases hget : Store.getLast ⟨store.documents ++ [doc], store.ids⟩ id with
      | ok found =>
        have := hfound.1 ⟨found, hget⟩
        simp [hnan] at this
      | error failure => simp [FailsWritten, Except.map, hid, hnan]
  · rw [h]
    simp [not_failsWritten_of_eq]

/-! ## Whole operations -/

theorem not_failsWritten_edit (options : Options) (editor : Editor) (id : Value) (store : Store) :
    ¬ FailsWritten store (edit options editor id store) := by
  obtain ⟨failure, h⟩ | h | ⟨front, doc, back, changed, -, -, h⟩ := edit_cases options editor id store
  · rw [h]
    exact not_failsWritten_of_eq rfl
  · rw [h]
    exact not_failsWritten_of_ok
  · rw [h]
    exact not_failsWritten_of_ok

theorem failsWritten_insert_iff (options : Options) (editor : Editor) (store : Store) :
    FailsWritten store (insert options editor store) ↔ ∃ doc id, revise options editor [] = .ok (.changed doc) ∧
      field? doc idKey = some id ∧ id.isNaN = true ∧ (store.insert doc).1 = .ok id := by
  rw [insert]
  rcases revise options editor [] with failure | _ | _ | doc
  · simp [not_failsWritten_of_eq]
  · simp [not_failsWritten_of_ok]
  · simp [not_failsWritten_of_ok]
  · simp [failsWritten_insertAndGet_iff]

/-- A copy gets a fresh identifier, which is found again. -/
theorem not_failsWritten_duplicate (options : Options) (editor : Editor) (id : Value) (store : Store) :
    ¬ FailsWritten store (duplicate options editor id store) := by
  rw [duplicate]
  cases h : editedCopy options editor id store with
  | error failure => exact not_failsWritten_of_eq rfl
  | ok copy =>
    cases copy with
    | none => exact not_failsWritten_of_ok
    | some doc =>
      obtain ⟨-, -, -, compiled, -, -, -, rfl⟩ := editedCopy_eq_some.1 h
      simp [failsWritten_insertAndGet_iff, field?_eraseField]

theorem not_failsWritten_delete {store : Store} {id : Value} {options : Options} {editor : Editor} :
    ¬ FailsWritten store (serve options editor (.delete id) store) := by
  rw [serve]
  cases store.delete id with
  | error failure => exact not_failsWritten_of_eq rfl
  | ok after => exact not_failsWritten_of_ok

/--
An operation fails and leaves other documents behind exactly if a new document is written whose text brings
an identifier that is a NaN number and that the store takes.
-/
theorem failsWritten_serve_iff (options : Options) (editor : Editor) (operation : Operation) (store : Store) :
    FailsWritten store (serve options editor operation store) ↔
      operation = .write .insert ∧ ∃ doc id, revise options editor [] = .ok (.changed doc) ∧
        field? doc idKey = some id ∧ id.isNaN = true ∧ (store.insert doc).1 = .ok id := by
  cases operation with
  | delete id => simp [not_failsWritten_delete]
  | write purpose =>
    cases purpose with
    | edit id => simp [serve, perform, not_failsWritten_edit]
    | duplicate id => simp [serve, perform, not_failsWritten_duplicate]
    | insert => simp [serve, perform, failsWritten_insert_iff]

/-- A new document under a NaN is written, although the operation fails. -/
theorem failsWritten_serve_nan :
    FailsWritten ⟨[], { time := 0, process := [1, 2, 3, 4, 5], counter := 0 }⟩
      (serve {} (fun _ => .ok "\x7b\"_id\":\x7b\"$numberDouble\":\"NaN\"\x7d\x7d".toList) (.write .insert)
        ⟨[], { time := 0, process := [1, 2, 3, 4, 5], counter := 0 }⟩) := by
  have hwf : (Value.document [("_id", .double .nan)]).WellFormed := by
    simp [Value.WellFormed, Value.WellFormedFields, keysOf]
  have hdates : ExtendedJson.DatesFit (.document [("_id", .double .nan)]) := by
    simp [ExtendedJson.DatesFit, ExtendedJson.DatesFitFields]
  have hformat : Document.format false [("_id", .double .nan)] =
      .ok "\x7b\"_id\":\x7b\"$numberDouble\":\"NaN\"\x7d\x7d".toList := by rfl
  have hcompile : Query.compile .utc "\x7b\"_id\":\x7b\"$numberDouble\":\"NaN\"\x7d\x7d" =
      .ok [("_id", .double .nan)] := by
    obtain ⟨hkey, -⟩ | ⟨-, fields, -, hwritten, -, hstands⟩ := Document.format_render_cases hwf hdates false
    · cases hkey
    · rw [hformat, Except.ok.injEq] at hwritten
      have h := Query.compile_write Json.Layout.compact_blank (hstands .utc)
      rw [← Json.compactText, ← hwritten] at h
      exact h
  have hdraft : draftOf {} [] = .ok "\x7b\x7d".toList := by
    have hempty : Document.format false [] = .ok (Json.compactText (.obj [])) := by rfl
    have hreadable : (Json.obj []).Readable := by simp [Json.Readable, Json.ReadableFields, keysOf]
    have hindent := Json.indent_compactText hreadable
    rw [draftOf, Document.render, hempty]
    exact congrArg (orFailure ExtendedJson.Refusal.failure) hindent
  -- the text typed differs from the empty draft and compiles, so it is inserted
  have hrevise : revise {} (fun _ => .ok "\x7b\"_id\":\x7b\"$numberDouble\":\"NaN\"\x7d\x7d".toList) [] =
      .ok (.changed [("_id", .double .nan)]) := by
    rw [revise, hdraft]
    simp only [bind, Except.bind]
    rw [revisionOf, if_neg (by decide), compileEdited, String.ofList_toList, hcompile]
    rfl
  exact (failsWritten_insert_iff _ _ _).2 ⟨_, _, hrevise, rfl, rfl, rfl⟩

end DocBrowser.Editing
