import Mathlib
import DocBrowser.Proofs.Store.Unique
/-!
# The store as an ordered map

A store that is used with explicit identifiers keeps one document for each of them, up to equality: the one
that was written last and not deleted since. What a call answers depends on that document only, and the
others keep their order.
-/

namespace DocBrowser.Store

open Editing (under)

/-! ## Identifiers -/

/-- An identifier that can be compared and reported. -/
structure Usable (id : Value) : Prop where
  wellFormed : id.WellFormed
  nanFree : id.NaNFree
  reported : ∃ text, idText id = .ok text

/-- Whether an identifier is equal to another one. -/
def isEqual (a b : Value) : Bool := holds (a.equal b)

/-- Whether every document has an identifier of its own that can be compared and reported. -/
structure Kept (docs : List Document) : Prop where
  usable : ∀ doc ∈ docs, Identified Usable doc
  distinct : DistinctIds docs

variable {id : Value} {doc old other : Document} {docs front back : List Document}

theorem isUnder_eq_isEqual {own : Value} (hown : field? doc idKey = some own) : isUnder id doc = isEqual own id := by
  rw [isUnder, hasId, hown, isEqual]

/-- Equal identifiers are equal to the same ones. -/
theorem isEqual_congr {a b : Value} (ha : a.WellFormed) (hb : b.WellFormed) (h : a.equal b = .ok true) (c : Value) :
    isEqual a c = isEqual b c := by
  rw [Bool.eq_iff_iff, isEqual, isEqual, holds_iff, holds_iff]
  exact ⟨Value.equal_trans (Value.equal_symm ha hb h), Value.equal_trans h⟩

theorem notFound_eq_report (hid : Usable id) : ∃ report, notFound id = .report report ∧ report.kind = .notFound := by
  obtain ⟨text, htext⟩ := hid.reported
  exact ⟨_, by rw [notFound, htext], rfl⟩

theorem duplicate_eq_report (hid : Usable id) : ∃ report, duplicate id = .report report ∧ report.kind = .store := by
  obtain ⟨text, htext⟩ := hid.reported
  exact ⟨_, by rw [duplicate, htext], rfl⟩

/-! ## The document under an identifier -/

/-- Nothing is found under an identifier exactly where the identifier has no place. -/
theorem find?_eq_none_iff (hid : Usable id) (hdocs : ∀ doc ∈ docs, Identified Usable doc) :
    docs.find? (isUnder id) = none ↔ positionOf? id docs = .ok none := by
  rw [positionOf?_eq_none, List.find?_eq_none]
  refine forall₂_congr fun doc hdoc => ?_
  rw [hasId_eq_ok_isUnder hid.nanFree ((hdocs doc hdoc).mono fun _ => Usable.nanFree)]
  simp

/-- What is found under an identifier is the document at its place. -/
theorem find?_eq_some_iff (hid : Usable id) (hdocs : ∀ doc ∈ docs, Identified Usable doc) :
    docs.find? (isUnder id) = some doc ↔ ∃ front back, SplitAt id docs front doc back := by
  rw [List.find?_eq_some_iff_append]
  constructor
  · rintro ⟨hdoc, front, back, rfl, hfront⟩
    refine ⟨front, back, rfl, holds_iff.1 hdoc, fun other hother => ?_⟩
    rw [hasId_eq_ok_isUnder hid.nanFree ((hdocs other (by simp [hother])).mono fun _ => Usable.nanFree)]
    simpa using hfront other hother
  · rintro ⟨front, back, rfl, hdoc, hfront⟩
    refine ⟨holds_iff.2 hdoc, front, back, rfl, fun other hother => ?_⟩
    simp [isUnder, hfront other hother, holds]

theorem Kept.identified (hdocs : Kept docs) : ∀ doc ∈ docs, Identified Value.WellFormed doc :=
  fun doc hdoc => (hdocs.usable doc hdoc).mono fun _ => Usable.wellFormed

/-- No other document is under the identifier of one that is kept. -/
theorem Kept.isUnder_eq_false (hdocs : Kept (front ++ doc :: back)) (hid : id.WellFormed) (h : isUnder id doc = true) :
    ∀ other ∈ front ++ back, isUnder id other = false :=
  hdocs.distinct.isUnder_eq_false hdocs.identified hid h

/-- What is found under an identifier is either a document that is kept, or else found among the others. -/
theorem Kept.find?_append_cons (hdocs : Kept (front ++ doc :: back)) (hid : id.WellFormed) :
    (front ++ doc :: back).find? (isUnder id) =
      if isUnder id doc then some doc else (front ++ back).find? (isUnder id) := by
  split_ifs with h
  · have hfront : front.find? (isUnder id) = none := by
      rw [List.find?_eq_none]
      intro other hother
      simp [hdocs.isUnder_eq_false hid h other (by simp [hother])]
    rw [List.find?_append, hfront, Option.none_or, List.find?_cons_of_pos h]
  · rw [List.find?_append, List.find?_cons_of_neg h, List.find?_append]

/-! ## One operation -/

/-- How a store answers an operation on an identifier whose latest document is known. -/
inductive Serves (id : Value) : Option Document → List Document → Operation → Except Failure Answer → List Document →
    Prop where
  | insert {docs : List Document} {doc : Document} (hid : field? doc idKey = some id) :
    Serves id none docs (.insert doc) (.ok (.inserted id)) (docs ++ [doc])
  | insertAgain {docs : List Document} {doc old : Document} {report : Report} (hid : field? doc idKey = some id)
    (hkind : report.kind = .store) : Serves id (some old) docs (.insert doc) (.error (.report report)) docs
  | update {front back : List Document} {doc old : Document}
    (hothers : ∀ other ∈ front ++ back, isUnder id other = false) :
    Serves id (some old) (front ++ old :: back) (.update id doc) (.ok .updated) (front ++ under id doc :: back)
  | delete {front back : List Document} {old : Document} (hothers : ∀ other ∈ front ++ back, isUnder id other = false) :
    Serves id (some old) (front ++ old :: back) (.delete id) (.ok .deleted) (front ++ back)
  | get {docs : List Document} {old : Document} : Serves id (some old) docs (.get id) (.ok (.found old)) docs
  | missing {docs : List Document} {operation : Operation} {report : Report}
    (hoperation : operation = .get id ∨ operation = .delete id ∨ ∃ doc, operation = .update id doc)
    (hkind : report.kind = .notFound) : Serves id none docs operation (.error (.report report)) docs

theorem serves_of_find?_eq_none (store : Store) {operation : Operation} (hid : Usable id)
    (hoperation : operation.id? = some id) (hdocs : Kept store.documents)
    (h : store.documents.find? (isUnder id) = none) :
    Serves id none store.documents operation (store.perform operation).1 (store.perform operation).2.documents := by
  have hplace := (find?_eq_none_iff hid hdocs.usable).1 h
  obtain ⟨report, hreport, hkind⟩ := notFound_eq_report hid
  -- update, delete and get all look for the position first, and there is none
  have hposition : store.positionOf id = .error (.report report) := by
    rw [positionOf, hplace, ← hreport]
    rfl
  cases operation with
  | insert doc =>
    obtain ⟨text, htext⟩ := hid.reported
    have hinsert : store.insert doc = (.ok id, store.append doc) := by
      rw [insert, show field? doc idKey = some id from hoperation]
      dsimp only
      rw [hplace, htext]
    rw [perform, hinsert]
    exact .insert hoperation
  | update _ doc =>
    cases hoperation
    rw [perform, update, hposition]
    exact .missing (.inr (.inr ⟨doc, rfl⟩)) hkind
  | delete _ =>
    cases hoperation
    rw [perform, delete, hposition]
    exact .missing (.inr (.inl rfl)) hkind
  | get _ =>
    cases hoperation
    rw [perform, get, hposition]
    exact .missing (.inl rfl) hkind

theorem serves_of_find?_eq_some (store : Store) {operation : Operation} (hid : Usable id)
    (hoperation : operation.id? = some id) (hdocs : Kept store.documents)
    (h : store.documents.find? (isUnder id) = some old) :
    Serves id (some old) store.documents operation (store.perform operation).1
      (store.perform operation).2.documents := by
  obtain ⟨front, back, hsplit⟩ := (find?_eq_some_iff hid hdocs.usable).1 h
  -- ids occur once, so what stands around the document is under other ids
  have hothers : ∀ other ∈ front ++ back, isUnder id other = false :=
    (hsplit.eq_append ▸ hdocs).isUnder_eq_false hid.wellFormed (holds_iff.2 hsplit.found)
  cases operation with
  | insert doc =>
    obtain ⟨report, hreport, hkind⟩ := duplicate_eq_report hid
    have hinsert : store.insert doc = (.error (.report report), store) := by
      rw [insert, show field? doc idKey = some id from hoperation]
      dsimp only
      rw [positionOf?_eq_some.2 ⟨front, old, back, hsplit, rfl⟩, ← hreport]
    rw [perform, hinsert]
    exact .insertAgain hoperation hkind
  | update _ doc =>
    cases hoperation
    rw [perform, update_eq_ok.2 ⟨front, old, back, hsplit, rfl⟩, hsplit.eq_append]
    exact .update hothers
  | delete _ =>
    cases hoperation
    rw [perform, delete_eq_ok.2 ⟨front, old, back, hsplit, rfl⟩, hsplit.eq_append]
    exact .delete hothers
  | get _ =>
    cases hoperation
    rw [perform, get_eq_ok.2 ⟨front, back, hsplit⟩]
    exact .get

theorem kept_perform (store : Store) {operation : Operation} (hid : Usable id) (hoperation : operation.id? = some id)
    (hdocs : Kept store.documents) : Kept (store.perform operation).2.documents where
  usable := by
    refine identified_perform store (fun other hother => ?_) (fun hnone => ?_) hdocs.usable
    · cases hoperation.symm.trans hother
      exact hid
    · simp [hoperation] at hnone
  distinct := by
    refine (distinctIds_perform store (fun other hother => ?_) hdocs.identified hdocs.distinct).2 ?_
    · cases hoperation.symm.trans hother
      exact hid.wellFormed
    · -- no fresh identifier is asked for
      rintro ⟨doc, fresh, rfl, hnone, -⟩
      cases hnone.symm.trans hoperation

/-! ## The latest document -/

/-- What a call that succeeds does to the document under its identifier. -/
inductive Change where
  | put (id : Value) (doc : Document)
  | remove (id : Value)

/-- The change that an operation makes. -/
def Operation.change? : Operation → Option Change
  | .insert doc => (field? doc idKey).map fun id => .put id doc
  | .update id doc => some (.put id (under id doc))
  | .delete id => some (.remove id)
  | .get _ => none

/-- The document under an identifier behind a change. -/
def Change.apply (id : Value) (now : Option Document) : Change → Option Document
  | .put other doc => if isEqual other id then some doc else now
  | .remove other => if isEqual other id then none else now

/-- The document that was put under an identifier, or an equal one, by the last change to it. -/
def latest (id : Value) (changes : List Change) : Option Document := changes.foldl (Change.apply id) none

/-- The change that an operation has made, if it succeeded. -/
def changeOf (operation : Operation) : Except Failure Answer → List Change
  | .ok _ => operation.change?.toList
  | .error _ => []

/-- The changes that calls make one after the other. -/
def changes (store : Store) : List Call → List Change
  | [] => []
  | call :: calls => changeOf call.operation (store.step call).1 ++ (store.step call).2.changes calls

/-- What is found under an identifier behind an operation is what the change of the operation leaves there. -/
theorem find?_perform (store : Store) {operation : Operation} {wanted : Value} (hid : Usable id)
    (hoperation : operation.id? = some id) (hdocs : Kept store.documents) (hwanted : wanted.WellFormed) :
    (store.perform operation).2.documents.find? (isUnder wanted) =
      (changeOf operation (store.perform operation).1).foldl (Change.apply wanted)
        (store.documents.find? (isUnder wanted)) := by
  have hafter := kept_perform store hid hoperation hdocs
  have heffect := store.perform_effect operation
  generalize (store.perform operation).1 = answer at heffect ⊢
  generalize (store.perform operation).2.documents = docs at heffect hafter ⊢
  -- the identifier that is looked up is equal to the stored one where it is equal to that of the operation
  have hold {front back : List Document} {old : Document} (hsplit : SplitAt id store.documents front old back) :
      isUnder wanted old = isEqual id wanted := by
    obtain ⟨own, hown, heq⟩ := hasId_eq_ok_true.1 hsplit.found
    obtain ⟨_, hown', husable⟩ := hdocs.usable old (by simp [hsplit.eq_append])
    cases hown.symm.trans hown'
    rw [isUnder_eq_isEqual hown, isEqual_congr husable.wellFormed hid.wellFormed heq]
  cases heffect with
  | failed | found => rfl
  | generated hnone => cases hnone.symm.trans hoperation
  | @inserted doc id' hown =>
    cases hown.symm.trans hoperation
    rw [hafter.find?_append_cons hwanted, isUnder_eq_isEqual hown, List.append_nil]
    simp [changeOf, Operation.change?, hown, Change.apply]
  | @updated id doc old front back hsplit =>
    cases hoperation
    have hbefore := (hsplit.eq_append ▸ hdocs).find?_append_cons hwanted
    rw [hafter.find?_append_cons hwanted, isUnder_eq_isEqual (field?_under id doc), hsplit.eq_append, hbefore,
      hold hsplit]
    simp only [changeOf, Operation.change?, Option.toList_some, List.foldl_cons, List.foldl_nil, Change.apply]
    split_ifs <;> rfl
  | @deleted id old front back hsplit =>
    cases hoperation
    have hkept : Kept (front ++ old :: back) := hsplit.eq_append ▸ hdocs
    rw [hsplit.eq_append, hkept.find?_append_cons hwanted, hold hsplit]
    simp only [changeOf, Operation.change?, Option.toList_some, List.foldl_cons, List.foldl_nil, Change.apply]
    split_ifs with h
    · rw [List.find?_eq_none]
      intro doc hdoc
      simp [hkept.isUnder_eq_false hwanted ((hold hsplit).trans h) doc hdoc]
    · rfl

/-! ## All calls -/

/-- Behind calls, each identifier has the document that the last change to it has put there. -/
theorem find?_run (store : Store) {calls : List Call} (hdocs : Kept store.documents)
    (hcalls : ∀ call ∈ calls, ∃ id, call.operation.id? = some id ∧ Usable id) :
    Kept (store.run calls).documents ∧ ∀ id : Value, id.WellFormed →
      (store.run calls).documents.find? (isUnder id) =
        (store.changes calls).foldl (Change.apply id) (store.documents.find? (isUnder id)) := by
  -- one call from a kept store, then the others from the store behind it
  induction calls generalizing store with
  | nil => exact ⟨hdocs, fun id hid => rfl⟩
  | cons call calls ih =>
    obtain ⟨⟨id, hoperation, hid⟩, hcalls⟩ := List.forall_mem_cons.1 hcalls
    have hstep {wanted : Value} (hwanted : wanted.WellFormed) :=
      find?_perform (store.atTime call.time) hid hoperation hdocs hwanted
    obtain ⟨hkept, hfind⟩ := ih (store.step call).2
      (kept_perform (store.atTime call.time) hid hoperation hdocs) hcalls
    refine ⟨hkept, fun other hother => ?_⟩
    rw [changes, List.foldl_append]
    exact (hfind other hother).trans (by rw [step, hstep hother]; rfl)

/--
Behind calls to an empty store that all bring usable identifiers, what is found under an identifier is the
document of the last change to it, and the next call is answered from that document alone.
-/
theorem find?_run_eq_latest_and_serves (ids : IdSource) (calls : List Call) (call : Call)
    (hcalls : ∀ made ∈ calls ++ [call], ∃ id, made.operation.id? = some id ∧ Usable id) :
    (∀ id, Usable id →
      ((empty ids).run calls).documents.find? (isUnder id) = latest id ((empty ids).changes calls)) ∧
    ∃ id, call.operation.id? = some id ∧
      Serves id (latest id ((empty ids).changes calls)) ((empty ids).run calls).documents call.operation
        (((empty ids).run calls).step call).1 (((empty ids).run calls).step call).2.documents := by
  obtain ⟨hcalls, hcall⟩ := List.forall_mem_append.1 hcalls
  obtain ⟨id, hoperation, hid⟩ := hcall call List.mem_cons_self
  obtain ⟨hkept, hfind⟩ := find?_run (empty ids) ⟨by simp, .nil⟩ hcalls
  refine ⟨fun id hid => hfind id hid.wellFormed, id, hoperation, ?_⟩
  rw [latest, show none = (empty ids).documents.find? (isUnder id) from rfl, ← hfind id hid.wellFormed]
  cases h : ((empty ids).run calls).documents.find? (isUnder id) with
  | none => exact serves_of_find?_eq_none (((empty ids).run calls).atTime call.time) hid hoperation hkept h
  | some old => exact serves_of_find?_eq_some (((empty ids).run calls).atTime call.time) hid hoperation hkept h

/-- A document that is updated under its identifier with the keys in another order is found under either. -/
theorem serves_get_updated_in_other_key_order :
    Serves (.document [("x", .null), ("y", .bool true)])
      (some [("_id", .document [("y", .bool true), ("x", .null)]), ("b", .null)])
      [[("_id", .document [("y", .bool true), ("x", .null)]), ("b", .null)]]
      (.get (.document [("x", .null), ("y", .bool true)]))
      (.ok (.found [("_id", .document [("y", .bool true), ("x", .null)]), ("b", .null)]))
      [[("_id", .document [("y", .bool true), ("x", .null)]), ("b", .null)]] := by
  -- the two ids differ in the order of their keys and are one id to the store
  have hfirst : Usable (.document [("x", .null), ("y", .bool true)]) :=
    ⟨⟨by simp [keysOf], trivial, trivial, trivial⟩, ⟨trivial, trivial, trivial⟩, _, rfl⟩
  have hsecond : Usable (.document [("y", .bool true), ("x", .null)]) :=
    ⟨⟨by simp [keysOf], trivial, trivial, trivial⟩, ⟨trivial, trivial, trivial⟩, _, rfl⟩
  obtain ⟨-, id, hid, hserves⟩ := find?_run_eq_latest_and_serves { time := 0, process := [1, 2, 3, 4, 5], counter := 0 }
    [⟨0, .insert [("a", .null), ("_id", .document [("x", .null), ("y", .bool true)])]⟩,
      ⟨0, .update (.document [("y", .bool true), ("x", .null)]) [("b", .null)]⟩]
    ⟨0, .get (.document [("x", .null), ("y", .bool true)])⟩ (by
      simp only [List.cons_append, List.nil_append, List.forall_mem_cons]
      exact ⟨⟨_, rfl, hfirst⟩, ⟨_, rfl, hsecond⟩, ⟨_, rfl, hfirst⟩, by simp⟩)
  cases hid
  exact hserves

end DocBrowser.Store
