import Mathlib
import DocBrowser.Proofs.Store.Calls
/-!
# Unique identifiers

Every stored document has an identifier. An explicit identifier is looked up before it is stored, and an
update puts an identifier in the place of an equal one, so identifiers stay distinct through both. A fresh
identifier is stored unseen: identifiers stay distinct exactly as long as none is generated that a document
already has.
-/

namespace DocBrowser.Store

open Editing (under)

/-! ## Distinct identifiers -/

/-- Whether the identifiers of two documents are equal. -/
def SameId (a b : Document) : Prop :=
  ∃ x y, field? a idKey = some x ∧ field? b idKey = some y ∧ x.equal y = .ok true

/-- No two documents have equal identifiers, in whichever order they are compared. -/
def DistinctIds (docs : List Document) : Prop := docs.Pairwise fun a b => ¬ SameId a b ∧ ¬ SameId b a

/-- Whether a document has an identifier with a property. -/
def Identified (property : Value → Prop) (doc : Document) : Prop :=
  ∃ id, field? doc idKey = some id ∧ property id

theorem Identified.mono {property weaker : Value → Prop} {doc : Document} (h : Identified property doc)
    (hweaker : ∀ id, property id → weaker id) : Identified weaker doc := by
  obtain ⟨id, hid, hproperty⟩ := h
  exact ⟨id, hid, hweaker id hproperty⟩

theorem field?_idKey_cons (id : Value) (doc : Document) : field? ((idKey, id) :: doc) idKey = some id := if_pos rfl

theorem field?_under (id : Value) (doc : Document) : field? (under id doc) idKey = some id := field?_idKey_cons id _

theorem sameId_of_hasId {id : Value} {doc other : Document} (hid : field? doc idKey = some id) :
    SameId other doc ↔ hasId id other = .ok true := by
  rw [hasId_eq_ok_true]
  simp [SameId, hid]

theorem SameId.symm {a b : Document} (ha : Identified Value.WellFormed a) (hb : Identified Value.WellFormed b)
    (h : SameId a b) : SameId b a := by
  obtain ⟨x, y, hx, hy, hxy⟩ := h
  obtain ⟨id, hid, hwf⟩ := ha
  obtain ⟨id', hid', hwf'⟩ := hb
  cases hx.symm.trans hid
  cases hy.symm.trans hid'
  exact ⟨y, x, hy, hx, Value.equal_symm hwf hwf' hxy⟩

theorem SameId.trans {a b c : Document} (h : SameId a b) (h' : SameId b c) : SameId a c := by
  obtain ⟨x, y, hx, hy, hxy⟩ := h
  obtain ⟨y', z, hy', hz, hyz⟩ := h'
  cases hy.symm.trans hy'
  exact ⟨x, z, hx, hz, Value.equal_trans hxy hyz⟩

theorem identified_under {property : Value → Prop} {id : Value} (h : property id) (doc : Document) :
    Identified property (under id doc) :=
  ⟨id, field?_under id doc, h⟩

/-- A document at the end is alone with its identifier exactly where none in front of it has an equal one. -/
theorem distinctIds_concat {docs : List Document} {doc : Document}
    (hdocs : ∀ other ∈ docs, Identified Value.WellFormed other) (hdoc : Identified Value.WellFormed doc) :
    DistinctIds (docs ++ [doc]) ↔ DistinctIds docs ∧ ∀ other ∈ docs, ¬ SameId other doc := by
  rw [DistinctIds, List.pairwise_append]
  simp only [List.pairwise_singleton, List.mem_singleton, forall_eq, true_and]
  refine and_congr_right fun _ => forall₂_congr fun other hother => ?_
  exact ⟨And.left, fun h => ⟨h, fun h' => h (h'.symm hdoc (hdocs other hother))⟩⟩

/-- A document may stand in the place of another one that has an equal identifier. -/
theorem DistinctIds.replace {front back : List Document} {old new : Document} (h : DistinctIds (front ++ old :: back))
    (hsame : SameId old new) (hold : Identified Value.WellFormed old) (hnew : Identified Value.WellFormed new) :
    DistinctIds (front ++ new :: back) := by
  have hleft {other : Document} (h : ¬ SameId old other ∧ ¬ SameId other old) :
      ¬ SameId new other ∧ ¬ SameId other new :=
    ⟨fun h' => h.1 (hsame.trans h'), fun h' => h.2 (h'.trans (hsame.symm hold hnew))⟩
  rw [DistinctIds, List.pairwise_append, List.pairwise_cons] at h ⊢
  obtain ⟨hfront, ⟨hbehind, hback⟩, hacross⟩ := h
  refine ⟨hfront, ⟨fun other hother => hleft (hbehind other hother), hback⟩, fun a ha b hb => ?_⟩
  rcases List.mem_cons.1 hb with rfl | hb
  · exact (hleft (hacross a ha old (by simp)).symm).symm
  · exact hacross a ha b (List.mem_cons_of_mem _ hb)

theorem DistinctIds.remove {front back : List Document} {old : Document} (h : DistinctIds (front ++ old :: back)) :
    DistinctIds (front ++ back) :=
  List.Pairwise.sublist ((List.Sublist.refl front).append (List.sublist_cons_self old back)) h

/-- Without a NaN every comparison of identifiers has an answer. -/
theorem hasId_eq_ok_isUnder {id : Value} {doc : Document} (hid : id.NaNFree) (hdoc : Identified Value.NaNFree doc) :
    hasId id doc = .ok (isUnder id doc) := by
  obtain ⟨own, hown, hnan⟩ := hdoc
  obtain ⟨answer, hanswer⟩ := Value.equal_isOk hnan hid
  simp [isUnder, hasId, hown, hanswer, holds]

theorem SameId.of_isUnder {id : Value} {doc other : Document} (hid : id.WellFormed)
    (hother : Identified Value.WellFormed other) (h : isUnder id doc = true) (h' : isUnder id other = true) :
    SameId doc other := by
  obtain ⟨own, hown, heq⟩ := hasId_eq_ok_true.1 (holds_iff.1 h)
  obtain ⟨own', hown', heq'⟩ := hasId_eq_ok_true.1 (holds_iff.1 h')
  obtain ⟨_, hown'', hwf⟩ := hother
  cases hown'.symm.trans hown''
  exact ⟨own, own', hown, hown', Value.equal_trans heq (Value.equal_symm hwf hid heq')⟩

/-- Where identifiers are distinct, a document is alone under an identifier. -/
theorem DistinctIds.isUnder_eq_false {id : Value} {front back : List Document} {doc : Document}
    (h : DistinctIds (front ++ doc :: back))
    (hdocs : ∀ other ∈ front ++ doc :: back, Identified Value.WellFormed other) (hid : id.WellFormed)
    (hunder : isUnder id doc = true) : ∀ other ∈ front ++ back, isUnder id other = false := by
  obtain ⟨-, hbehind, hacross⟩ := List.pairwise_append.1 h
  have hother {other : Document} (hmem : other ∈ front ++ doc :: back) (hdistinct : ¬ SameId doc other) :
      isUnder id other = false := by
    by_contra hsame
    exact hdistinct (.of_isUnder hid (hdocs other hmem) hunder (Bool.eq_true_of_not_eq_false hsame))
  intro other hmem
  rcases List.mem_append.1 hmem with hmem | hmem
  · exact hother (by simp [hmem]) (hacross other hmem doc (by simp)).2
  · exact hother (by simp [hmem]) ((List.pairwise_cons.1 hbehind).1 other hmem).1

/-! ## One call -/

/-- Whether an operation hands out a fresh identifier that a document already has. -/
def Repeats (store : Store) (operation : Operation) : Prop :=
  ∃ doc id, operation = .insert doc ∧ field? doc idKey = none ∧ store.ids.next.1 = .ok id ∧
    ∃ other ∈ store.documents, field? other idKey = some (.objectId id)

theorem hasId_objectId {id : ObjectId} {doc : Document} :
    hasId (.objectId id) doc = .ok true ↔ field? doc idKey = some (.objectId id) := by
  rw [hasId_eq_ok_true]
  constructor
  · rintro ⟨own, hown, h⟩
    rcases Value.equal_eq_ok_true.1 h with ⟨magnitude, -, hmagnitude⟩ | ⟨-, -, hsame⟩
    · cases hmagnitude
    · cases Value.same_eq_ok_true.1 hsame
      exact hown
  · intro hown
    exact ⟨.objectId id, hown, Value.equal_refl trivial trivial⟩

theorem hasId_objectId_eq_ok_false {id : ObjectId} {doc : Document} :
    hasId (.objectId id) doc = .ok false ↔ field? doc idKey ≠ some (.objectId id) := by
  rw [Ne, ← hasId_objectId]
  obtain ⟨answer, hanswer⟩ := hasId_objectId_isOk id doc
  cases answer <;> simp [hanswer]

/-- A property of the identifiers that operations bring is one of all stored identifiers. -/
theorem identified_perform {property : Value → Prop} (store : Store) {operation : Operation}
    (hid : ∀ id ∈ operation.id?, property id)
    (hfresh : operation.id? = none → ∀ id : ObjectId, property (.objectId id))
    (hdocs : ∀ doc ∈ store.documents, Identified property doc) :
    ∀ doc ∈ (store.perform operation).2.documents, Identified property doc := by
  -- only what became of the documents matters, not what was answered
  have heffect := store.perform_effect operation
  generalize (store.perform operation).1 = answer at heffect
  generalize (store.perform operation).2.documents = docs at heffect ⊢
  cases heffect with
  | failed | found => exact hdocs
  | @generated doc id hnone =>
    rw [List.forall_mem_append, List.forall_mem_singleton]
    exact ⟨hdocs, _, field?_idKey_cons _ doc, hfresh hnone id⟩
  | inserted hown =>
    rw [List.forall_mem_append, List.forall_mem_singleton]
    exact ⟨hdocs, _, hown, hid _ hown⟩
  | @updated id doc old front back hsplit =>
    rw [hsplit.eq_append, List.forall_mem_append, List.forall_mem_cons] at hdocs
    rw [List.forall_mem_append, List.forall_mem_cons]
    exact ⟨hdocs.1, identified_under (hid id rfl) doc, hdocs.2.2⟩
  | deleted hsplit =>
    rw [hsplit.eq_append, List.forall_mem_append, List.forall_mem_cons] at hdocs
    exact List.forall_mem_append.2 ⟨hdocs.1, hdocs.2.2⟩

theorem insert_documents_of_next {store : Store} {doc : Document} {id : ObjectId} (hid : field? doc idKey = none)
    (hnext : store.ids.next.1 = .ok id) :
    (store.insert doc).2.documents = store.documents ++ [(idKey, .objectId id) :: doc] := by
  rw [insert, hid]
  dsimp only
  rw [hnext]
  rfl

/-- Only a fresh identifier that is not new ends the distinctness of identifiers. -/
theorem distinctIds_perform (store : Store) {operation : Operation} (hid : ∀ id ∈ operation.id?, id.WellFormed)
    (hdocs : ∀ doc ∈ store.documents, Identified Value.WellFormed doc) (hdistinct : DistinctIds store.documents) :
    DistinctIds (store.perform operation).2.documents ↔ ¬ Repeats store operation := by
  have hfresh (doc : Document) (id : ObjectId) : Identified Value.WellFormed ((idKey, .objectId id) :: doc) :=
    ⟨_, field?_idKey_cons _ doc, trivial⟩
  constructor
  · rintro h ⟨doc, id, rfl, hnone, hnext, other, hother, hown⟩
    rw [perform, insert_documents_of_next hnone hnext, distinctIds_concat hdocs (hfresh doc id)] at h
    exact h.2 other hother ((sameId_of_hasId (field?_idKey_cons _ doc)).2 (hasId_objectId.2 hown))
  · intro hnew
    have heffect := store.perform_effect operation
    generalize (store.perform operation).1 = answer at heffect
    generalize (store.perform operation).2.documents = docs at heffect ⊢
    cases heffect with
    | failed | found => exact hdistinct
    -- an id made here is new exactly if no document has it already
    | @generated doc id hnone hnext =>
      refine (distinctIds_concat hdocs (hfresh doc id)).2 ⟨hdistinct, fun other hother hsame => ?_⟩
      have hown := hasId_objectId.1 ((sameId_of_hasId (field?_idKey_cons _ doc)).1 hsame)
      exact hnew ⟨doc, id, rfl, hnone, hnext, other, hother, hown⟩
    -- an id of the document's own was looked for and not found
    | inserted hown hfree =>
      refine (distinctIds_concat hdocs ⟨_, hown, hid _ hown⟩).2 ⟨hdistinct, fun other hother hsame => ?_⟩
      rw [sameId_of_hasId hown, hfree other hother] at hsame
      cases hsame
    | @updated id doc old front back hsplit =>
      rw [hsplit.eq_append] at hdistinct hdocs
      exact hdistinct.replace ((sameId_of_hasId (field?_under id doc)).2 hsplit.found) (hdocs old (by simp))
        (identified_under (hid id rfl) doc)
    | deleted hsplit => exact (hsplit.eq_append ▸ hdistinct).remove

/-! ## All calls -/

/-- Whether a call hands out a fresh identifier that a document already has. -/
def RepeatsAt (store : Store) (call : Call) : Prop := Repeats (store.atTime call.time) call.operation

theorem distinctIds_step {store : Store} {call : Call} (hid : ∀ id ∈ call.operation.id?, id.WellFormed)
    (hdocs : ∀ doc ∈ store.documents, Identified Value.WellFormed doc) (hdistinct : DistinctIds store.documents) :
    DistinctIds (store.step call).2.documents ↔ ¬ RepeatsAt store call :=
  distinctIds_perform (store.atTime call.time) hid hdocs hdistinct

theorem identified_run {ids : IdSource} {calls : List Call}
    (hid : ∀ call ∈ calls, ∀ id ∈ call.operation.id?, id.WellFormed) :
    ∀ doc ∈ ((empty ids).run calls).documents, Identified Value.WellFormed doc := by
  induction calls using List.reverseRecOn with
  | nil => simp
  | append_singleton calls call ih =>
    rw [run_concat]
    exact identified_perform (((empty ids).run calls).atTime call.time) (hid call (by simp))
      (fun _ _ => trivial) (ih fun call hcall => hid call (by simp [hcall]))

theorem distinctIds_run {ids : IdSource} {calls : List Call}
    (hid : ∀ call ∈ calls, ∀ id ∈ call.operation.id?, id.WellFormed)
    (hnew : ∀ before call, before ++ [call] <+: calls → ¬ RepeatsAt ((empty ids).run before) call) :
    DistinctIds ((empty ids).run calls).documents := by
  induction calls using List.reverseRecOn with
  | nil => exact .nil
  | append_singleton calls call ih =>
    have hid' : ∀ call ∈ calls, ∀ id ∈ call.operation.id?, id.WellFormed := fun call hcall => hid call (by simp [hcall])
    have hdistinct := ih hid' fun before call hlead => hnew before call (hlead.trans (List.prefix_append _ _))
    rw [run_concat]
    exact (distinctIds_step (hid call (by simp)) (identified_run hid') hdistinct).2 (hnew calls call List.prefix_rfl)

/--
Behind calls to an empty store every document has an identifier, at every point of the run. The identifiers
are distinct throughout exactly if no call hands out a fresh one that is already stored.
-/
theorem identified_run_and_distinctIds_iff (ids : IdSource) (calls : List Call)
    (hid : ∀ call ∈ calls, ∀ id ∈ call.operation.id?, id.WellFormed) :
    (∀ before, before <+: calls → ∀ doc ∈ ((empty ids).run before).documents, (field? doc idKey).isSome = true) ∧
    ((∀ before, before <+: calls → DistinctIds ((empty ids).run before).documents) ↔
      ∀ before call, before ++ [call] <+: calls → ¬ RepeatsAt ((empty ids).run before) call) := by
  have hbefore {before : List Call} (hlead : before <+: calls) :
      ∀ call ∈ before, ∀ id ∈ call.operation.id?, id.WellFormed := fun call hcall => hid call (hlead.subset hcall)
  refine ⟨fun before hlead doc hdoc => ?_, fun hdistinct before call hlead => ?_, fun hnew before hlead => ?_⟩
  · obtain ⟨id, hown, -⟩ := identified_run (hbefore hlead) doc hdoc
    simp [hown]
  · have hlead' : before <+: calls := (List.prefix_append before [call]).trans hlead
    have hafter := hdistinct _ hlead
    -- the last call of the prefix, from the store that those before it leave
    rw [run_concat] at hafter
    exact (distinctIds_step (hbefore hlead call (by simp)) (identified_run (hbefore hlead'))
      (hdistinct before hlead')).1 hafter
  · exact distinctIds_run (hbefore hlead) fun before' call hlead' => hnew before' call (hlead'.trans hlead)

/-- A number and a fresh identifier behind it are distinct. -/
theorem distinctIds_run_number_and_fresh :
    DistinctIds ((empty { time := 0, process := [1, 2, 3, 4, 5], counter := 0 }).run
      [⟨1700000000, .insert [("_id", .int32 ⟨5, by decide, by decide⟩)]⟩, ⟨1700000000, .insert []⟩]).documents := by
  refine (identified_run_and_distinctIds_iff _ _ ?_).2.2 ?_ _ List.prefix_rfl
  · simp [Operation.id?, field?, idKey, Value.WellFormed]
  · rintro before call hlead ⟨doc, id, hinsert, hnone, -, other, hother, hown⟩
    cases before with
    | nil => simp at hother
    | cons first rest =>
      -- the second call finds a number only
      obtain ⟨rfl, hrest⟩ := List.cons_prefix_cons.1 hlead
      cases rest with
      | nil =>
        cases List.mem_singleton.1 hother
        simp [field?, idKey] at hown
      | cons => simpa using hrest.length_le

/-- An explicit identifier that is the next fresh one is stored a second time. -/
theorem not_distinctIds_run_explicit_and_fresh :
    ¬ DistinctIds ((empty { time := 0, process := [1, 2, 3, 4, 5], counter := 0 }).run
      [⟨1700000000, .insert [("_id", .objectId ⟨[0x65, 0x53, 0xF1, 0, 1, 2, 3, 4, 5, 0, 0, 0], rfl⟩)]⟩,
        ⟨1700000000, .insert []⟩]).documents := by
  intro h
  have hfirst := (List.pairwise_cons.1 h).1 _ List.mem_cons_self
  exact hfirst.1 ⟨_, _, rfl, rfl, Value.equal_refl trivial trivial⟩

end DocBrowser.Store
