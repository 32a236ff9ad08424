import Mathlib
import DocBrowser.Proofs.Editing.Among
import DocBrowser.Proofs.Store.Selected
import DocBrowser.Proofs.Viewer.Steps
/-!
# The stored document behind the shown one

The viewer finds the document to work on under the identifier that is shown. Where nothing else is found under
it, an action does what it would do if no other document were stored. A projection that leads below the
identifier may leave the identifier of another document.
-/

namespace DocBrowser

open ExtendedJson (Writable)

namespace Session

open Store (SplitAt DistinctIds GeneratesNew)

/-! ## One document among others -/

/-- The session where only one document is stored. -/
def only (session : Session) (source : Document) : Session :=
  { session with store := ⟨[source], session.store.ids⟩ }

/-- The session with documents around the first one that is stored. -/
def among (front back : List Document) (session : Session) : Session :=
  { session with store := session.store.among front back }

/-- Whether an action is one on the shown document. -/
inductive OnShown : Action → Prop
  | write {what : Writing} (h : what ≠ .insert) (editor : Editor) : OnShown (.write what editor)
  | delete (confirmed : Bool) : OnShown (.delete confirmed)

/-- Whether an action does what it does where only one document is stored, and leaves the ones around it alone. -/
def ActsOnly (session : Session) (front : List Document) (source : Document) (back : List Document)
    (action : Action) : Prop :=
  session.step action =
    (((session.only source).step action).1.among front back, ((session.only source).step action).2)

/-- Whether an action fails and leaves the store as it is. -/
def Refuses (session : Session) (action : Action) : Prop :=
  (session.step action).2.Fails ∧ (session.step action).1.store = session.store

theorem among_only {session : Session} {front back : List Document} {source : Document}
    (h : session.store.documents = front ++ source :: back) : (session.only source).among front back = session := by
  obtain ⟨viewer, ⟨docs, ids⟩, editing⟩ := session
  obtain rfl : docs = front ++ source :: back := h
  rw [among, only, Store.among_singleton]

theorem shown_among (session : Session) (front back : List Document) (result : Viewer × Option Failure)
    (words : Option String) (log : List Log.Entry) :
    (session.among front back).shown result words log =
      ((session.shown result words log).1.among front back, (session.shown result words log).2) := by
  rcases result with ⟨viewer, _ | failure⟩ <;> cases words <;> rfl

/-- A question that is not confirmed has no effect. -/
theorem actsOnly_cancel {session : Session} {id : Value} (hid : session.currentId = .ok id)
    {front back : List Document} {source : Document} (hstored : session.store.documents = front ++ source :: back) :
    session.ActsOnly front source back (.delete false) := by
  have hid' : (session.only source).currentId = .ok id := hid
  rw [ActsOnly, step, step, delete, delete, hid, hid']
  exact congrArg (·, _) (among_only hstored).symm

section

variable {session : Session} {id : Value} {front back : List Document} {source : Document}
  (hid : session.currentId = .ok id) (hsplit : SplitAt id session.store.documents front source back)

include hid hsplit

omit hid in
theorem deleteShown_among :
    session.deleteShown id =
      (((session.only source).deleteShown id).1.among front back, ((session.only source).deleteShown id).2) := by
  obtain ⟨viewer, ⟨docs, ids⟩, editing⟩ := session
  obtain rfl : docs = front ++ source :: back := hsplit.eq_append
  have hdelete : Store.delete ⟨front ++ source :: back, ids⟩ id = .ok ⟨front ++ back, ids⟩ :=
    Store.delete_of_splitAt ids hsplit
  have hdelete' : Store.delete ⟨[source], ids⟩ id = .ok ⟨[], ids⟩ := Store.delete_of_splitAt ids hsplit.only
  have hstore : (⟨front ++ back, ids⟩ : Store) = Store.among front back ⟨[], ids⟩ := by simp [Store.among]
  rw [deleteShown, deleteShown, only]
  simp only [hdelete, hdelete', Log.ofDeleting_among hsplit, hstore]
  exact shown_among ⟨viewer, ⟨[], ids⟩, editing⟩ front back _ _ _

theorem actsOnly_delete : session.ActsOnly front source back (.delete true) := by
  have hid' : (session.only source).currentId = .ok id := hid
  rw [ActsOnly, step, step, delete, delete, hid, hid']
  simp only [if_true, deleteShown_among hsplit]

theorem actsOnly_write (hnew : GeneratesNew session.store) {what : Writing} (hwhat : what ≠ .insert)
    (editor : Editor) : session.ActsOnly front source back (.write what editor) := by
  obtain ⟨viewer, ⟨docs, ids⟩, editing⟩ := session
  obtain rfl : docs = front ++ source :: back := hsplit.eq_append
  rw [ActsOnly, step, step, write, write]
  have hsame : (only ⟨viewer, ⟨front ++ source :: back, ids⟩, editing⟩ source).purposeFor what =
    (Session.mk viewer ⟨front ++ source :: back, ids⟩ editing).purposeFor what := rfl
  rw [hsame]
  cases hpurpose : (Session.mk viewer ⟨front ++ source :: back, ids⟩ editing).purposeFor what with
  | error outcome => exact congrArg (·, _) (among_only hsplit.eq_append).symm
  | ok found =>
    obtain ⟨options, purpose⟩ := found
    -- the log and the editing look the document up by its id, and both find it alone as among the others
    have hpair : Log.ofPurpose options editor purpose ⟨front ++ source :: back, ids⟩ =
          Log.ofPurpose options editor purpose ⟨[source], ids⟩ ∧
        Editing.perform options editor purpose ⟨front ++ source :: back, ids⟩ =
          ((Editing.perform options editor purpose ⟨[source], ids⟩).1,
            (Editing.perform options editor purpose ⟨[source], ids⟩).2.among front back) := by
      obtain ⟨-, ⟨hinsert, -⟩ | ⟨own, hown, ⟨-, rfl⟩ | ⟨-, rfl⟩⟩⟩ := purposeFor_eq_ok hpurpose
      · exact absurd hinsert hwhat
      · cases hid.symm.trans hown
        exact ⟨Log.ofEditing_among hsplit options editor, Editing.edit_among hsplit options editor⟩
      · cases hid.symm.trans hown
        exact ⟨Log.ofDuplicating_among hsplit options editor, Editing.duplicate_among hsplit hnew options editor⟩
    dsimp only [only]
    rw [hpair.1, hpair.2]
    rcases Editing.perform options editor purpose ⟨[source], ids⟩ with ⟨failure | _ | doc, after⟩
    · rfl
    · rfl
    · exact shown_among ⟨viewer, after, editing⟩ front back _ _ _

end

/-! ## Nothing found -/

theorem fails_failing (what : String) (failure : Failure) (asked : Option (List Char)) (log : List Log.Entry) :
    Outcome.Fails { failing what failure with asked, log } := by
  cases failure with
  | report report =>
    refine .inr ⟨_, List.mem_singleton_self _, ?_⟩
    simp [Notice.showing]
  | _ => exact .inl rfl

section

variable {session : Session} {id : Value}

theorem purposeFor_isOk (hid : session.currentId = .ok id) {what : Writing} (hwhat : what ≠ .insert) :
    ∃ options, session.purposeFor what = .ok (options, .edit id) ∨
      session.purposeFor what = .ok (options, .duplicate id) := by
  obtain ⟨options, hediting⟩ : ∃ options, session.editing = some options := by
    unfold currentId at hid
    split at hid
    · exact ⟨_, ‹_›⟩
    · cases hid
  refine ⟨options, ?_⟩
  unfold purposeFor
  rw [hediting]
  cases what with
  | edit => exact .inl (bind_eq_ok.2 ⟨id, hid, rfl⟩)
  | insert => exact absurd rfl hwhat
  | duplicate => exact .inr (bind_eq_ok.2 ⟨id, hid, rfl⟩)

theorem step_delete_of_error (hid : session.currentId = .ok id) {failure : Failure}
    (hdelete : session.store.delete id = .error failure) :
    (session.step (.delete true)).2.Fails ∧ (session.step (.delete true)).1 = session := by
  rw [step, delete, hid]
  simp only [if_true, deleteShown, hdelete]
  exact ⟨fails_failing _ _ _ _, trivial⟩

theorem store_step_delete (hid : session.currentId = .ok id) {after : Store}
    (hdelete : session.store.delete id = .ok after) : (session.step (.delete true)).1.store = after := by
  rw [step, delete, hid]
  simp only [if_true, deleteShown, hdelete, shown]
  split <;> rfl

variable {failure : Failure} (hid : session.currentId = .ok id) (hmissing : session.store.positionOf id = .error failure)

include hid hmissing

theorem refuses_write {what : Writing} (hwhat : what ≠ .insert) (editor : Editor) :
    session.Refuses (.write what editor) := by
  have hget : session.store.get id = .error failure := by
    rw [Store.get, hmissing]
    rfl
  -- both ways of writing start from the stored document, and it is not found
  have hedit (options : Editing.Options) :
      Editing.perform options editor (.edit id) session.store = (.error failure, session.store) := by
    rw [Editing.perform, Editing.edit, hget]
    rfl
  have hduplicate (options : Editing.Options) :
      Editing.perform options editor (.duplicate id) session.store = (.error failure, session.store) := by
    rw [Editing.perform, Editing.duplicate, Editing.editedCopy, Editing.Purpose.draft, Editing.Purpose.source, hget]
    rfl
  obtain ⟨options, hpurpose | hpurpose⟩ := purposeFor_isOk hid hwhat
  · rw [Refuses, step, write, hpurpose]
    simp only [hedit]
    exact ⟨fails_failing _ _ _ _, trivial⟩
  · rw [Refuses, step, write, hpurpose]
    simp only [hduplicate]
    exact ⟨fails_failing _ _ _ _, trivial⟩

theorem refuses_delete : session.Refuses (.delete true) := by
  have hdelete : session.store.delete id = .error failure := by
    rw [Store.delete, hmissing]
    rfl
  obtain ⟨hfails, hsame⟩ := step_delete_of_error hid hdelete
  exact ⟨hfails, congrArg Session.store hsame⟩

end

/-! ## The document that the shown one was projected from -/

/-- A stored document from which the shown one was projected, between the other stored documents. -/
structure ShownFrom (session : Session) (query : Query.Options) (front : List Document) (source : Document)
    (back : List Document) : Prop where
  stored : session.store.documents = front ++ source :: back
  selected : ∃ docs, session.store.selected query = .ok docs ∧ docs[session.viewer.index]? = some source
  projected : ∃ doc, session.viewer.documents[session.viewer.index]? = some doc ∧
    projectDocument source query.projection = .ok doc

section

variable {session : Session} {query : Query.Options} {id : Value} {front back : List Document} {source : Document}

theorem exists_shownFrom {total : ℕ} (hlisted : session.store.list query = .ok (session.viewer.documents, total))
    (hid : session.currentId = .ok id) : ∃ front source back, session.ShownFrom query front source back := by
  obtain ⟨docs, hdocs, hlefts⟩ := Store.selected_of_list hlisted
  obtain ⟨doc, hdoc, -⟩ := currentId_eq_ok hid
  obtain ⟨hindex, hget⟩ := List.getElem?_eq_some_iff.1 hdoc
  have hlength : session.viewer.index < docs.length := hlefts.length_eq ▸ hindex
  have hprojected := hlefts.get hlength hindex
  obtain ⟨front, back, hstored⟩ := List.append_of_mem (Store.mem_of_selected hdocs _ (List.getElem_mem hlength))
  exact ⟨front, _, back, hstored, ⟨docs, hdocs, List.getElem?_eq_getElem hlength⟩, doc, hdoc, hget ▸ hprojected⟩

/-- Where no path leads below the identifier, the identifier that is shown is the stored one. -/
theorem ShownFrom.field?_eq (h : session.ShownFrom query front source back)
    (hwf : (Value.document source).WellFormed) (hpaths : ¬ Projection.LeadsBelowId query.projection)
    (hid : session.currentId = .ok id) : field? source Store.idKey = some id := by
  obtain ⟨doc, hdoc, hprojected⟩ := h.projected
  obtain ⟨doc', hdoc', hfield⟩ := currentId_eq_ok hid
  cases hdoc.symm.trans hdoc'
  exact field?_idKey_of_projectDocument hwf.1 hpaths hprojected hfield

theorem ShownFrom.wellFormed_id (h : session.ShownFrom query front source back)
    (hwf : (Value.document source).WellFormed) (hid : session.currentId = .ok id) : id.WellFormed := by
  obtain ⟨doc, hdoc, hprojected⟩ := h.projected
  obtain ⟨doc', hdoc', hfield⟩ := currentId_eq_ok hid
  cases hdoc.symm.trans hdoc'
  exact (wellFormed_projectDocument hwf hprojected).part (Value.mem_parts_document (mem_of_field?_eq_some hfield))

/-- Two documents with equal identifiers are one. -/
theorem eq_length_of_sameId {docs front' back' : List Document} {other : Document}
    (hdistinct : DistinctIds docs) (h : docs = front ++ source :: back) (h' : docs = front' ++ other :: back')
    (hsame : Store.SameId other source) : front'.length = front.length := by
  have hsource : docs[front.length]? = some source := by simp [h]
  have hother : docs[front'.length]? = some other := by simp [h']
  obtain ⟨hlt, hsource⟩ := List.getElem?_eq_some_iff.1 hsource
  obtain ⟨hlt', hother⟩ := List.getElem?_eq_some_iff.1 hother
  have hpairs := List.pairwise_iff_getElem.1 hdistinct
  rcases lt_trichotomy front'.length front.length with hlength | hlength | hlength
  · exact absurd (hother ▸ hsource ▸ hsame) (hpairs _ _ hlt' hlt hlength).1
  · exact hlength
  · exact absurd (hother ▸ hsource ▸ hsame) (hpairs _ _ hlt hlt' hlength).2

/-- What is found under an identifier is the document that holds it. -/
theorem eq_length_of_positionOf (hdistinct : DistinctIds session.store.documents)
    (hstored : session.store.documents = front ++ source :: back) (hown : field? source Store.idKey = some id)
    {position : ℕ} (hposition : session.store.positionOf id = .ok position) : position = front.length := by
  obtain ⟨front', other, back', hsplit, rfl⟩ := Store.positionOf?_eq_some.1 (Store.positionOf_eq_ok.1 hposition)
  exact eq_length_of_sameId hdistinct hstored hsplit.eq_append ((Store.sameId_of_hasId hown).2 hsplit.found)

section

variable (hid : session.currentId = .ok id) (hstored : session.store.documents = front ++ source :: back)

include hid hstored

/-- An action on the shown document acts on its source or is refused if nothing else is found. -/
theorem actsOnly_or_refuses (hnew : GeneratesNew session.store)
    (hplace : ∀ position, session.store.positionOf id = .ok position → position = front.length) {action : Action}
    (haction : OnShown action) : session.ActsOnly front source back action ∨ session.Refuses action := by
  cases hposition : session.store.positionOf id with
  | ok position =>
    obtain ⟨front', other, back', hsplit, hlength⟩ := Store.positionOf?_eq_some.1 (Store.positionOf_eq_ok.1 hposition)
    -- the position fixes the front, so the document found is the one shown
    obtain ⟨rfl, hcons⟩ := List.append_inj (hsplit.eq_append.symm.trans hstored) (hlength.trans (hplace _ hposition))
    obtain ⟨rfl, rfl⟩ := List.cons.inj hcons
    rcases haction with ⟨hwhat, editor⟩ | ⟨_ | _⟩
    · exact .inl (actsOnly_write hid hsplit hnew hwhat editor)
    · exact .inl (actsOnly_cancel hid hstored)
    · exact .inl (actsOnly_delete hid hsplit)
  -- what is not found cannot be written or deleted, but a deletion may still be called off
  | error failure =>
    rcases haction with ⟨hwhat, editor⟩ | ⟨_ | _⟩
    · exact .inr (refuses_write hid hposition hwhat editor)
    · exact .inl (actsOnly_cancel hid hstored)
    · exact .inr (refuses_delete hid hposition)

/-- Deleting the source can succeed only where it is what is found. -/
theorem eq_length_of_delete (hdistinct : DistinctIds session.store.documents)
    (hsource : (Value.document source).WellFormed) (hidwf : id.WellFormed)
    (h : session.ActsOnly front source back (.delete true) ∨ session.Refuses (.delete true)) {position : ℕ}
    (hposition : session.store.positionOf id = .ok position) : position = front.length := by
  obtain ⟨front', other, back', hsplit, rfl⟩ := Store.positionOf?_eq_some.1 (Store.positionOf_eq_ok.1 hposition)
  -- a deletion takes a document away, so it is no refusal
  have hlost : (session.step (.delete true)).1.store ≠ session.store := by
    rw [store_step_delete hid (Store.delete_of_splitAt _ hsplit)]
    intro hsame
    have hlength := congrArg (·.documents.length) hsame
    simp [hsplit.eq_append] at hlength
  rcases h with hacts | hrefuses
  · have hid' : (session.only source).currentId = .ok id := hid
    cases honly : (session.only source).store.delete id with
    | error failure =>
      have hkept := (step_delete_of_error hid' honly).2
      rw [ActsOnly, hkept, among_only hstored] at hacts
      exact absurd (by rw [hacts]) hlost
    | ok after =>
      obtain ⟨before, found, behind, hfound, -⟩ := Store.delete_eq_ok.1 honly
      have honly : [source] = before ++ found :: behind := hfound.eq_append
      have hmem : found ∈ [source] := by simp [honly]
      obtain ⟨own, hown, hequal⟩ := Store.hasId_eq_ok_true.1 (List.mem_singleton.1 hmem ▸ hfound.found)
      obtain ⟨own', hown', hequal'⟩ := Store.hasId_eq_ok_true.1 hsplit.found
      have hownwf : own.WellFormed := hsource.part (Value.mem_parts_document (mem_of_field?_eq_some hown))
      -- in the store of the one document it is found as well, so both have the id that is looked for
      have hsame : Store.SameId other source :=
        ⟨own', own, hown', hown, Value.equal_trans hequal' (Value.equal_symm hownwf hidwf hequal)⟩
      exact eq_length_of_sameId hdistinct hstored hsplit.eq_append hsame
  · exact absurd hrefuses.2 hlost

end

/--
Each shown document has a stored one that it was projected from. The actions on it act on that document only, or
are refused, exactly if nothing else is found under the identifier that is shown; and nothing else is where no
path of the projection leads below the identifier. A fresh identifier must be one that no document has.
-/
theorem actsOnly_or_refuses_iff {total : ℕ} (hlisted : session.store.list query = .ok (session.viewer.documents, total))
    (hdistinct : DistinctIds session.store.documents)
    (hwf : ∀ doc ∈ session.store.documents, (Value.document doc).WellFormed)
    (hnew : GeneratesNew session.store) (hid : session.currentId = .ok id) :
    ∃ front source back, session.ShownFrom query front source back ∧
      ((∀ action, OnShown action → session.ActsOnly front source back action ∨ session.Refuses action) ↔
        ∀ position, session.store.positionOf id = .ok position → position = front.length) ∧
      (¬ Projection.LeadsBelowId query.projection →
        ∀ position, session.store.positionOf id = .ok position → position = front.length) := by
  obtain ⟨front, source, back, hfrom⟩ := exists_shownFrom hlisted hid
  have hsource : (Value.document source).WellFormed := hwf source (by simp [hfrom.stored])
  refine ⟨front, source, back, hfrom, ⟨fun h position hposition => ?_, fun h action haction => ?_⟩, fun hpaths => ?_⟩
  · exact eq_length_of_delete hid hfrom.stored hdistinct hsource (hfrom.wellFormed_id hsource hid)
      (h _ (.delete true)) hposition
  · exact actsOnly_or_refuses hid hfrom.stored hnew h haction
  · exact fun position => eq_length_of_positionOf hdistinct hfrom.stored (hfrom.field?_eq hsource hpaths hid)

end

/-! ## Two documents -/

/-- A number in an identifier. -/
def two : Value := .int32 ⟨2, by decide, by decide⟩

/-- A document under an identifier of two fields. -/
def underPair : Document := [("_id", .document [("x", .null), ("y", two)]), ("n", .string "pair")]

/-- A document under one of the fields of that identifier. -/
def underPart : Document := [("_id", .document [("y", two)]), ("n", .string "part")]

/-- Both of them in a store. -/
def twoStored : Store := ⟨[underPair, underPart], { time := 0, process := [2, 2, 2, 2, 2], counter := 0 }⟩

theorem distinctIds_twoStored : DistinctIds twoStored.documents := by
  have hdiffers {a b : Document} {x y : Value} (ha : field? a Store.idKey = some x) (hb : field? b Store.idKey = some y)
      (h : x.equal y = .ok false) : ¬ Store.SameId a b := by
    rintro ⟨x', y', hx, hy, hsame⟩
    cases ha.symm.trans hx
    cases hb.symm.trans hy
    cases h.symm.trans hsame
  have hpair : ¬ Store.SameId underPair underPart ∧ ¬ Store.SameId underPart underPair :=
    ⟨hdiffers rfl rfl rfl, hdiffers rfl rfl rfl⟩
  simp [DistinctIds, twoStored, hpair]

theorem wellFormed_twoStored : ∀ doc ∈ twoStored.documents, (Value.document doc).WellFormed := by
  simp [twoStored, underPair, underPart, two, Value.WellFormed, Value.WellFormedFields, keysOf]

/-- A projection that leaves identifiers whole. -/
theorem actsOnly_or_refuses_whole_id :
    let session : Session := ⟨{
      documents := [[("_id", .document [("x", .null), ("y", two)])], [("_id", .document [("y", two)])]]
      total := 2, navigator := Navigator.make [] 0 1 }, twoStored, some {}⟩
    ∃ front source back, session.ShownFrom { projection := [("n", .bool false)] } front source back ∧
      ∀ action, OnShown action → session.ActsOnly front source back action ∨ session.Refuses action := by
  intro session
  have hlisted : session.store.list { projection := [("n", .bool false)] } = .ok (session.viewer.documents, 2) := by rfl
  have hnew : GeneratesNew session.store := by
    intro id _ doc hdoc
    rcases List.mem_pair.1 hdoc with rfl | rfl <;> simp [underPair, underPart, field?, Store.idKey]
  -- the projection drops a field beside the id and leads nowhere below it
  have hpaths : ¬ Projection.LeadsBelowId [("n", .bool false)] := by
    rintro ⟨key, hkey, rest, hrest, -⟩
    obtain rfl : key = "n" := by simpa [keysOf] using hkey
    have hnone : Projection.restsOf ["n".toList] Projection.idKey = [] := by decide
    rw [hnone] at hrest
    cases hrest
  obtain ⟨front, source, back, hfrom, hiff, hplace⟩ :=
    actsOnly_or_refuses_iff hlisted distinctIds_twoStored wellFormed_twoStored hnew rfl
  exact ⟨front, source, back, hfrom, hiff.2 (hplace hpaths)⟩

/-- A projection that takes a field out of the identifiers: another document is deleted than the shown one. -/
theorem deletes_other_below_id :
    ∃ viewer, Viewer.make [[("_id", .document [("y", two)]), ("n", .string "pair")], underPart] (some 2) false
        [("_id.x", .bool false)] = .ok viewer ∧
      let session : Session := ⟨viewer, twoStored, some {}⟩
      session.store.list { projection := [("_id.x", .bool false)] } = .ok (viewer.documents, 2) ∧
      DistinctIds session.store.documents ∧
      session.ShownFrom { projection := [("_id.x", .bool false)] } [] underPair [underPart] ∧
      (session.step (.delete true)).1.store.documents = [underPair] ∧
      ¬ (session.ActsOnly [] underPair [underPart] (.delete true) ∨ session.Refuses (.delete true)) := by
  have hlisted : twoStored.list { projection := [("_id.x", .bool false)] } =
      .ok ([[("_id", .document [("y", two)]), ("n", .string "pair")], underPart], 2) := by rfl
  have hwritable : ∀ doc ∈ [[("_id", .document [("y", two)]), ("n", .string "pair")], underPart],
      Writable (.document doc) := by
    refine List.forall_mem_cons.2 ⟨⟨?_, by rfl⟩, List.forall_mem_singleton.2 ⟨?_, by rfl⟩⟩ <;>
      simp [underPart, two, Value.WellFormed, Value.WellFormedFields, keysOf]
  obtain ⟨text, htext, -⟩ := Viewer.textAt_eq_ok hwritable false 0
  refine ⟨_, by rw [Viewer.make, htext]; rfl, ?_⟩
  intro session
  -- the id shown has lost a field and is the whole id of the other document
  have hid : session.currentId = .ok (.document [("y", two)]) := rfl
  have hplace : session.store.positionOf (.document [("y", two)]) = .ok 1 := by rfl
  have hdelete : session.store.delete (.document [("y", two)]) = .ok ⟨[underPair], session.store.ids⟩ := by rfl
  refine ⟨hlisted, distinctIds_twoStored, ⟨rfl, ⟨_, by rfl, rfl⟩, ⟨_, rfl, by rfl⟩⟩, ?_, fun h => ?_⟩
  · rw [store_step_delete hid hdelete]
  · have hwf := wellFormed_twoStored underPair List.mem_cons_self
    have hidwf : (Value.document [("y", two)]).WellFormed := by
      simp [two, Value.WellFormed, Value.WellFormedFields, keysOf]
    exact absurd (eq_length_of_delete hid rfl distinctIds_twoStored hwf hidwf h hplace) (by decide)

end Session

end DocBrowser
