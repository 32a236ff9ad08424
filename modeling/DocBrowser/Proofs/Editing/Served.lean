import Mathlib
import DocBrowser.Proofs.Editing.Among
import DocBrowser.Proofs.Editing.Kept
import DocBrowser.Proofs.ExtendedJson.Renderable
/-!
# Operations on one document

Where identifiers are distinct and without a NaN, an operation that succeeds changes one document at most: it
replaces the one that it is called for, puts one behind all others, or takes one away. What it writes is what
the edited text compiles to, under the identifier that belongs there, and that is its answer too. Identifiers
stay distinct that way, so the same holds of the operations that follow.
-/

namespace DocBrowser

open ExtendedJson (DatesFit Writable)

namespace Editing

open Store (DistinctIds GeneratesNew Identified SameId SplitAt distinctIds_concat field?_idKey_cons field?_under
  get_eq_ok hasId hasId_eq_ok_true hasId_objectId_eq_ok_false holds_iff idKey isUnder sameId_of_hasId)

/-! ## Stores with distinct identifiers -/

/-- Whether documents hold distinct identifiers without a NaN. -/
structure Distinguished (docs : List Document) : Prop where
  wellFormed : ∀ doc ∈ docs, (Value.document doc).WellFormed
  nanFree : ∀ doc ∈ docs, Identified Value.NaNFree doc
  distinct : DistinctIds docs

section

variable {docs front back : List Document} {doc source : Document} {id : Value}

section

variable (hdocs : Distinguished docs)

include hdocs

theorem Distinguished.id_wellFormed (hdoc : doc ∈ docs) (hid : field? doc idKey = some id) : id.WellFormed :=
  (hdocs.wellFormed doc hdoc).part (Value.mem_parts_document (mem_of_field?_eq_some hid))

theorem Distinguished.id_nanFree (hdoc : doc ∈ docs) (hid : field? doc idKey = some id) : id.NaNFree := by
  obtain ⟨own, hown, hnan⟩ := hdocs.nanFree doc hdoc
  cases hid.symm.trans hown
  exact hnan

theorem Distinguished.identified (hdoc : doc ∈ docs) : Identified Value.WellFormed doc := by
  obtain ⟨id, hid, -⟩ := hdocs.nanFree doc hdoc
  exact ⟨id, hid, hdocs.id_wellFormed hdoc hid⟩

theorem Distinguished.equal_refl (hdoc : doc ∈ docs) (hid : field? doc idKey = some id) : id.equal id = .ok true :=
  Value.equal_refl (hdocs.id_wellFormed hdoc hid) (hdocs.id_nanFree hdoc hid)

/-- A document is alone under an identifier. -/
theorem Distinguished.isUnder_eq_false (hsplit : SplitAt id docs front doc back) (hid : id.WellFormed) :
    ∀ other ∈ front ++ back, isUnder id other = false := by
  cases hsplit.eq_append
  exact hdocs.distinct.isUnder_eq_false (fun _ => hdocs.identified) hid (holds_iff.2 hsplit.found)

/-- What is found under the identifier of a document is that document. -/
theorem Distinguished.eq_of_own (hsource : source ∈ docs) (hown : field? source idKey = some id)
    (hsplit : SplitAt id docs front doc back) : doc = source := by
  have hothers := hdocs.isUnder_eq_false hsplit (hdocs.id_wellFormed hsource hown)
  have hsource' : isUnder id source = true :=
    holds_iff.2 (hasId_eq_ok_true.2 ⟨id, hown, hdocs.equal_refl hsource hown⟩)
  rw [hsplit.eq_append, List.mem_append, List.mem_cons] at hsource
  rcases hsource with hfront | rfl | hback
  · simp [hothers source (by simp [hfront])] at hsource'
  · rfl
  · simp [hothers source (by simp [hback])] at hsource'

/-- A document with another identifier may come last. -/
theorem Distinguished.concat (hwf : (Value.document doc).WellFormed) (hid : field? doc idKey = some id)
    (hnan : id.NaNFree) (hfree : ∀ other ∈ docs, hasId id other = .ok false) : Distinguished (docs ++ [doc]) where
  wellFormed := List.forall_mem_append.2 ⟨hdocs.wellFormed, List.forall_mem_singleton.2 hwf⟩
  nanFree := List.forall_mem_append.2 ⟨hdocs.nanFree, List.forall_mem_singleton.2 ⟨id, hid, hnan⟩⟩
  distinct := by
    have hown : id.WellFormed := hwf.part (Value.mem_parts_document (mem_of_field?_eq_some hid))
    refine (distinctIds_concat (fun _ => hdocs.identified) ⟨id, hid, hown⟩).2 ⟨hdocs.distinct, ?_⟩
    intro other hother hsame
    rw [sameId_of_hasId hid, hfree other hother] at hsame
    cases hsame

end

/-- A document may take the place of another one under its identifier. -/
theorem Distinguished.replace (hdocs : Distinguished (front ++ source :: back)) (hown : field? source idKey = some id)
    (hwf : (Value.document doc).WellFormed) (hid : field? doc idKey = some id) :
    Distinguished (front ++ doc :: back) := by
  have hsource : source ∈ front ++ source :: back := by simp
  have hsame : SameId source doc := ⟨id, id, hown, hid, hdocs.equal_refl hsource hown⟩
  have hid' : Identified Value.WellFormed doc := ⟨id, hid, hdocs.id_wellFormed hsource hown⟩
  have hwellFormed := hdocs.wellFormed
  have hnanFree := hdocs.nanFree
  rw [List.forall_mem_append, List.forall_mem_cons] at hwellFormed hnanFree
  exact {
    wellFormed := List.forall_mem_append.2 ⟨hwellFormed.1, List.forall_mem_cons.2 ⟨hwf, hwellFormed.2.2⟩⟩
    nanFree := List.forall_mem_append.2
      ⟨hnanFree.1, List.forall_mem_cons.2 ⟨⟨id, hid, hdocs.id_nanFree hsource hown⟩, hnanFree.2.2⟩⟩
    distinct := hdocs.distinct.replace hsame (hdocs.identified hsource) hid' }

theorem Distinguished.remove (hdocs : Distinguished (front ++ source :: back)) : Distinguished (front ++ back) := by
  obtain ⟨hwellFormed, hnanFree, hdistinct⟩ := hdocs
  rw [List.forall_mem_append, List.forall_mem_cons] at hwellFormed hnanFree
  exact {
    wellFormed := List.forall_mem_append.2 ⟨hwellFormed.1, hwellFormed.2.2⟩
    nanFree := List.forall_mem_append.2 ⟨hnanFree.1, hnanFree.2.2⟩
    distinct := hdistinct.remove }

end

/-! ## Copies -/

/-- A draft that is left as it is compiles to the document, with its keys in the order of the draft. -/
theorem rewritten_unchanged {options : Options} {editor : Editor} {doc : Document} {draft : List Char}
    (hwritable : Writable (.document doc)) (hdates : DatesFit (.document doc))
    (hdraft : draftOf options doc = .ok draft) (heditor : editor draft = .ok draft) :
    Rewritten options editor doc draft draft
      (ExtendedJson.ordered options.sortKeys (ExtendedJson.arrangedFields options.sortKeys doc)) :=
  ⟨hdraft, heditor, Query.compile_render hwritable hdates (draftOf_eq_ok.1 hdraft)⟩

/-- Text that is the draft of a document compiles to an equal document. -/
theorem Rewritten.same_of_unchanged {options : Options} {editor : Editor} {doc compiled : Document}
    {draft : List Char} (h : Rewritten options editor doc draft draft compiled)
    (hwf : (Value.document doc).WellFormed) (hdates : DatesFit (.document doc)) (hnan : (Value.document doc).NaNFree) :
    Document.same compiled doc = .ok true := by
  have hwritable : Writable (.document doc) :=
    (ExtendedJson.writable_iff_renders options.sortKeys).2 ⟨hwf, draft, draftOf_eq_ok.1 h.rendered⟩
  have hsame := Value.same_arranged options.sortKeys hwf fun d hd => hd.keeps Value.NaNFree.part hnan
  rw [ExtendedJson.arranged] at hsame
  cases h.compiles.symm.trans (rewritten_unchanged hwritable hdates h.rendered h.edited).compiles
  exact hsame

/-- A copy under another identifier is equal to its source besides the identifiers. -/
theorem Rewritten.same_copy {options : Options} {editor : Editor} {source compiled : Document} {draft : List Char}
    (h : Rewritten options editor (eraseField source idKey) draft draft compiled)
    (hwf : (Value.document source).WellFormed) (hdates : DatesFit (.document source))
    (hnan : (Value.document source).NaNFree) (id : Value) :
    Document.same (eraseField (under id compiled) idKey) (eraseField source idKey) = .ok true := by
  have hsame : Document.same compiled (eraseField source idKey) = .ok true :=
    h.same_of_unchanged (hwf.eraseField idKey)
      (ExtendedJson.datesFitFields_iff.2 (eraseField_keeps (ExtendedJson.datesFitFields_iff.1 hdates) idKey))
      (Value.nanFreeFields_iff.2 (eraseField_keeps (Value.nanFreeFields_iff.1 hnan) idKey))
  have hkeys := (Query.writable_of_compile h.compiles).wellFormed.1
  have herased := Value.same_eraseField hkeys hsame idKey
  rw [eraseField_under]
  simpa only [eraseField, List.filter_filter, Bool.and_self] using herased

/-- A copy that the text leaves anything of is written behind all documents, under the next fresh identifier. -/
theorem duplicate_of_rewritten {options : Options} {editor : Editor} {store : Store} {id : Value} {fresh : ObjectId}
    {source compiled : Document} {draft text : List Char} (hget : store.get id = .ok source)
    (h : Rewritten options editor (eraseField source idKey) draft text compiled) (hfields : compiled ≠ [])
    (hnew : GeneratesNew store) (hnext : store.ids.next.1 = .ok fresh) :
    duplicate options editor id store = (.ok (some (under (.objectId fresh) compiled)),
      ⟨store.documents ++ [under (.objectId fresh) compiled], store.ids.next.2⟩) := by
  have hcopy := editedCopy_eq_some.2 ⟨source, draft, text, compiled, hget, h, hfields, rfl⟩
  rw [duplicate, hcopy]
  dsimp only
  rw [insertAndGet, Store.insert, field?_eraseField]
  dsimp only
  rw [hnext]
  dsimp only [Store.append]
  rw [Store.getLast_of_new (hnew fresh hnext)]
  rfl

/-! ## Operations -/

/-- Whether an operation is called as it should be: an edit by the very identifier that a document holds. -/
def Operation.Addresses (docs : List Document) : Operation → Prop
  | .write (.edit id) => ∃ source ∈ docs, field? source idKey = some id
  | .write _ => True
  | .delete id => id.WellFormed

/-- What an operation does to one document, with its answer and the store behind it. -/
inductive Served (options : Options) (editor : Editor) (store : Store) :
    Operation → Option Document → Store → Prop where
  /-- Nothing is written. -/
  | unwritten {purpose : Purpose} : Served options editor store (.write purpose) none store
  /-- The document that holds the identifier is replaced in its place, and keeps the identifier. -/
  | replaced {id : Value} {source compiled : Document} {front back : List Document} {draft text : List Char}
    (hdocs : store.documents = front ++ source :: back) (hown : field? source idKey = some id)
    (hothers : ∀ other ∈ front ++ back, isUnder id other = false)
    (hrewritten : Rewritten options editor source draft text compiled) :
    Served options editor store (.write (.edit id)) (some (under id compiled))
      { store with documents := front ++ under id compiled :: back }
  /-- A document with an identifier that is not taken comes last. -/
  | inserted {id : Value} {compiled : Document} {draft text : List Char}
    (hrewritten : Rewritten options editor [] draft text compiled) (hid : field? compiled idKey = some id)
    (hfree : ∀ other ∈ store.documents, hasId id other = .ok false) :
    Served options editor store (.write .insert) (some compiled) (store.append compiled)
  /-- A document without an identifier comes last, behind a fresh one. -/
  | generated {fresh : ObjectId} {compiled : Document} {draft text : List Char}
    (hrewritten : Rewritten options editor [] draft text compiled) (hid : field? compiled idKey = none)
    (hnext : store.ids.next.1 = .ok fresh)
    (hfree : ∀ other ∈ store.documents, hasId (.objectId fresh) other = .ok false) :
    Served options editor store (.write .insert) (some ((idKey, .objectId fresh) :: compiled))
      ⟨store.documents ++ [(idKey, .objectId fresh) :: compiled], store.ids.next.2⟩
  /-- A copy comes last, under a fresh identifier. -/
  | copied {id : Value} {fresh : ObjectId} {source compiled : Document} {front back : List Document}
    {draft text : List Char} (hsplit : SplitAt id store.documents front source back)
    (hrewritten : Rewritten options editor (eraseField source idKey) draft text compiled)
    (hnext : store.ids.next.1 = .ok fresh)
    (hfree : ∀ other ∈ store.documents, hasId (.objectId fresh) other = .ok false)
    (hsame : text = draft → DatesFit (.document source) → (Value.document source).NaNFree →
      Document.same (eraseField (under (.objectId fresh) compiled) idKey) (eraseField source idKey) = .ok true) :
    Served options editor store (.write (.duplicate id)) (some (under (.objectId fresh) compiled))
      ⟨store.documents ++ [under (.objectId fresh) compiled], store.ids.next.2⟩
  /-- The one document under the identifier is left out. -/
  | removed {id : Value} {old : Document} {front back : List Document}
    (hdocs : store.documents = front ++ old :: back) (hold : isUnder id old = true)
    (hothers : ∀ other ∈ front ++ back, isUnder id other = false) :
    Served options editor store (.delete id) none { store with documents := front ++ back }

section

variable {options : Options} {editor : Editor} {store after : Store} {answer : Option Document}

theorem served_edit (hdocs : Distinguished store.documents) {source : Document} {id : Value}
    (hsource : source ∈ store.documents) (hown : field? source idKey = some id)
    (h : edit options editor id store = (.ok answer, after)) :
    Served options editor store (.write (.edit id)) answer after := by
  obtain ⟨failure, hedit⟩ | hedit | ⟨front, found, back, compiled, hsplit, hrevise, hedit⟩ :=
    edit_cases options editor id store <;> cases hedit.symm.trans h
  · exact .unwritten
  · cases hdocs.eq_of_own hsource hown hsplit
    obtain ⟨draft, text, hrewritten⟩ := rewritten_of_revise hrevise
    exact .replaced hsplit.eq_append hown (hdocs.isUnder_eq_false hsplit (hdocs.id_wellFormed hsource hown)) hrewritten

/-- What is inserted comes last and is the answer. -/
theorem insertAndGet_eq_ok (hnew : GeneratesNew store) {doc : Document}
    (h : insertAndGet store doc = (.ok answer, after)) :
    (∃ fresh, field? doc idKey = none ∧ store.ids.next.1 = .ok fresh ∧
      (∀ other ∈ store.documents, hasId (.objectId fresh) other = .ok false) ∧
      answer = some ((idKey, .objectId fresh) :: doc) ∧
      after = ⟨store.documents ++ [(idKey, .objectId fresh) :: doc], store.ids.next.2⟩) ∨
    ∃ id, field? doc idKey = some id ∧ (∀ other ∈ store.documents, hasId id other = .ok false) ∧
      answer = some doc ∧ after = store.append doc := by
  rw [insertAndGet] at h
  obtain ⟨fresh, ids, hid, hnext, hinsert⟩ | ⟨id, hid, hfree, hinsert⟩ | ⟨failure, ids, hinsert⟩ :=
    store.insert_cases doc
  · have hnext' : store.ids.next.1 = .ok fresh := by rw [hnext]
    -- no document has the fresh id, so what is read back under it is what was written
    have hfree := fun other hother => hasId_objectId_eq_ok_false.2 (hnew fresh hnext' other hother)
    rw [hinsert] at h
    obtain ⟨hanswer, rfl⟩ := Prod.mk.inj h
    obtain ⟨found, hfound, rfl⟩ := map_eq_ok.1 hanswer
    obtain ⟨-, rfl⟩ := (getLast_concat_eq_ok hfree).1 hfound
    exact .inl ⟨fresh, hid, hnext', hfree, rfl, by rw [hnext]⟩
  · rw [hinsert] at h
    obtain ⟨hanswer, rfl⟩ := Prod.mk.inj h
    obtain ⟨found, hfound, rfl⟩ := map_eq_ok.1 hanswer
    obtain ⟨-, rfl⟩ := (getLast_concat_eq_ok hfree).1 hfound
    exact .inr ⟨id, hid, hfree, rfl, rfl⟩
  · rw [hinsert] at h
    cases h

theorem served_insert (hnew : GeneratesNew store) (h : insert options editor store = (.ok answer, after)) :
    Served options editor store (.write .insert) answer after := by
  rw [insert] at h
  rcases hrevise : revise options editor [] with failure | _ | _ | compiled <;> rw [hrevise] at h
  · cases h
  · cases h
    exact .unwritten
  · cases h
    exact .unwritten
  · obtain ⟨draft, text, hrewritten⟩ := rewritten_of_revise hrevise
    obtain ⟨fresh, hid, hnext, hfree, rfl, rfl⟩ | ⟨id, hid, hfree, rfl, rfl⟩ := insertAndGet_eq_ok hnew h
    · exact .generated hrewritten hid hnext hfree
    · exact .inserted hrewritten hid hfree

theorem served_duplicate (hdocs : Distinguished store.documents) (hnew : GeneratesNew store) {id : Value}
    (h : duplicate options editor id store = (.ok answer, after)) :
    Served options editor store (.write (.duplicate id)) answer after := by
  rw [duplicate] at h
  rcases hcopy : editedCopy options editor id store with failure | _ | copy <;> rw [hcopy] at h
  · cases h
  · cases h
    exact .unwritten
  · obtain ⟨source, draft, text, compiled, hget, hrewritten, -, rfl⟩ := editedCopy_eq_some.1 hcopy
    obtain ⟨front, back, hsplit⟩ := get_eq_ok.1 hget
    obtain ⟨fresh, -, hnext, hfree, rfl, rfl⟩ | ⟨own, hown, -⟩ := insertAndGet_eq_ok hnew h
    · refine .copied hsplit hrewritten hnext hfree fun hunchanged hdates hnan => ?_
      subst hunchanged
      have hsource : source ∈ store.documents := by simp [hsplit.eq_append]
      exact hrewritten.same_copy (hdocs.wellFormed source hsource) hdates hnan _
    · -- a copy has lost its id, so it never brings one of its own
      simp [field?_eraseField] at hown

theorem served_delete (hdocs : Distinguished store.documents) {id : Value} (hid : id.WellFormed)
    (h : store.delete id = .ok after) : Served options editor store (.delete id) none after := by
  obtain ⟨front, old, back, hsplit, rfl⟩ := Store.delete_eq_ok.1 h
  exact .removed hsplit.eq_append (holds_iff.2 hsplit.found) (hdocs.isUnder_eq_false hsplit hid)

end

/--
An operation that succeeds on documents with distinct identifiers replaces one document, adds one behind the
others or takes one away, as long as a fresh identifier is new; all others keep their values and their order.
-/
theorem served_of_serve {options : Options} {editor : Editor} {operation : Operation} {store after : Store}
    {answer : Option Document} (hdocs : Distinguished store.documents) (hnew : GeneratesNew store)
    (haddress : operation.Addresses store.documents)
    (h : serve options editor operation store = (.ok answer, after)) :
    Served options editor store operation answer after := by
  cases operation with
  | write purpose =>
    cases purpose with
    | edit id =>
      obtain ⟨source, hsource, hown⟩ := haddress
      exact served_edit hdocs hsource hown h
    | insert => exact served_insert hnew h
    | duplicate id => exact served_duplicate hdocs hnew h
  | delete id =>
    rw [serve] at h
    cases hdelete : store.delete id with
    | error failure =>
      rw [hdelete] at h
      cases h
    | ok left =>
      rw [hdelete] at h
      cases h
      exact served_delete hdocs haddress hdelete

/-- The copy of a document with a text. -/
def noteCopy (text : String) (fresh : ObjectId) : Document := [("_id", .objectId fresh), ("note", .string text)]

/-- A document with a text is copied by an editor that leaves its text as it is. -/
theorem served_of_serve_noteCopy :
    Distinguished (noteStore "x y").documents ∧ GeneratesNew (noteStore "x y") ∧
    (Operation.write (.duplicate noteId)).Addresses (noteStore "x y").documents ∧
    ∃ fresh after, serve {} (fun draft => .ok draft) (.write (.duplicate noteId)) (noteStore "x y") =
        (.ok (some (noteCopy "x y" fresh)), after) ∧
      after.documents = [noteOf "x y", noteCopy "x y" fresh] ∧
      Served {} (fun draft => .ok draft) (noteStore "x y") (.write (.duplicate noteId)) (some (noteCopy "x y" fresh))
        after := by
  have hdocs : Distinguished (noteStore "x y").documents := by
    refine ⟨List.forall_mem_singleton.2 ?_, List.forall_mem_singleton.2 ⟨noteId, rfl, trivial⟩,
      List.pairwise_singleton _ _⟩
    simp [noteOf, noteId, Value.WellFormed, Value.WellFormedFields, keysOf]
  have hnew : GeneratesNew (noteStore "x y") :=
    fun _ _ => List.forall_mem_singleton.2 (by simp [noteOf, noteId, field?, idKey])
  have hget : (noteStore "x y").get noteId = .ok (noteOf "x y") :=
    get_eq_ok.2 ⟨[], [], rfl, hasId_eq_ok_true.2 ⟨noteId, rfl, Value.equal_refl trivial trivial⟩, by simp⟩
  -- nothing is typed: the draft is given back as it was
  have hdraft : draftOf {} [("note", .string "x y")] = .ok "\x7b\n  \"note\": \"x y\"\n\x7d".toList := by cbv
  have hwritable : Writable (.document [("note", .string "x y")]) :=
    ⟨by simp [Value.WellFormed, Value.WellFormedFields, keysOf], rfl⟩
  have hdates : DatesFit (.document [("note", .string "x y")]) := by simp [DatesFit, ExtendedJson.DatesFitFields]
  have hrewritten := @rewritten_unchanged {} (fun draft => .ok draft) _ _ hwritable hdates hdraft rfl
  rw [ExtendedJson.arrangedFields_false] at hrewritten
  have hserve := duplicate_of_rewritten hget hrewritten (List.cons_ne_nil _ _) hnew rfl
  exact ⟨hdocs, hnew, trivial, _, _, hserve, rfl, served_of_serve hdocs hnew trivial hserve⟩

/-! ## Runs of operations -/

theorem wellFormed_under {id : Value} {doc : Document} (hid : id.WellFormed) (h : (Value.document doc).WellFormed) :
    (Value.document (under id doc)).WellFormed :=
  (h.eraseField idKey).cons (field?_eraseField doc idKey) hid

/-- Identifiers stay distinct, as long as none with a NaN in it is written. -/
theorem Served.distinguished {options : Options} {editor : Editor} {operation : Operation} {store after : Store}
    {answer : Option Document} (h : Served options editor store operation answer after)
    (hnan : ∀ doc ∈ answer, Identified Value.NaNFree doc) (hdocs : Distinguished store.documents) :
    Distinguished after.documents := by
  have hcompiled {doc compiled : Document} {draft text : List Char}
      (h : Rewritten options editor doc draft text compiled) : (Value.document compiled).WellFormed :=
    (Query.writable_of_compile h.compiles).wellFormed
  -- what is written was compiled, so it has each key once; its id is new or the one it replaces
  cases h with
  | unwritten => exact hdocs
  | replaced hsplit hown _ hrewritten =>
    rw [hsplit] at hdocs
    have hid := hdocs.id_wellFormed (by simp) hown
    exact hdocs.replace hown (wellFormed_under hid (hcompiled hrewritten)) (field?_under _ _)
  | inserted hrewritten hid hfree =>
    obtain ⟨own, hown, hnan⟩ := hnan _ rfl
    cases hid.symm.trans hown
    exact hdocs.concat (hcompiled hrewritten) hid hnan hfree
  | generated hrewritten hid _ hfree =>
    exact hdocs.concat ((hcompiled hrewritten).cons hid trivial) (field?_idKey_cons _ _) trivial hfree
  | copied _ hrewritten _ hfree _ =>
    exact hdocs.concat (wellFormed_under trivial (hcompiled hrewritten)) (field?_under _ _) trivial hfree
  | removed hsplit _ _ => exact (hsplit ▸ hdocs).remove

/-- One store is reached from another by operations, none of which writes an identifier with a NaN in it. -/
inductive Reaches (options : Options) (store : Store) : Store → Prop where
  | refl : Reaches options store store
  | step {between after : Store} {editor : Editor} {operation : Operation} {answer : Option Document}
    (h : Reaches options store between) (hserved : Served options editor between operation answer after)
    (hnan : ∀ doc ∈ answer, Identified Value.NaNFree doc) : Reaches options store after

/-- However many operations are done, identifiers stay distinct and without a NaN. -/
theorem Reaches.distinguished {options : Options} {store after : Store} (h : Reaches options store after)
    (hdocs : Distinguished store.documents) : Distinguished after.documents := by
  induction h with
  | refl => exact hdocs
  | step _ hserved hnan ih => exact hserved.distinguished hnan ih

end Editing

end DocBrowser
