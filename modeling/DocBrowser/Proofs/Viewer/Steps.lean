import Mathlib
import DocBrowser.Viewer.Action
import DocBrowser.Proofs.Editing.Renderable
import DocBrowser.Proofs.Navigator.Cursor
import DocBrowser.Proofs.Store.Projection
/-!
# The viewer through all actions

Documents, index, total and navigator of a viewer are changed one by one, and every action leaves them in
step as long as all documents, shown and stored, have renderings. Showing one of the documents can then not
fail, and an action that fails or has nothing to do leaves the viewer as it was.
-/

namespace DocBrowser

open ExtendedJson (Writable writable_iff_renders)

namespace Viewer

/-- What holds of a viewer between actions. -/
structure Sound (viewer : Viewer) : Prop where
  index : viewer.documents = [] ∧ viewer.index = 0 ∨ viewer.index < viewer.documents.length
  /-- The navigator shows the document at the index. -/
  rendered : ∀ doc, viewer.documents[viewer.index]? = some doc →
    doc.render viewer.sortKeys = .ok viewer.navigator.text
  empty : viewer.documents = [] → viewer.navigator.text = []
  /-- Its lines are those of its text, and its window is placed on them. -/
  fits : ∃ view, viewer.navigator.Fits view
  length_le : viewer.documents.length ≤ viewer.total

section

variable {viewer : Viewer}

theorem textAt_eq_ok {documents : List Document} (hdocs : ∀ doc ∈ documents, Writable (.document doc))
    (sortKeys : Bool) (index : ℕ) :
    ∃ text, textAt documents sortKeys index = .ok text ∧
      (∀ doc, documents[index]? = some doc → doc.render sortKeys = .ok text) ∧ (documents = [] → text = []) := by
  unfold textAt
  cases hdoc : documents[index]? with
  | none => exact ⟨[], rfl, nofun, fun _ => rfl⟩
  | some doc =>
    have hmem := List.mem_of_getElem? hdoc
    obtain ⟨-, text, htext⟩ := (writable_iff_renders sortKeys).1 (hdocs doc hmem)
    refine ⟨text, by simp [htext, orFailure], fun other hother => ?_, fun hnil => ?_⟩
    · cases hother
      exact htext
    · rw [hnil] at hmem
      cases hmem

/-- The viewer that shows a text for the document at an index. -/
def opened (viewer : Viewer) (index : ℕ) (text : List Char) : Viewer :=
  let viewer := { viewer with index, navigator := viewer.navigator.openText text }
  repaint { viewer with header := viewer.headerText }

theorem showAt_of_text {index : ℕ} {text : List Char}
    (h : textAt viewer.documents viewer.sortKeys index = .ok text) :
    viewer.showAt index = (viewer.opened index text, none) := by
  unfold showAt currentText
  simp only [h]
  rfl

/-- A document with a rendering is shown at the top of its text. -/
theorem showAt_sound (hdocs : ∀ doc ∈ viewer.documents, Writable (.document doc))
    (hfits : ∃ view, viewer.navigator.Fits view) (hlength : viewer.documents.length ≤ viewer.total) {index : ℕ}
    (hindex : viewer.documents = [] ∧ index = 0 ∨ index < viewer.documents.length) :
    ∃ after, viewer.showAt index = (after, none) ∧ after.Sound ∧ after.documents = viewer.documents := by
  obtain ⟨text, htext, hrendered, hempty⟩ := textAt_eq_ok hdocs viewer.sortKeys index
  obtain ⟨view, hview⟩ := hfits
  exact ⟨_, showAt_of_text htext, ⟨hindex, hrendered, hempty, ⟨_, hview.perform (.openText text)⟩, hlength⟩, rfl⟩

theorem Sound.move (h : viewer.Sound) (step : Window.Move) : (viewer.move step).Sound := by
  obtain ⟨view, hview⟩ := h.fits
  exact ⟨h.index, h.rendered, h.empty, ⟨_, hview.perform (.move step)⟩, h.length_le⟩

theorem Sound.resize (h : viewer.Sound) (width height : ℤ) : (viewer.resize width height).Sound := by
  obtain ⟨view, hview⟩ := h.fits
  exact ⟨h.index, h.rendered, h.empty, ⟨_, hview.perform (.resize _ height)⟩, h.length_le⟩

theorem make_sound {documents : List Document} (hdocs : ∀ doc ∈ documents, Writable (.document doc))
    {total : Option ℤ} (htotal : ∀ n ∈ total, documents.length ≤ n) (sortKeys : Bool) (projection : Document) :
    ∃ viewer, make documents total sortKeys projection = .ok viewer ∧ viewer.Sound ∧ viewer.documents = documents := by
  obtain ⟨text, htext, hrendered, hempty⟩ := textAt_eq_ok hdocs sortKeys 0
  refine ⟨_, by rw [make, htext]; rfl, ⟨?_, hrendered, hempty, ⟨_, Navigator.fits_make ⟨text, 0, 1⟩⟩, ?_⟩, rfl⟩
  · exact documents.length.eq_zero_or_pos.imp_left fun hnil => ⟨List.length_eq_zero_iff.1 hnil, rfl⟩
  · cases total with
    | none => exact le_rfl
    | some n => exact htotal n rfl

end

end Viewer

/-- Whether an outcome is a failure: it ended the action, or something else than information is notified. -/
def Outcome.Fails (outcome : Outcome) : Prop :=
  outcome.failure.isSome ∨ ∃ notice ∈ outcome.notices, notice.severity ≠ .information

namespace Session

/-- Whether an action has nothing to change: there is no further document, text is only copied, an editor has
written nothing, or a question is not confirmed. -/
inductive Idle (session : Session) : Action → Prop
  | next (h : session.viewer.documents.length ≤ session.viewer.index + 1) : Idle session .next
  | previous (h : session.viewer.index = 0) : Idle session .previous
  | copy (mode : CopyMode) (clipboard : List Char → Except Failure Unit) : Idle session (.copy mode clipboard)
  | write {what : Writing} {editor : Editor} {options : Editing.Options} {purpose : Editing.Purpose}
      (hpurpose : session.purposeFor what = .ok (options, purpose))
      (h : (Editing.perform options editor purpose session.store).1 = .ok none) : Idle session (.write what editor)
  | cancel : Idle session (.delete false)

/-- The session behind actions. -/
def run (session : Session) (actions : List Action) : Session :=
  actions.foldl (fun session action => (session.step action).1) session

/-- A viewer in step with its documents, which have renderings like those in the store. -/
structure Ready (session : Session) : Prop where
  sound : session.viewer.Sound
  shown : ∀ doc ∈ session.viewer.documents, Writable (.document doc)
  stored : session.store.Renderable

/-- What an action does to a session: it stays ready, and its viewer as it is if the action fails or is idle. -/
structure Steps (session : Session) (action : Action) (result : Session × Outcome) : Prop where
  ready : result.1.Ready
  unchanged : result.2.Fails ∨ session.Idle action → result.1.viewer = session.viewer

section

variable {session : Session} {action : Action}

/-- An action that leaves the viewer alone, and documents with renderings in the store. -/
theorem steps_of_viewer_eq (h : session.Ready) {after : Session} {outcome : Outcome}
    (hviewer : after.viewer = session.viewer) (hstored : after.store.Renderable) :
    session.Steps action (after, outcome) :=
  ⟨⟨hviewer ▸ h.sound, hviewer ▸ h.shown, hstored⟩, fun _ => hviewer⟩

/-- An action that shows another document without failing is not idle. -/
theorem steps_shown {before : Session} {viewer : Viewer} {words : Option String} {log : List Log.Entry}
    (hsound : viewer.Sound) (hshown : ∀ doc ∈ viewer.documents, Writable (.document doc))
    (hstored : before.store.Renderable) (hbusy : ¬ session.Idle action) :
    session.Steps action (before.shown (viewer, none) words log) := by
  cases words with
  | none => exact ⟨⟨hsound, hshown, hstored⟩, by simp [shown, Outcome.Fails, hbusy]⟩
  | some words => exact ⟨⟨hsound, hshown, hstored⟩, by simp [shown, notify, Outcome.Fails, hbusy]⟩

/-- The identifier of the shown document is a part of it. -/
theorem currentId_eq_ok {id : Value} (h : session.currentId = .ok id) :
    ∃ doc, session.viewer.documents[session.viewer.index]? = some doc ∧ field? doc Store.idKey = some id := by
  unfold currentId at h
  split at h
  · rename_i doc _ hdoc
    split at h <;> cases h
    exact ⟨_, hdoc, ‹_›⟩
  · cases h

theorem Ready.writable_of_currentId (h : session.Ready) {id : Value} (hid : session.currentId = .ok id) :
    Writable id := by
  obtain ⟨doc, hdoc, hfield⟩ := currentId_eq_ok hid
  exact (h.shown doc (List.mem_of_getElem? hdoc)).field? hfield

/-- What the editor is opened for, and on which document. -/
theorem purposeFor_eq_ok {what : Writing} {options : Editing.Options} {purpose : Editing.Purpose}
    (h : session.purposeFor what = .ok (options, purpose)) :
    session.editing = some options ∧ (what = .insert ∧ purpose = .insert ∨
      ∃ id, session.currentId = .ok id ∧ (what = .edit ∧ purpose = .edit id ∨ what = .duplicate ∧ purpose = .duplicate id)) := by
  unfold purposeFor at h
  split at h
  · rename_i own hown
    cases what with
    | insert =>
      cases h
      exact ⟨hown, .inl ⟨rfl, rfl⟩⟩
    | edit =>
      obtain ⟨id, hid, h⟩ := bind_eq_ok.1 h
      cases h
      exact ⟨hown, .inr ⟨id, hid, .inl ⟨rfl, rfl⟩⟩⟩
    | duplicate =>
      obtain ⟨id, hid, h⟩ := bind_eq_ok.1 h
      cases h
      exact ⟨hown, .inr ⟨id, hid, .inr ⟨rfl, rfl⟩⟩⟩
  · cases h

/-- Whatever is not idle may show one of some documents. -/
theorem steps_showAt {before : Session} {viewer : Viewer} {words : Option String} {log : List Log.Entry} {index : ℕ}
    (hstored : before.store.Renderable) (hfits : ∃ view, viewer.navigator.Fits view)
    (hdocs : ∀ doc ∈ viewer.documents, Writable (.document doc)) (hlength : viewer.documents.length ≤ viewer.total)
    (hindex : viewer.documents = [] ∧ index = 0 ∨ index < viewer.documents.length) (hbusy : ¬ session.Idle action) :
    session.Steps action (before.shown (viewer.showAt index) words log) := by
  obtain ⟨after, hafter, hsound, hsame⟩ := Viewer.showAt_sound hdocs hfits hlength hindex
  rw [hafter]
  exact steps_shown hsound (hsame ▸ hdocs) hstored hbusy

theorem steps_next (h : session.Ready) : session.Steps .next (session.step .next) := by
  rw [step, Viewer.next]
  split_ifs with hnext
  · refine steps_showAt h.stored h.sound.fits h.shown h.sound.length_le (.inr hnext) ?_
    rintro ⟨hidle⟩
    omega
  · exact steps_of_viewer_eq h rfl h.stored

theorem steps_previous (h : session.Ready) : session.Steps .previous (session.step .previous) := by
  rw [step, Viewer.previous]
  split_ifs with hprevious
  · have hindex : session.viewer.index - 1 < session.viewer.documents.length := by
      rcases h.sound.index with ⟨-, hzero⟩ | hlt
      · omega
      · omega
    refine steps_showAt h.stored h.sound.fits h.shown h.sound.length_le (.inr hindex) ?_
    rintro ⟨hidle⟩
    omega
  · exact steps_of_viewer_eq h rfl h.stored

theorem writable_projected {viewer : Viewer} {doc left : Document} (hdoc : Writable (.document doc))
    (h : projected viewer doc = .ok left) : Writable (.document left) := by
  unfold projected at h
  split_ifs at h
  · cases h
    exact hdoc
  · exact writable_projectDocument hdoc h

/-- A document that has been written is shown in the place of the shown one or behind all of them, unless its
projection fails. -/
theorem steps_showWritten (h : session.Ready) {store : Store} (hstored : store.Renderable) {what : Writing}
    {doc : Document} (hdoc : Writable (.document doc)) {words : Option String} {log : List Log.Entry}
    (hindex : what = .edit → session.viewer.index < session.viewer.documents.length) (hbusy : ¬ session.Idle action) :
    session.Steps action
      ({ session with store }.shown (showWritten session.viewer what doc) words log) := by
  rw [showWritten]
  cases hprojected : projected session.viewer doc with
  | error failure => exact steps_of_viewer_eq h rfl hstored
  | ok left =>
    have hleft := writable_projected hdoc hprojected
    -- an inserted or duplicated document is shown behind the others
    have happend : session.Steps action ({ session with store }.shown (session.viewer.append left) words log) := by
      refine steps_showAt hstored h.sound.fits ?_ ?_ (.inr ?_) hbusy
      · exact List.forall_mem_append.2 ⟨h.shown, List.forall_mem_singleton.2 hleft⟩
      · simpa using h.sound.length_le
      · simp
    cases what with
    | edit =>
      refine steps_showAt hstored h.sound.fits ?_ ?_ (.inr ?_) hbusy
      · intro other hother
        rcases List.mem_or_eq_of_mem_set hother with hother | rfl
        · exact h.shown other hother
        · exact hleft
      · simpa using h.sound.length_le
      · simpa using hindex rfl
    | insert => exact happend
    | duplicate => exact happend

theorem currentId_index_lt {id : Value} (h : session.currentId = .ok id) :
    session.viewer.index < session.viewer.documents.length := by
  obtain ⟨doc, hdoc, -⟩ := currentId_eq_ok h
  exact (List.getElem?_eq_some_iff.1 hdoc).1

theorem steps_write (h : session.Ready) (what : Writing) (editor : Editor) :
    session.Steps (.write what editor) (session.step (.write what editor)) := by
  rw [step, write]
  cases hpurpose : session.purposeFor what with
  | error outcome => exact steps_of_viewer_eq h rfl h.stored
  | ok found =>
    obtain ⟨options, purpose⟩ := found
    obtain ⟨-, hcases⟩ := purposeFor_eq_ok hpurpose
    have hid : ∀ id, purpose = .edit id → Writable id := by
      rintro id rfl
      obtain ⟨-, h'⟩ | ⟨id', hcurrent, ⟨-, h'⟩ | ⟨-, h'⟩⟩ := hcases <;> cases h'
      exact h.writable_of_currentId hcurrent
    -- only an edit replaces what is shown, and it needs a current document
    have hindex : what = .edit → session.viewer.index < session.viewer.documents.length := by
      rintro rfl
      obtain ⟨h', -⟩ | ⟨id, hcurrent, -⟩ := hcases
      · cases h'
      · exact currentId_index_lt hcurrent
    have hidle : session.Idle (.write what editor) →
        (Editing.perform options editor purpose session.store).1 = .ok none := by
      rintro (_ | _ | _ | ⟨hother, hnone⟩)
      rw [hpurpose] at hother
      cases hother
      exact hnone
    obtain ⟨hstored, hanswer⟩ := Editing.renderable_perform options editor h.stored hid
    dsimp only
    generalize Editing.perform options editor purpose session.store = result at hstored hanswer hidle
    obtain ⟨answer, store⟩ := result
    rcases answer with failure | _ | doc
    · exact steps_of_viewer_eq h rfl hstored
    · exact steps_of_viewer_eq h rfl hstored
    · exact steps_showWritten h hstored (hanswer doc rfl) hindex fun hnone => nomatch hidle hnone

/-- Behind a document that is removed the next one is shown, or the last one, or none. -/
theorem steps_removeCurrent (h : session.Ready) {store : Store} (hstored : store.Renderable) {words : Option String}
    {log : List Log.Entry} (hindex : session.viewer.index < session.viewer.documents.length)
    (hbusy : ¬ session.Idle action) :
    session.Steps action ({ session with store }.shown session.viewer.removeCurrent words log) := by
  have hlength := h.sound.length_le
  have hleft : (session.viewer.documents.eraseIdx session.viewer.index).length = session.viewer.documents.length - 1 :=
    List.length_eraseIdx_of_lt hindex
  refine steps_showAt hstored h.sound.fits (fun doc hdoc => h.shown doc (List.mem_of_mem_eraseIdx hdoc)) ?_ ?_ hbusy
  · dsimp only
    omega
  · dsimp only
    rw [hleft, ← List.length_eq_zero_iff, hleft]
    omega

theorem steps_deleteShown (h : session.Ready) {id : Value} (hid : session.currentId = .ok id) :
    session.Steps (.delete true) (session.deleteShown id) := by
  rw [deleteShown]
  cases hdelete : session.store.delete id with
  | error failure => exact steps_of_viewer_eq h rfl h.stored
  | ok store =>
    have hbusy : ¬ session.Idle (.delete true) := by rintro ⟨⟩
    exact steps_removeCurrent h (Editing.renderable_delete h.stored hdelete) (currentId_index_lt hid) hbusy

theorem steps_delete (h : session.Ready) (confirmed : Bool) :
    session.Steps (.delete confirmed) (session.step (.delete confirmed)) := by
  rw [step, delete]
  cases hid : session.currentId with
  | error outcome => exact steps_of_viewer_eq h rfl h.stored
  | ok id =>
    cases confirmed with
    | false => exact steps_of_viewer_eq h rfl h.stored
    | true =>
      obtain ⟨hready, hunchanged⟩ := steps_deleteShown h hid
      exact ⟨hready, hunchanged⟩

/-- What an action does: documents, index, total and navigator stay in step, through failures and idle actions. -/
theorem steps_step (h : session.Ready) (action : Action) : session.Steps action (session.step action) := by
  cases action with
  | move step =>
    refine ⟨⟨h.sound.move step, h.shown, h.stored⟩, ?_⟩
    -- a move neither fails nor says anything, and it is not idle
    rintro ((hfails | ⟨_, hnotice, -⟩) | hidle)
    · cases hfails
    · cases hnotice
    · cases hidle
  | resize width height =>
    refine ⟨⟨h.sound.resize width height, h.shown, h.stored⟩, ?_⟩
    rintro ((hfails | ⟨_, hnotice, -⟩) | hidle)
    · cases hfails
    · cases hnotice
    · cases hidle
  | next => exact steps_next h
  | previous => exact steps_previous h
  | copy mode clipboard => exact steps_of_viewer_eq h rfl h.stored
  | write what editor => exact steps_write h what editor
  | delete confirmed => exact steps_delete h confirmed

theorem ready_run (h : session.Ready) (actions : List Action) : (run session actions).Ready := by
  induction actions using List.reverseRecOn with
  | nil => exact h
  | append_singleton actions action ih =>
    rw [run, List.foldl_concat]
    exact (steps_step ih action).ready

end

/--
A viewer is made of documents with renderings. Whatever is done then, in front of a store of such documents and
with any editors and clipboards, it shows one of its documents, of which there are no more than match; and what
fails or has nothing to change leaves it as it was.
-/
theorem run_sound {documents : List Document} {total : Option ℤ} {sortKeys : Bool} {store : Store}
    (hshown : ∀ doc ∈ documents, doc.Renders sortKeys) (hstored : ∀ doc ∈ store.documents, doc.Renders sortKeys)
    (htotal : ∀ n ∈ total, documents.length ≤ n) (projection : Document) (editing : Option Editing.Options) :
    ∃ viewer, Viewer.make documents total sortKeys projection = .ok viewer ∧
      ∀ actions, let session := run ⟨viewer, store, editing⟩ actions
        session.viewer.Sound ∧ ∀ action, (session.step action).2.Fails ∨ session.Idle action →
          (session.step action).1.viewer = session.viewer := by
  have hdocs := fun doc hdoc => (writable_iff_renders sortKeys).2 (hshown doc hdoc)
  obtain ⟨viewer, hmake, hsound, rfl⟩ := Viewer.make_sound hdocs htotal sortKeys projection
  refine ⟨viewer, hmake, fun actions => ?_⟩
  have hfirst : (Session.mk viewer store editing).Ready :=
    ⟨hsound, hdocs, fun doc hdoc => (writable_iff_renders sortKeys).2 (hstored doc hdoc)⟩
  have hready := ready_run hfirst actions
  exact ⟨hready.sound, fun action => (steps_step hready action).unchanged⟩

/-- A viewer that pages through two documents, of which one is stored. -/
theorem run_sound_two_documents :
    let store : Store := ⟨[[("_id", .string "a")]], { time := 0, process := [1, 2, 3, 4, 5], counter := 0 }⟩
    ∃ viewer, Viewer.make [[("_id", .string "a")], [("note", .null)]] (some 3) true [("note", .bool false)] =
        .ok viewer ∧ ∀ actions, (run ⟨viewer, store, some {}⟩ actions).viewer.Sound := by
  intro store
  have hnamed : Document.Renders true [("_id", .string "a")] :=
    (writable_iff_renders true).1 ⟨by simp [Value.WellFormed, Value.WellFormedFields, keysOf], rfl⟩
  have hnote : Document.Renders true [("note", .null)] :=
    (writable_iff_renders true).1 ⟨by simp [Value.WellFormed, Value.WellFormedFields, keysOf], rfl⟩
  have hshown : ∀ doc ∈ [[("_id", .string "a")], [("note", .null)]], Document.Renders true doc :=
    List.forall_mem_cons.2 ⟨hnamed, List.forall_mem_singleton.2 hnote⟩
  have hstored : ∀ doc ∈ store.documents, Document.Renders true doc := List.forall_mem_singleton.2 hnamed
  obtain ⟨viewer, hmake, hrun⟩ :=
    @run_sound _ (some 3) true store hshown hstored (by simp) [("note", .bool false)] (some {})
  exact ⟨viewer, hmake, fun actions => (hrun actions).1⟩

end Session

end DocBrowser
