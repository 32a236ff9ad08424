import Mathlib
import DocBrowser.Proofs.Editing.Kept
/-!
# Identifiers that are written back

A document is looked up by an identifier that is equal to its own and written back under the one that was
given. So it keeps its identifier exactly if it was called by that very one, or if nothing was written.
-/

namespace DocBrowser.Editing

open Store (field?_under get_eq_ok hasId_eq_ok_true idKey update_eq_ok)

/-- Whether the document that is found under an identifier holds a certain one. -/
def Carries (store : Store) (id own : Value) : Prop :=
  ∃ found, store.get id = .ok found ∧ field? found idKey = some own

/-- A document that has been written under an identifier holds no other. -/
theorem carries_iff_of_get {store : Store} {id own : Value} {doc : Document}
    (hget : store.get id = .ok (under id doc)) : Carries store id own ↔ id = own := by
  simp [Carries, hget, field?_under]

section

variable {store : Store} {id own : Value} {doc : Document} (hget : store.get id = .ok doc)
  (hown : field? doc idKey = some own) (hid : id.WellFormed) (hwf : own.WellFormed)

include hget hown hid hwf

/-- An identifier under which a document is found is equal to itself. -/
theorem equal_self_of_get : id.equal id = .ok true := by
  obtain ⟨front, back, hsplit⟩ := get_eq_ok.1 hget
  obtain ⟨held, hheld, hequal⟩ := hasId_eq_ok_true.1 hsplit.found
  cases hown.symm.trans hheld
  exact Value.equal_trans (Value.equal_symm hwf hid hequal) hequal

/-- An update leaves its document under the identifier that it was called with. -/
theorem get_of_update (new : Document) :
    ∃ after, store.update id new = .ok after ∧ after.get id = .ok (under id new) := by
  obtain ⟨front, back, hsplit⟩ := get_eq_ok.1 hget
  have hitself := equal_self_of_get hget hown hid hwf
  exact ⟨_, update_eq_ok.2 ⟨front, doc, back, hsplit, rfl⟩, get_replaced hsplit hitself new⟩

end

/--
The document under an identifier keeps the one it holds exactly if it is updated under that very identifier, and
exactly if it is edited under that very identifier or the edit writes nothing, whatever the new document says.
-/
theorem carries_update_edit_iff {store : Store} {id own : Value} {doc : Document} (hget : store.get id = .ok doc)
    (hown : field? doc idKey = some own) (hid : id.WellFormed) (hwf : own.WellFormed) :
    (∀ new, ∃ after, store.update id new = .ok after ∧ (Carries after id own ↔ id = own)) ∧
    ∀ options editor, Carries (edit options editor id store).2 id own ↔
      id = own ∨ ∀ written, (edit options editor id store).1 ≠ .ok (some written) := by
  have hcarries : Carries store id own := ⟨doc, hget, hown⟩
  refine ⟨fun new => ?_, fun options editor => ?_⟩
  · obtain ⟨after, hupdate, hafter⟩ := get_of_update hget hown hid hwf new
    exact ⟨after, hupdate, carries_iff_of_get hafter⟩
  · obtain ⟨failure, h⟩ | h | ⟨front, found, back, changed, hsplit, -, h⟩ := edit_cases options editor id store
    · simpa [h] using hcarries
    · simpa [h] using hcarries
    · have hafter := get_replaced hsplit (equal_self_of_get hget hown hid hwf) changed
      rw [h, carries_iff_of_get hafter]
      simp

/-- The identifier of the document with a text, as a wide number. -/
def wideId : Value := .int64 ⟨1, by decide, by decide⟩

theorem get_noteStore_wideId (text : String) : (noteStore text).get wideId = .ok (noteOf text) := by
  have hequal : noteId.equal wideId = .ok true := Value.equal_eq_ok_true.2 (.inl ⟨_, rfl, rfl⟩)
  exact get_eq_ok.2 ⟨[], [], rfl, hasId_eq_ok_true.2 ⟨noteId, rfl, hequal⟩, by simp⟩

/-- A number that is given as a wide one is a wide one behind an update. -/
theorem carries_update_edit_iff_wide :
    (noteStore "x y").get wideId = .ok (noteOf "x y") ∧ field? (noteOf "x y") idKey = some noteId ∧
    wideId.WellFormed ∧ noteId.WellFormed ∧
    ∃ after, (noteStore "x y").update wideId (noteOf "x z") = .ok after ∧ ¬ Carries after wideId noteId := by
  have hget := get_noteStore_wideId "x y"
  obtain ⟨after, hupdate, hcarries⟩ := (carries_update_edit_iff hget rfl trivial trivial).1 (noteOf "x z")
  refine ⟨hget, rfl, trivial, trivial, after, hupdate, fun h => ?_⟩
  cases hcarries.1 h

/-- A number that is given as a wide one is a wide one behind an edit that says it is not. -/
theorem not_carries_edit_wide :
    Carries (noteStore "x y") wideId noteId ∧
    (edit {} (fun _ => .ok (noteLine "x z")) wideId (noteStore "x y")).1 = .ok (some (under wideId (noteOf "x z"))) ∧
    ¬ Carries (edit {} (fun _ => .ok (noteLine "x z")) wideId (noteStore "x y")).2 wideId noteId := by
  have hget := get_noteStore_wideId "x y"
  have hsession := session_note draftOf_noteOf format_noteOf
  have hrevise : revise {} (fun _ => .ok (noteLine "x z")) (noteOf "x y") = .ok (.changed (noteOf "x z")) := by
    rw [hsession.revise, hsession.revision (by decide)]
    rfl
  obtain ⟨front, back, hsplit, hedit⟩ := edit_of_changed hget hrevise
  have hafter := get_replaced hsplit (@Value.equal_refl wideId trivial trivial) (noteOf "x z")
  -- the document is found under the wide id and written back under it
  refine ⟨⟨noteOf "x y", hget, rfl⟩, by rw [hedit], fun h => ?_⟩
  rw [hedit] at h
  cases (carries_iff_of_get hafter).1 h

/-! ## Runs of edits -/

/-- The identifiers in a store, in the order of its documents. -/
def heldIds (store : Store) : List (Option Value) := store.documents.map (field? · idKey)

/-- An edit that is called by the very identifier it finds leaves all identifiers as they are. -/
theorem heldIds_edit (options : Options) (editor : Editor) {id : Value} {store : Store}
    (hexact : ∀ own, some own ∈ heldIds store → own.equal id = .ok true → own = id) :
    heldIds (edit options editor id store).2 = heldIds store := by
  obtain ⟨failure, h⟩ | h | ⟨front, doc, back, changed, hsplit, -, h⟩ := edit_cases options editor id store
  · rw [h]
  · rw [h]
  · obtain ⟨own, hown, hequal⟩ := hasId_eq_ok_true.1 hsplit.found
    have hmem : some own ∈ heldIds store := by simp [heldIds, hsplit.eq_append, hown]
    cases hexact own hmem hequal
    simp [h, heldIds, hsplit.eq_append, hown, field?_under]

/-- The store behind edits, each with an editor and called by an identifier. -/
def editAll (options : Options) (edits : List (Editor × Value)) (store : Store) : Store :=
  edits.foldl (fun store call => (edit options call.1 call.2 store).2) store

/-- However often documents are edited under the very identifiers that are stored, these stay as they are. -/
theorem heldIds_editAll (options : Options) (edits : List (Editor × Value)) (store : Store)
    (hexact : ∀ call ∈ edits, ∀ own, some own ∈ heldIds store → own.equal call.2 = .ok true → own = call.2) :
    heldIds (editAll options edits store) = heldIds store := by
  induction edits generalizing store with
  | nil => rfl
  | cons call rest ih =>
    obtain ⟨hcall, hrest⟩ := List.forall_mem_cons.1 hexact
    have hfirst := heldIds_edit options call.1 hcall
    exact (ih _ (hfirst ▸ hrest)).trans hfirst

end DocBrowser.Editing
