import Mathlib
import DocBrowser.Proofs.ExtendedJson.ReadBack
/-!
# Documents with a rendering

A document is rendered exactly if no document in it has a key of wrappers. Such a document stays one when
it loses fields, and when it gets an identifier.
-/

namespace DocBrowser

namespace ExtendedJson

/-- A document can be written if its own keys are distinct and none of wrappers, and its values can be written. -/
theorem writable_document_iff {fields : Document} :
    Writable (.document fields) ↔
      (keysOf fields).Nodup ∧ (∀ key ∈ keysOf fields, isWrapperKey key = false) ∧ ∀ field ∈ fields, Writable field.2 := by
  have hkeys : fields.any (isWrapperKey ·.1) = false ↔ ∀ key ∈ keysOf fields, isWrapperKey key = false := by
    simp [keysOf]
  constructor
  · intro h
    have hplain := (hasWrapperKey_document_eq_false.1 h.plain).1
    exact ⟨h.wellFormed.1, hkeys.1 hplain, fun field hfield => h.part (Value.mem_parts_document hfield)⟩
  · rintro ⟨hnodup, hplain, hvalues⟩
    exact writable_document hnodup (hkeys.2 hplain) hvalues

end ExtendedJson

/-- Whether a document is well-formed and has a rendering. -/
def Document.Renders (sortKeys : Bool) (doc : Document) : Prop :=
  (Value.document doc).WellFormed ∧ ∃ text, doc.render sortKeys = .ok text

namespace ExtendedJson

/-- Documents have renderings exactly where they can be written, whether or not keys are sorted. -/
theorem writable_iff_renders (sortKeys : Bool) {doc : Document} :
    Writable (.document doc) ↔ doc.Renders sortKeys := by
  constructor
  · intro h
    obtain ⟨data, hdata⟩ : ∃ data, encode sortKeys (.document doc) = .ok data := h.encode
    exact ⟨h.wellFormed, _, Document.render_of_encode hdata (readable_encode sortKeys _ h.wellFormed hdata)⟩
  · rintro ⟨hwf, text, htext⟩
    rw [Document.render] at htext
    obtain ⟨line, hline, -⟩ := bind_eq_ok.1 htext
    obtain ⟨data, hdata, -⟩ := map_eq_ok.1 hline
    exact ⟨hwf, plain_of_encode hdata⟩

/-! ## Other documents -/

/-- A document that has lost keys can be written if its values can. -/
theorem Writable.lose {fields left : Document} (h : Writable (.document fields))
    (hkeys : (keysOf left).Sublist (keysOf fields)) (hvalues : ∀ field ∈ left, Writable field.2) :
    Writable (.document left) := by
  obtain ⟨hnodup, hplain, -⟩ := writable_document_iff.1 h
  exact writable_document_iff.2 ⟨hnodup.sublist hkeys, fun key hkey => hplain key (hkeys.mem hkey), hvalues⟩

theorem Writable.eraseField {doc : Document} (h : Writable (.document doc)) (key : String) :
    Writable (.document (DocBrowser.eraseField doc key)) := by
  refine h.lose ?_ fun field hfield => h.part (Value.mem_parts_document (List.mem_of_mem_filter hfield))
  rw [keysOf_eraseField]
  exact List.filter_sublist

theorem Writable.field? {doc : Document} (h : Writable (.document doc)) {key : String} {value : Value}
    (hvalue : DocBrowser.field? doc key = some value) : Writable value :=
  h.part (Value.mem_parts_document (mem_of_field?_eq_some hvalue))

/-- A document without a key can be written with that key in front. -/
theorem Writable.cons {doc : Document} (h : Writable (.document doc)) {key : String} {value : Value}
    (hkey : key ∉ keysOf doc) (hplain : isWrapperKey key = false) (hvalue : Writable value) :
    Writable (.document ((key, value) :: doc)) := by
  obtain ⟨hnodup, hkeys, hvalues⟩ := writable_document_iff.1 h
  exact writable_document_iff.2
    ⟨List.nodup_cons.2 ⟨hkey, hnodup⟩, List.forall_mem_cons.2 ⟨hplain, hkeys⟩, List.forall_mem_cons.2 ⟨hvalue, hvalues⟩⟩

end ExtendedJson

end DocBrowser
