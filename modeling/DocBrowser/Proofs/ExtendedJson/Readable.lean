import Mathlib
import DocBrowser.Proofs.Query.RoundTrip
/-!
# Rendered documents

Whatever is written can be read as JSON, also where a date is too far away to be read as a date. A
rendered document is the data of an object, laid out over many lines.
-/

namespace DocBrowser

namespace ExtendedJson

theorem readable_wrapper (key : String) {payload : Json} (h : payload.Readable) : (wrapper key payload).Readable :=
  ⟨by simp [keysOf], h, trivial⟩

theorem readable_ofMillis (millis : ℤ) : (ofMillis millis).Readable := by
  unfold ofMillis
  split
  · exact readable_wrapper _ trivial
  · exact readable_wrapper _ (readable_wrapper _ trivial)

/-- A value without parts is written as data that can be read. -/
theorem readable_encode_bare (sortKeys : Bool) {value : Value} (hwf : value.WellFormed) (hbare : value.isNested = false)
    {data : Json} (h : encode sortKeys value = .ok data) : data.Readable := by
  cases value with
  | array | document => cases hbare
  | foreign => exact hwf.elim
  | _ =>
    rw [encode, Except.ok.injEq] at h
    subst h
    -- in the order of the constructors, each with the lemma for what it is written as
    first
      | exact trivial
      | exact (stands_int32 .utc _).readable
      | exact (stands_int64 .utc _).readable
      | exact (stands_double .utc _).readable
      | exact (stands_decimal .utc hwf).readable
      | exact (stands_objectId .utc _).readable
      | exact readable_ofMillis _
      | exact (stands_binary .utc _ _).readable
      | exact (stands_regex .utc _ _).readable
      | exact readable_wrapper _ readable_one

/-- What is written of a value can be read. -/
theorem readable_encode (sortKeys : Bool) (value : Value) (hwf : value.WellFormed) {data : Json}
    (h : encode sortKeys value = .ok data) : data.Readable := by
  induction value using Value.parts_induction generalizing data with
  | step value ih =>
    cases value with
    | array items =>
      obtain ⟨written, hwritten, rfl⟩ := encode_array_eq_ok.1 h
      apply Json.readableItems_iff.2
      intro data hdata
      obtain ⟨item, hitem, hencode⟩ := exists_of_forall₂_of_mem hwritten.flip hdata
      exact ih item hitem (hwf.part hitem) hencode
    | document fields =>
      obtain ⟨-, written, hwritten, rfl⟩ := encode_document_eq_ok.1 h
      -- sorting changes the order of the keys, not which keys there are
      refine ⟨(keysOf_perm_of_becomes hwritten).nodup_iff.2 hwf.1, Json.readableFields_iff.2 fun field' hfield' => ?_⟩
      obtain ⟨field, hfield, -, hencode⟩ := exists_of_forall₂_of_mem hwritten.flip hfield'
      have hpart := Value.mem_parts_document ((ordered_perm sortKeys fields).mem_iff.1 hfield)
      exact ih _ hpart (hwf.part hpart) hencode
    | _ => exact readable_encode_bare sortKeys hwf rfl h

end ExtendedJson

theorem Document.format_of_encode {doc : Document} {sortKeys : Bool} {data : Json} (h : doc.encode sortKeys = .ok data) :
    doc.format sortKeys = .ok data.compactText := by
  rw [format, h]
  rfl

/-- Data that is written for a document is laid out over many lines. -/
theorem Document.render_of_encode {doc : Document} {sortKeys : Bool} {data : Json} (h : doc.encode sortKeys = .ok data)
    (hreadable : data.Readable) : doc.render sortKeys = .ok data.indentedText := by
  rw [render, format_of_encode h]
  exact Json.indent_compactText hreadable

/-- A document that is rendered is the data of an object over many lines. -/
theorem Document.render_eq_ok {doc : Document} (hwf : (Value.document doc).WellFormed) {sortKeys : Bool}
    {text : List Char} (h : doc.render sortKeys = .ok text) :
    ∃ fields, text = (Json.obj fields).indentedText ∧ (Json.obj fields).Readable := by
  rw [render] at h
  obtain ⟨line, hline, hindent⟩ := bind_eq_ok.1 h
  obtain ⟨data, hdata, rfl⟩ := map_eq_ok.1 hline
  have hreadable := ExtendedJson.readable_encode sortKeys (.document doc) hwf hdata
  rw [Json.indent_compactText hreadable, Except.ok.injEq] at hindent
  obtain ⟨fields, rfl⟩ := encode_eq_obj hdata
  exact ⟨fields, hindent.symm, hreadable⟩

end DocBrowser
