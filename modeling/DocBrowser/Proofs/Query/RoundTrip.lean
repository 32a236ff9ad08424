import Mathlib
import DocBrowser.Query.Compile
import DocBrowser.Proofs.ExtendedJson.RoundTrip
import DocBrowser.Proofs.Failure
import DocBrowser.Proofs.Query.Shorthand
/-!
# Documents read back

A document that is written, on one line or over many, compiles to itself. Sorted keys come back in
their new order, and nothing else changes.
-/

namespace DocBrowser

open ExtendedJson (hasWrapperKey DatesFit arranged arrangedFields ordered encode_stands encode_clash)

namespace Query

/-! ## Text that asks for nothing -/

/-- Only an empty object is nothing but its braces. -/
theorem isBlank_write_obj {layout : Json.Layout} {fields : List (String × Json)} (h : fields ≠ []) :
    isBlank (Json.write ⟨layout, false⟩ (.obj fields)) = false := by
  obtain ⟨⟨key, value⟩, rest, rfl⟩ := List.exists_cons_of_ne_nil h
  have hquote : '"' ∈ Text.squeeze (Json.write ⟨layout, false⟩ (.obj ((key, value) :: rest))) := by
    rw [Text.squeeze, List.mem_filter]
    refine ⟨?_, by decide⟩
    rw [Json.write, Json.writeAt, Json.writeText_eq]
    simp
  simp only [isBlank, Bool.or_eq_false_iff, decide_eq_false_iff_not]
  constructor <;> intro hsqueeze <;> rw [hsqueeze] at hquote <;> simp at hquote

/-- Written data that stands for a document compiles to that document. -/
theorem compile_write {zone : Zone} {layout : Json.Layout} (hlayout : layout.Blank) {fields : List (String × Json)}
    {doc : Document} (h : ExtendedJson.Stands zone (.obj fields) (.document doc)) :
    compile zone (String.ofList (Json.write ⟨layout, false⟩ (.obj fields))) = .ok doc := by
  rw [compile, String.toList_ofList]
  by_cases hfields : fields = []
  · -- empty braces ask for nothing, which is the empty document as well
    subst hfields
    have hdecode := h.decodes
    rw [ExtendedJson.decode] at hdecode
    cases hdecode
    rfl
  · rw [isBlank_write_obj hfields, if_neg Bool.false_ne_true, Shorthand.expand_write hlayout h.readable]
    simp only [resolve, Json.parse, Json.parseWith_write hlayout h.readable, h.decodes]

end Query

/-- Laying out written data over many lines keeps the data. -/
theorem Json.indent_compactText {data : Json} (h : data.Readable) :
    Json.indent data.compactText = .ok data.indentedText := by
  rw [indent, parse, compactText, parseWith_write Layout.compact_blank h]

namespace Document

/-- What is written of a document is an object. -/
theorem encode_eq_obj {doc : Document} {sortKeys : Bool} {data : Json} (h : doc.encode sortKeys = .ok data) :
    ∃ fields, data = .obj fields := by
  obtain ⟨-, fields, -, rfl⟩ := ExtendedJson.encode_document_eq_ok.1 h
  exact ⟨fields, rfl⟩

section

variable {doc : Document} (hwf : (Value.document doc).WellFormed) (hdates : DatesFit (.document doc)) (sortKeys : Bool)

include hwf hdates

/-! ## Documents that are written -/

/-- A document without keys of wrappers is written as an object that stands for it. -/
theorem encode_eq_ok (zone : Zone) (h : hasWrapperKey (.document doc) = false) :
    ∃ fields, doc.encode sortKeys = .ok (.obj fields) ∧
      ExtendedJson.Stands zone (.obj fields) (.document (ordered sortKeys (arrangedFields sortKeys doc))) := by
  obtain ⟨data, hdata, hstands⟩ := encode_stands zone sortKeys (.document doc) hwf hdates h
  rw [arranged] at hstands
  obtain ⟨fields, rfl⟩ := encode_eq_obj hdata
  exact ⟨fields, hdata, hstands⟩

/-- Both forms of a document are written, or both are refused. -/
theorem format_render_cases :
    (hasWrapperKey (.document doc) = true ∧
      ∃ keys, doc.format sortKeys = .error (.clash keys) ∧ doc.render sortKeys = .error (.clash keys)) ∨
    (hasWrapperKey (.document doc) = false ∧ ∃ fields, doc.encode sortKeys = .ok (.obj fields) ∧
      doc.format sortKeys = .ok (Json.compactText (.obj fields)) ∧
      doc.render sortKeys = .ok (Json.indentedText (.obj fields)) ∧
      ∀ zone, ExtendedJson.Stands zone (.obj fields)
        (.document (ordered sortKeys (arrangedFields sortKeys doc)))) := by
  cases h : hasWrapperKey (.document doc) with
  | true =>
    obtain ⟨keys, hkeys⟩ := encode_clash sortKeys (.document doc) hwf h
    have hformat : doc.format sortKeys = .error (.clash keys) := by
      rw [format, encode, hkeys]
      rfl
    refine .inl ⟨rfl, keys, hformat, ?_⟩
    rw [render, hformat]
    rfl
  | false =>
    obtain ⟨fields, hfields, hstands⟩ := encode_eq_ok hwf hdates sortKeys .utc h
    have hformat : doc.format sortKeys = .ok (Json.compactText (.obj fields)) := by
      rw [format, hfields]
      rfl
    refine .inr ⟨rfl, fields, hfields, hformat, ?_, fun zone => ?_⟩
    · rw [render, hformat]
      exact Json.indent_compactText hstands.readable
    · -- the zone plays no part in writing, so the fields are the same in all of them
      obtain ⟨fields', hfields', hstands'⟩ := encode_eq_ok hwf hdates sortKeys zone h
      rw [hfields, Except.ok.injEq, Json.obj.injEq] at hfields'
      exact hfields' ▸ hstands'

/--
Writing a document fails exactly where a document in it has a key of wrappers, and what is written
compiles in every zone to the same document, with its keys in their order unless they were sorted.
-/
theorem compile_format_or_render (zone : Zone) :
    ((∃ refusal, doc.format sortKeys = .error refusal) ↔ hasWrapperKey (.document doc) = true) ∧
    ((∃ refusal, doc.render sortKeys = .error refusal) ↔ hasWrapperKey (.document doc) = true) ∧
    ∀ text, doc.format sortKeys = .ok text ∨ doc.render sortKeys = .ok text →
      ∃ doc', Query.compile zone (String.ofList text) = .ok doc' ∧ Alike (.document doc) (.document doc') ∧
        (sortKeys = false → doc' = doc) := by
  rcases format_render_cases hwf hdates sortKeys with
    ⟨hkey, keys, hformat, hrender⟩ | ⟨hkey, fields, -, hformat, hrender, hstands⟩
  · simp [hkey, hformat, hrender]
  · refine ⟨by simp [hkey, hformat], by simp [hkey, hrender], fun text htext => ?_⟩
    -- on one line or over many, what is written is the same data in a layout of white space
    have hwritten : ∃ layout : Json.Layout, layout.Blank ∧ text = Json.write ⟨layout, false⟩ (.obj fields) := by
      rcases htext with htext | htext
      · rw [hformat, Except.ok.injEq] at htext
        exact ⟨.compact, Json.Layout.compact_blank, htext.symm⟩
      · rw [hrender, Except.ok.injEq] at htext
        exact ⟨.indented, Json.Layout.indented_blank, htext.symm⟩
    obtain ⟨layout, hlayout, rfl⟩ := hwritten
    refine ⟨_, Query.compile_write hlayout (hstands zone), ?_, ?_⟩
    · have halike := ExtendedJson.alike_arranged sortKeys (.document doc)
      rwa [arranged] at halike
    · rintro rfl
      rw [ExtendedJson.arrangedFields_false]
      rfl

end

/-- A document with two keys reads back with the keys in their order. -/
theorem compile_format_or_render_two_keys :
    (Value.document [("b", .minKey), ("a", .null)]).WellFormed ∧ DatesFit (.document [("b", .minKey), ("a", .null)]) ∧
    Query.compile .utc (String.ofList "\x7b\"b\":\x7b\"$minKey\":1\x7d,\"a\":null\x7d".toList) =
      .ok [("b", .minKey), ("a", .null)] := by
  have hwf : (Value.document [("b", .minKey), ("a", .null)]).WellFormed := by
    simp [Value.WellFormed, Value.WellFormedFields, keysOf]
  have hdates : DatesFit (.document [("b", .minKey), ("a", .null)]) := by
    simp [DatesFit, ExtendedJson.DatesFitFields]
  have hformat : format false [("b", .minKey), ("a", .null)] =
      .ok "\x7b\"b\":\x7b\"$minKey\":1\x7d,\"a\":null\x7d".toList := by rfl
  obtain ⟨doc', hcompile, -, hsame⟩ := (compile_format_or_render hwf hdates false .utc).2.2 _ (.inl hformat)
  exact ⟨hwf, hdates, hsame rfl ▸ hcompile⟩

end Document

end DocBrowser
