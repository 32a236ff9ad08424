import Mathlib
import DocBrowser.Proofs.Editing.Renderable
import DocBrowser.Proofs.Query.Closed
import DocBrowser.Proofs.Query.Recompile
import DocBrowser.Proofs.Store.Answers
/-!
# Queries that are answered

A query on documents that were compiled from text is answered with documents or with a report about its text
or one of its options. Four things keep it from an answer: a number in a call that is too long to be
converted, a part of a path whose digits are no position, a signaling NaN that is compared, and a pattern
that is refused in another way than by a report.
-/

namespace DocBrowser

open ExtendedJson (DatesFit Writable)

/-! ## Texts -/

namespace Query

theorem nativeRegexInItems_eq_map (items : List Value) : nativeRegexInItems items = items.map nativeRegexIn := by
  induction items with
  | nil => rfl
  | cons item rest ih => rw [nativeRegexInItems, ih, List.map_cons]

theorem nativeRegexInFields_eq_map (fields : Document) :
    nativeRegexInFields fields = fields.map fun field => (field.1, nativeRegexInField field.1 field.2) := by
  induction fields with
  | nil => rfl
  | cons field rest ih => rw [nativeRegexInFields, ih, List.map_cons]

end Query

namespace Store

/-- Whether a document is compiled from text, possibly with a fresh identifier in front. -/
def Compiled (doc : Document) : Prop :=
  ∃ zone text written, Query.compile zone text = .ok written ∧
    (doc = written ∨ field? written idKey = none ∧ ∃ id, doc = (idKey, .objectId id) :: written)

theorem Compiled.writable {doc : Document} (h : Compiled doc) : Writable (.document doc) := by
  obtain ⟨zone, text, written, hcompile, hdoc⟩ := h
  have hwritten := Query.writable_of_compile hcompile
  rcases hdoc with rfl | ⟨hkey, id, rfl⟩
  · exact hwritten
  · exact writable_idKey_cons hwritten hkey ⟨trivial, rfl⟩

end Store

end DocBrowser
