import Mathlib
import DocBrowser.Proofs.ExtendedJson.Parts
import DocBrowser.Proofs.Value.Equality
/-!
# Data with a NaN of its own

All data that spells a NaN double as `NaN` shares one object for it, and that is equal to itself. A NaN that is
spelled otherwise is a new object whenever it is read, and no double is equal to it. What is written of a value has
the first spelling only.
-/

namespace DocBrowser.ExtendedJson

/-- Whether a double in data, at any depth, is a NaN that is not spelled `NaN`. -/
inductive OwnNan : Json → Prop where
  | double {text : String} (nan : Double.ofText? text.toList = some .nan) (other : text ≠ "NaN") :
      OwnNan (wrapper "$numberDouble" (.str text))
  | item {items : List Json} {item : Json} (mem : item ∈ items) (own : OwnNan item) : OwnNan (.arr items)
  | field {fields : List (String × Json)} {field : String × Json} (mem : field ∈ fields) (own : OwnNan field.2) :
      OwnNan (.obj fields)

theorem not_ownNan_str (text : String) : ¬ OwnNan (.str text) := nofun

theorem not_ownNan_fields {fields : List (String × Json)} (hkeys : "$numberDouble" ∉ keysOf fields)
    (h : ∀ field ∈ fields, ¬ OwnNan field.2) : ¬ OwnNan (.obj fields) := by
  intro hown
  cases hown with
  | double => exact hkeys List.mem_cons_self
  | field mem own => exact h _ mem own

theorem not_ownNan_wrapper {key : String} {payload : Json} (hkey : key ≠ "$numberDouble") (h : ¬ OwnNan payload) :
    ¬ OwnNan (wrapper key payload) := by
  refine not_ownNan_fields (fun hmem => hkey (List.mem_singleton.1 hmem).symm) fun field hfield => ?_
  rwa [List.mem_singleton.1 hfield]

theorem not_ownNan_texts {key key' text text' : String} (hkey : key ≠ "$numberDouble") (hkey' : key' ≠ "$numberDouble") :
    ¬ OwnNan (.obj [(key, .str text), (key', .str text')]) := by
  refine not_ownNan_fields (by simp [keysOf, hkey.symm, hkey'.symm]) fun field hfield => ?_
  simp only [List.mem_cons, List.not_mem_nil, or_false] at hfield
  rcases hfield with rfl | rfl <;> exact not_ownNan_str _

theorem not_ownNan_ofMillis (millis : ℤ) : ¬ OwnNan (ofMillis millis) := by
  unfold ofMillis
  split
  · exact not_ownNan_wrapper (by decide) (not_ownNan_str _)
  · exact not_ownNan_wrapper (by decide) (not_ownNan_wrapper (by decide) (not_ownNan_str _))

theorem not_ownNan_spelled {text : String} (h : text = "NaN" ∨ Double.ofText? text.toList ≠ some .nan) :
    ¬ OwnNan (wrapper "$numberDouble" (.str text)) := by
  intro hown
  cases hown with
  | double nan other => exact h.elim other fun hnot => hnot nan
  | field mem own =>
    rw [List.mem_singleton.1 mem] at own
    exact not_ownNan_str _ own

theorem not_ownNan_ofDouble (d : Double) : ¬ OwnNan (ofDouble d) := by
  cases d with
  | nan => exact not_ownNan_spelled (.inl rfl)
  | infinite negative => cases negative <;> exact not_ownNan_spelled (.inr (by decide))
  | finite negative place => nofun

theorem not_ownNan_encode_bare (sortKeys : Bool) {value : Value} (hbare : value.isNested = false) {data : Json}
    (h : encode sortKeys value = .ok data) : ¬ OwnNan data := by
  cases value with
  | array | document => cases hbare
  | foreign => cases h
  | null | bool | int32 | string =>
    cases h
    nofun
  | double d =>
    cases h
    exact not_ownNan_ofDouble d
  | dateTime millis =>
    cases h
    exact not_ownNan_ofMillis millis
  | int64 | decimal | objectId =>
    cases h
    exact not_ownNan_wrapper (by decide) (not_ownNan_str _)
  | binary | regex =>
    cases h
    exact not_ownNan_wrapper (by decide) (not_ownNan_texts (by decide) (by decide))
  | minKey | maxKey =>
    cases h
    exact not_ownNan_wrapper (by decide) nofun

/-- What is written of a value has no NaN of its own. -/
theorem not_ownNan_encode (sortKeys : Bool) (value : Value) {data : Json} (h : encode sortKeys value = .ok data) :
    ¬ OwnNan data := by
  induction value using Value.parts_induction generalizing data with
  | step value ih =>
    cases value with
    | array items =>
      obtain ⟨written, hwritten, rfl⟩ := encode_array_eq_ok.1 h
      intro hown
      cases hown with
      | item mem own =>
        obtain ⟨item, hitem, hencode⟩ := exists_of_forall₂_of_mem hwritten.flip mem
        exact ih item hitem hencode own
    | document fields =>
      obtain ⟨hplain, written, hwritten, rfl⟩ := encode_document_eq_ok.1 h
      have hkeys : "$numberDouble" ∉ keysOf written := by
        intro hmem
        obtain ⟨field, hfield, hkey⟩ := List.mem_map.1 ((keysOf_perm_of_becomes hwritten).mem_iff.1 hmem)
        have hfree : ¬ isWrapperKey field.1 = true := List.any_eq_false.1 hplain field hfield
        exact hfree (hkey ▸ by decide)
      refine not_ownNan_fields hkeys fun field' hfield' => ?_
      obtain ⟨field, hfield, -, hencode⟩ := exists_of_forall₂_of_mem hwritten.flip hfield'
      exact ih _ (Value.mem_parts_document ((ordered_perm sortKeys fields).mem_iff.1 hfield)) hencode
    | _ => exact not_ownNan_encode_bare sortKeys rfl h

end DocBrowser.ExtendedJson
