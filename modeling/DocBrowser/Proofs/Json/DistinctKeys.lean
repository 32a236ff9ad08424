import Mathlib
import DocBrowser.Proofs.Json.Assembled
/-!
# Keys of data that was read

A key that is set again keeps its place, so whatever text was read, the keys of every object in it
are distinct.
-/

namespace DocBrowser

namespace Json

/-! ## Distinct keys -/

mutual

/-- Keys are distinct at every level. -/
def DistinctKeys : Json → Prop
  | .arr items => DistinctKeysItems items
  | .obj fields => (keysOf fields).Nodup ∧ DistinctKeysFields fields
  | _ => True

@[inherit_doc DistinctKeys]
def DistinctKeysItems : List Json → Prop
  | [] => True
  | item :: rest => DistinctKeys item ∧ DistinctKeysItems rest

@[inherit_doc DistinctKeys]
def DistinctKeysFields : List (String × Json) → Prop
  | [] => True
  | (_, value) :: rest => DistinctKeys value ∧ DistinctKeysFields rest

end

theorem distinctKeysItems_iff {items : List Json} : DistinctKeysItems items ↔ ∀ item ∈ items, item.DistinctKeys := by
  induction items with
  | nil => simp [DistinctKeysItems]
  | cons item rest ih => simp [DistinctKeysItems, ih]

theorem distinctKeysFields_iff {fields : List (String × Json)} :
    DistinctKeysFields fields ↔ ∀ field ∈ fields, field.2.DistinctKeys := by
  induction fields with
  | nil => simp [DistinctKeysFields]
  | cons field rest ih => simp [DistinctKeysFields, ih]

/-- Setting a field of an object keeps keys distinct. -/
theorem distinctKeys_setField {fields : List (String × Json)} {value : Json} (key : String)
    (h : (obj fields).DistinctKeys) (hvalue : value.DistinctKeys) :
    (obj (setField fields key value)).DistinctKeys := by
  refine ⟨nodup_keysOf_setField key value h.1, distinctKeysFields_iff.2 fun field hfield => ?_⟩
  rcases mem_setField hfield with heq | hmem
  · exact heq ▸ hvalue
  · exact distinctKeysFields_iff.1 h.2 field hmem

/-- Keys are distinct in data as soon as they are in its parts. -/
theorem inherited_distinctKeys (strictness : Strictness) : Inherited strictness DistinctKeys where
  atom hatom := by cases hatom <;> trivial
  arr hitems := distinctKeysItems_iff.2 hitems
  empty := ⟨List.nodup_nil, trivial⟩
  setField := distinctKeys_setField

/-- Data that was read has distinct keys at every level. -/
theorem distinctKeys_of_parseWith {strictness : Strictness} {cs : List Char} {data : Json}
    (h : parseWith strictness cs = .ok data) : data.DistinctKeys := (inherited_distinctKeys strictness).of_parseWith h

end Json

end DocBrowser
