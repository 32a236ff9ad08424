import Mathlib
import DocBrowser.ExtendedJson.Decode
import DocBrowser.Proofs.ExtendedJson.KeyOrder
import DocBrowser.Proofs.Failure
/-!
# Extended JSON part by part

Items and fields are written and decoded one by one, each by itself and all in their order. So arrays and
documents, and the data of both, are told by what their parts are written as or decode to.
-/

namespace DocBrowser.ExtendedJson

/-! ## Keys of wrappers -/

theorem clashingKeys_eq_nil_iff (fields : Document) :
    clashingKeys fields = [] ↔ fields.any (fun (key, _) => isWrapperKey key) = false := by
  simp only [clashingKeys, List.filter_eq_nil_iff, hasField, List.any_eq_true, decide_eq_true_eq,
    List.any_eq_false, isWrapperKey, List.contains_eq_mem, not_exists, not_and]
  constructor
  · exact fun h field hfield hmem => h _ hmem field hfield rfl
  · rintro h key hmem field hfield rfl
    exact h field hfield hmem

/-- Which keys there are tells whether one of them is a key of wrappers. -/
theorem any_isWrapperKey_of_perm {α β : Type} {fields : List (String × α)} {fields' : List (String × β)}
    (h : (keysOf fields).Perm (keysOf fields')) :
    fields.any (fun (key, _) => isWrapperKey key) = fields'.any (fun (key, _) => isWrapperKey key) := by
  have hany := h.any_eq (f := isWrapperKey)
  rwa [keysOf, keysOf, List.any_map, List.any_map] at hany

/-! ## Fields computed one by one -/

section

variable {ε α β : Type} {f : α → Except ε β} {fields : List (String × α)} {fields' : List (String × β)}

/-- A field becomes another one: it keeps its key, and its value becomes what is computed of it. -/
def Becomes (f : α → Except ε β) (field : String × α) (field' : String × β) : Prop :=
  field'.1 = field.1 ∧ f field.2 = .ok field'.2

theorem mapM_fields_eq_ok :
    (fields.mapM fun field => (f field.2).map (field.1, ·)) = .ok fields' ↔ List.Forall₂ (Becomes f) fields fields' := by
  have hfield : (fun (field : String × α) (field' : String × β) => (f field.2).map (field.1, ·) = .ok field') =
      Becomes f := by
    funext field field'
    rw [map_eq_ok, Becomes]
    exact propext ⟨fun ⟨value, hvalue, h⟩ => h ▸ ⟨rfl, hvalue⟩, fun ⟨hkey, hvalue⟩ => ⟨_, hvalue, hkey ▸ rfl⟩⟩
  rw [mapM_eq_ok, hfield]

theorem keysOf_eq_of_becomes (h : List.Forall₂ (Becomes f) fields fields') : keysOf fields' = keysOf fields := by
  induction h with
  | nil => rfl
  | cons hfirst _ ih =>
    rw [keysOf, keysOf] at ih ⊢
    rw [List.map_cons, List.map_cons, hfirst.1, ih]

/-- Sorting first changes the order of the keys, not which keys there are. -/
theorem keysOf_perm_of_becomes {sortKeys : Bool} (h : List.Forall₂ (Becomes f) (ordered sortKeys fields) fields') :
    (keysOf fields').Perm (keysOf fields) :=
  keysOf_eq_of_becomes h ▸ (ordered_perm sortKeys fields).map _

end

/-! ## What is written of parts -/

section

variable {sortKeys : Bool}

theorem encodeFields_eq_map (sortKeys : Bool) (fields : Document) :
    encodeFields sortKeys fields = fields.map fun field => (field.1, encode sortKeys field.2) := by
  induction fields with
  | nil => rw [encodeFields, List.map_nil]
  | cons field rest ih => rw [encodeFields, List.map_cons, ih]

theorem ordered_encodeFields (sortKeys : Bool) (fields : Document) :
    ordered sortKeys (encodeFields sortKeys fields) =
      (ordered sortKeys fields).map fun field => (field.1, encode sortKeys field.2) := by
  rw [encodeFields_eq_map]
  exact ordered_map sortKeys _ fields

theorem encodeItems_eq_mapM (items : List Value) : encodeItems sortKeys items = items.mapM (encode sortKeys) := by
  induction items with
  | nil =>
    rw [encodeItems]
    rfl
  | cons item rest ih =>
    rw [encodeItems, List.mapM_cons, ih]
    rfl

theorem allFields_eq_mapM (fields : Document) :
    allFields (fields.map fun field => (field.1, encode sortKeys field.2)) =
      fields.mapM fun field => (encode sortKeys field.2).map (field.1, ·) := by
  induction fields with
  | nil =>
    rw [List.map_nil, allFields]
    rfl
  | cons field rest ih =>
    rw [List.map_cons, allFields, List.mapM_cons, ih]
    cases encode sortKeys field.2 <;> rfl

/-- An array is written exactly if all of its items are. -/
theorem encode_array_eq_ok {items : List Value} {data : Json} : encode sortKeys (.array items) = .ok data ↔
    ∃ written, List.Forall₂ (fun item data => encode sortKeys item = .ok data) items written ∧ .arr written = data := by
  rw [encode, map_eq_ok, encodeItems_eq_mapM]
  simp only [mapM_eq_ok]

/-- A document is written exactly if none of its own keys is one of wrappers and all of its values are written. -/
theorem encode_document_eq_ok {fields : Document} {data : Json} : encode sortKeys (.document fields) = .ok data ↔
    fields.any (fun (key, _) => isWrapperKey key) = false ∧
      ∃ written, List.Forall₂ (Becomes (encode sortKeys)) (ordered sortKeys fields) written ∧ .obj written = data := by
  rw [encode, ← clashingKeys_eq_nil_iff]
  split
  · rename_i hclash
    rw [map_eq_ok, ordered_encodeFields, allFields_eq_mapM]
    simp only [mapM_fields_eq_ok, hclash, true_and]
  · rename_i hclash
    exact iff_of_false nofun fun h => hclash h.1

/-- An array is refused for an item of it. -/
theorem exists_of_encode_array_eq_error {items : List Value} {refusal : Refusal}
    (h : encode sortKeys (.array items) = .error refusal) : ∃ item ∈ items, encode sortKeys item = .error refusal := by
  rw [encode, map_eq_error, encodeItems_eq_mapM] at h
  exact exists_of_mapM_eq_error h

/-- A document is refused for its own keys or for a value of it. -/
theorem encode_document_eq_error_cases {fields : Document} {refusal : Refusal}
    (h : encode sortKeys (.document fields) = .error refusal) :
    (fields.any (fun (key, _) => isWrapperKey key) = true ∧ ∃ keys, refusal = .clash keys) ∨
      ∃ field ∈ fields, encode sortKeys field.2 = .error refusal := by
  rw [encode] at h
  split at h
  · rw [map_eq_error, ordered_encodeFields, allFields_eq_mapM] at h
    obtain ⟨field, hfield, hrefused⟩ := exists_of_mapM_eq_error h
    exact .inr ⟨field, (ordered_perm sortKeys fields).mem_iff.1 hfield, map_eq_error.1 hrefused⟩
  · rename_i hclash
    cases h
    rw [clashingKeys_eq_nil_iff] at hclash
    exact .inl ⟨Bool.eq_true_of_not_eq_false hclash, _, rfl⟩

/-- What is written of a document is a wrapper exactly if a key of the document is one of wrappers. -/
theorem isWrapper_of_becomes {fields : Document} {written : List (String × Json)}
    (h : List.Forall₂ (Becomes (encode sortKeys)) (ordered sortKeys fields) written) :
    isWrapper written = fields.any fun (key, _) => isWrapperKey key :=
  any_isWrapperKey_of_perm (keysOf_perm_of_becomes h)

end

/-! ## What parts decode to -/

section

variable {zone : Zone}

theorem decodeItems_eq_mapM (items : List Json) : decodeItems zone items = items.mapM (decode zone) := by
  induction items with
  | nil => rfl
  | cons item rest ih => rw [decodeItems, List.mapM_cons, ih]; rfl

theorem decodeFields_eq_mapM (fields : List (String × Json)) :
    decodeFields zone fields = fields.mapM fun field => (decode zone field.2).map (field.1, ·) := by
  induction fields with
  | nil => rfl
  | cons field rest ih =>
    rw [decodeFields, List.mapM_cons, ih]
    cases decode zone field.2 <;> rfl

/-- The data of an array decodes exactly if all of its items do. -/
theorem decode_arr_eq_ok {items : List Json} {value : Value} : decode zone (.arr items) = .ok value ↔
    ∃ values, List.Forall₂ (fun item value => decode zone item = .ok value) items values ∧ .array values = value := by
  rw [decode, map_eq_ok, decodeItems_eq_mapM]
  simp only [mapM_eq_ok]

/-- An object that is no wrapper decodes exactly if all of its values do. -/
theorem decode_obj_eq_ok {fields : List (String × Json)} (hplain : isWrapper fields = false) {value : Value} :
    decode zone (.obj fields) = .ok value ↔
      ∃ doc, List.Forall₂ (Becomes (decode zone)) fields doc ∧ .document doc = value := by
  rw [decode, hplain, if_neg Bool.false_ne_true, map_eq_ok, decodeFields_eq_mapM]
  simp only [mapM_fields_eq_ok]

end

end DocBrowser.ExtendedJson
