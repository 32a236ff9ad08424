import Mathlib
import DocBrowser.Proofs.Calendar.Timestamp
import DocBrowser.Proofs.ExtendedJson.Parts
import DocBrowser.Proofs.Json.Members
import DocBrowser.Proofs.Json.Reading
import DocBrowser.Proofs.Number.DecimalText
import DocBrowser.Proofs.Value.Equality
/-!
# Extended JSON read back

A value is refused exactly where one of its documents has a key of wrappers. All other values are
written as data that can be read, and decoding that gives the value back.
-/

namespace DocBrowser

/-- A whole number of at most 64 bits has few digits. -/
theorem Bounded.natAbs_lt {bits : ℕ} (hbits : bits ≤ 64) (b : Bounded bits) :
    b.value.natAbs < 10 ^ Text.digitLimit := by
  have hlow := b.low
  have hhigh := b.high
  have hpow : Nat.pow 2 (bits - 1) ≤ 2 ^ 63 := Nat.pow_le_pow_right (by norm_num) (by omega)
  calc b.value.natAbs ≤ 2 ^ 63 := by omega
    _ < 10 ^ 20 := by norm_num
    _ ≤ 10 ^ Text.digitLimit := Nat.pow_le_pow_right (by norm_num) (by decide)

theorem Bounded.ofInt?_value {bits : ℕ} (b : Bounded bits) : Bounded.ofInt? bits b.value = some b :=
  dif_pos ⟨b.low, b.high⟩

namespace ExtendedJson

mutual

/-- Whether a document at any depth of a value has a key of wrappers. -/
def hasWrapperKey : Value → Bool
  | .array items => hasWrapperKeyItems items
  | .document fields => fields.any (fun (key, _) => isWrapperKey key) || hasWrapperKeyFields fields
  | _ => false

@[inherit_doc hasWrapperKey]
def hasWrapperKeyItems : List Value → Bool
  | [] => false
  | item :: rest => hasWrapperKey item || hasWrapperKeyItems rest

@[inherit_doc hasWrapperKey]
def hasWrapperKeyFields : Document → Bool
  | [] => false
  | (_, value) :: rest => hasWrapperKey value || hasWrapperKeyFields rest

end

mutual

/-- All points in time of a value have milliseconds of at most 64 bits. -/
def DatesFit : Value → Prop
  | .dateTime millis => (Bounded.ofInt? 64 millis).isSome
  | .array items => DatesFitItems items
  | .document fields => DatesFitFields fields
  | _ => True

@[inherit_doc DatesFit]
def DatesFitItems : List Value → Prop
  | [] => True
  | item :: rest => DatesFit item ∧ DatesFitItems rest

@[inherit_doc DatesFit]
def DatesFitFields : Document → Prop
  | [] => True
  | (_, value) :: rest => DatesFit value ∧ DatesFitFields rest

end

/-! ## Wrappers -/

/-- Data is written for a value: it can be read, and decoding gives the value. -/
structure Stands (zone : Zone) (data : Json) (value : Value) : Prop where
  readable : data.Readable
  decodes : decode zone data = .ok value

theorem decode_wrapper (zone : Zone) {key : String} (hkey : isWrapperKey key = true) (payload : Json) :
    decode zone (wrapper key payload) = unwrap zone [(key, payload)] := by
  rw [wrapper, decode, isWrapper]
  simp [hkey]

/-- Data in a wrapper stands for what the wrapper is read as. -/
theorem stands_wrapper {zone : Zone} {key : String} {payload : Json} {value : Value} (hkey : isWrapperKey key = true)
    (hpayload : payload.Readable) (h : unwrap zone [(key, payload)] = .ok value) :
    Stands zone (wrapper key payload) value := by
  exact ⟨⟨by simp [keysOf], hpayload, trivial⟩, (decode_wrapper zone hkey payload).trans h⟩

/-- The payload of the bounds of all values can be read. -/
theorem readable_one : (Json.int 1).Readable := Nat.one_lt_pow (by decide) (by norm_num)

theorem readInteger_intText {bits : ℕ} (hbits : bits ≤ 64) (b : Bounded bits) (fields : List (String × Json)) :
    readInteger (.str (String.ofList (Text.intText b.value))) fields bits = .ok b := by
  simp only [readInteger, String.toList_ofList, Text.isIntegerText_intText, if_true,
    Text.readInt_intText (b.natAbs_lt hbits), b.ofInt?_value]

theorem stands_int32 (zone : Zone) (b : Bounded 32) : Stands zone (.int b.value) (.int32 b) := by
  refine ⟨b.natAbs_lt (by norm_num), ?_⟩
  rw [decode, Value.ofInt?, b.ofInt?_value]

theorem stands_int64 (zone : Zone) (b : Bounded 64) :
    Stands zone (wrapper "$numberLong" (.str (String.ofList (Text.intText b.value)))) (.int64 b) := by
  refine stands_wrapper (by decide) trivial ?_
  simp only [unwrap, field?, readInteger_intText le_rfl]
  rfl

theorem stands_double (zone : Zone) (d : Double) : Stands zone (ofDouble d) (.double d) := by
  cases d with
  | nan =>
    refine stands_wrapper (by decide) trivial ?_
    simp only [unwrap, field?, readDouble, Double.ofText?_nan]
    rfl
  | infinite negative =>
    refine stands_wrapper (by decide) trivial ?_
    have hread := Double.ofText?_infinite negative
    have htext : (if negative then "-Infinity" else "Infinity").toList =
        if negative then "-Infinity".toList else "Infinity".toList := by
      cases negative <;> rfl
    simp only [unwrap, field?, readDouble, htext, hread]
    rfl
  | finite negative place => exact ⟨rfl, rfl⟩

theorem stands_decimal (zone : Zone) {d : Decimal} (h : d.InRange) :
    Stands zone (wrapper "$numberDecimal" (.str (String.ofList d.text))) (.decimal d) := by
  refine stands_wrapper (by decide) trivial ?_
  simp only [unwrap, field?, readDecimal, String.toList_ofList, Decimal.ofText?_text h]
  rfl

theorem stands_objectId (zone : Zone) (id : ObjectId) :
    Stands zone (wrapper "$oid" (.str (String.ofList id.hex))) (.objectId id) := by
  refine stands_wrapper (by decide) trivial ?_
  simp only [unwrap, field?, readObjectId, String.toList_ofList, ObjectId.ofHex?_hex]
  rfl

/-- A point in time is written by its text in UTC or, where it has none, by its milliseconds. -/
theorem stands_ofMillis (zone : Zone) {millis : ℤ} (h : (Bounded.ofInt? 64 millis).isSome) :
    Stands zone (ofMillis millis) (.dateTime millis) := by
  unfold ofMillis
  split
  · rename_i text htext
    refine stands_wrapper (by decide) trivial ?_
    obtain ⟨t, hparse, hmillis⟩ := Timestamp.parse_utcText zone htext
    simp only [unwrap, field?, readDate, hparse, hmillis]
    rfl
  · -- too far away for a text: the number of milliseconds stands inside of a second wrapper
    obtain ⟨b, hb⟩ := Option.isSome_iff_exists.1 h
    have hvalue : b.value = millis := by
      unfold Bounded.ofInt? at hb
      split_ifs at hb
      cases hb
      rfl
    have hread := readInteger_intText le_rfl b
    rw [hvalue] at hread
    refine stands_wrapper (by decide) ⟨by simp [keysOf], trivial, trivial⟩ ?_
    simp only [unwrap, field?, readDate, wrapper, hread]
    simp [Except.map, hvalue]

theorem stands_binary (zone : Zone) (data : List UInt8) (subtype : UInt8) :
    Stands zone (wrapper "$binary" (.obj
      [("base64", .str (String.ofList (Text.base64OfBytes data))),
        ("subType", .str (String.ofList (Text.hexText 2 subtype.toNat)))])) (.binary data subtype) := by
  refine stands_wrapper (by decide) ⟨by simp [keysOf], trivial, trivial, trivial⟩ ?_
  have hsubtype := Text.readHexInt?_hexText subtype.toNat_lt
  have hbytes := Binary.ofBase64_base64OfBytes data subtype
  simp [unwrap, field?, readBinary, readBytes, hsubtype, hbytes]

theorem stands_regex (zone : Zone) (pattern options : String) :
    Stands zone (wrapper "$regularExpression" (.obj [("pattern", .str pattern), ("options", .str options)]))
      (.regex pattern options) := by
  refine stands_wrapper (by decide) ⟨by simp [keysOf], trivial, trivial, trivial⟩ ?_
  simp [unwrap, field?, readRegex]

/-! ## Parts -/

theorem arrangedItems_eq_map (sortKeys : Bool) (items : List Value) :
    arrangedItems sortKeys items = items.map (arranged sortKeys) := by
  induction items with
  | nil => rw [arrangedItems, List.map_nil]
  | cons item rest ih => rw [arrangedItems, List.map_cons, ih]

theorem arrangedFields_eq_map (sortKeys : Bool) (fields : Document) :
    arrangedFields sortKeys fields = fields.map fun field => (field.1, arranged sortKeys field.2) := by
  induction fields with
  | nil => rw [arrangedFields, List.map_nil]
  | cons field rest ih => rw [arrangedFields, List.map_cons, ih]

theorem ordered_arrangedFields (sortKeys : Bool) (fields : Document) :
    ordered sortKeys (arrangedFields sortKeys fields) =
      (ordered sortKeys fields).map fun field => (field.1, arranged sortKeys field.2) := by
  rw [arrangedFields_eq_map]
  exact ordered_map sortKeys _ fields

theorem hasWrapperKeyItems_eq_any (items : List Value) : hasWrapperKeyItems items = items.any hasWrapperKey := by
  induction items with
  | nil => rfl
  | cons item rest ih => rw [hasWrapperKeyItems, List.any_cons, ih]

theorem hasWrapperKeyFields_eq_any (fields : Document) :
    hasWrapperKeyFields fields = fields.any fun field => hasWrapperKey field.2 := by
  induction fields with
  | nil => rfl
  | cons field rest ih => rw [hasWrapperKeyFields, List.any_cons, ih]

theorem hasWrapperKey_array_eq_false {items : List Value} :
    hasWrapperKey (.array items) = false ↔ ∀ item ∈ items, hasWrapperKey item = false := by
  rw [hasWrapperKey, hasWrapperKeyItems_eq_any, List.any_eq_false]
  simp only [Bool.not_eq_true]

theorem hasWrapperKey_document_eq_false {fields : Document} : hasWrapperKey (.document fields) = false ↔
    fields.any (fun (key, _) => isWrapperKey key) = false ∧ ∀ field ∈ fields, hasWrapperKey field.2 = false := by
  rw [hasWrapperKey, Bool.or_eq_false_iff, hasWrapperKeyFields_eq_any]
  simp only [List.any_eq_false, Bool.not_eq_true]

theorem hasWrapperKey_part {value part : Value} (h : hasWrapperKey value = false) (hpart : part ∈ value.parts) :
    hasWrapperKey part = false := by
  cases value with
  | array items => exact hasWrapperKey_array_eq_false.1 h part hpart
  | document fields =>
    obtain ⟨field, hfield, rfl⟩ := List.mem_map.1 hpart
    exact (hasWrapperKey_document_eq_false.1 h).2 field hfield
  | _ => simp [Value.parts] at hpart

theorem datesFitItems_iff {items : List Value} : DatesFitItems items ↔ ∀ item ∈ items, DatesFit item := by
  induction items with
  | nil => simp [DatesFitItems]
  | cons item rest ih => simp [DatesFitItems, ih]

theorem datesFitFields_iff {fields : Document} : DatesFitFields fields ↔ ∀ field ∈ fields, DatesFit field.2 := by
  induction fields with
  | nil => simp [DatesFitFields]
  | cons field rest ih => simp [DatesFitFields, ih]

theorem DatesFit.part {value part : Value} (h : DatesFit value) (hpart : part ∈ value.parts) : DatesFit part := by
  cases value with
  | array items => exact datesFitItems_iff.1 h part hpart
  | document fields =>
    obtain ⟨field, hfield, rfl⟩ := List.mem_map.1 hpart
    exact datesFitFields_iff.1 h field hfield
  | _ => simp [Value.parts] at hpart

/-! ## Values -/

section

variable {zone : Zone} {sortKeys : Bool}

/-- An array is written, and its data stands for it, if that is so for each of its items. -/
theorem exists_stands_array {items : List Value}
    (h : ∀ item ∈ items, ∃ data, encode sortKeys item = .ok data ∧ Stands zone data (arranged sortKeys item)) :
    ∃ data, encode sortKeys (.array items) = .ok data ∧ Stands zone data (arranged sortKeys (.array items)) := by
  obtain ⟨written, hwritten⟩ := exists_forall₂ h
  refine ⟨.arr written, encode_array_eq_ok.2 ⟨written, hwritten.imp fun _ _ h => h.1, rfl⟩, ?_, ?_⟩
  · apply Json.readableItems_iff.2
    intro data hdata
    obtain ⟨item, -, -, hstands⟩ := exists_of_forall₂_of_mem hwritten.flip hdata
    exact hstands.readable
  · rw [arranged, arrangedItems_eq_map]
    refine decode_arr_eq_ok.2 ⟨_, List.forall₂_map_right_iff.2 ?_, rfl⟩
    exact hwritten.flip.imp fun _ _ h => h.2.decodes

/-- A document with no key of wrappers is written, and its data stands for it, if that is so for each of its values. -/
theorem exists_stands_document {fields : Document} (hnodup : (keysOf fields).Nodup)
    (hplain : fields.any (fun (key, _) => isWrapperKey key) = false)
    (h : ∀ field ∈ fields, ∃ data, encode sortKeys field.2 = .ok data ∧ Stands zone data (arranged sortKeys field.2)) :
    ∃ data, encode sortKeys (.document fields) = .ok data ∧
      Stands zone data (arranged sortKeys (.document fields)) := by
  have hordered : ∀ field ∈ ordered sortKeys fields, ∃ field' : String × Json, Becomes (encode sortKeys) field field' ∧
      Stands zone field'.2 (arranged sortKeys field.2) := by
    intro field hfield
    obtain ⟨data, hdata, hstands⟩ := h field ((ordered_perm sortKeys fields).mem_iff.1 hfield)
    exact ⟨(field.1, data), ⟨rfl, hdata⟩, hstands⟩
  obtain ⟨written, hwritten⟩ := exists_forall₂ hordered
  have hbecomes := hwritten.imp fun _ _ h => h.1
  refine ⟨.obj written, encode_document_eq_ok.2 ⟨hplain, written, hbecomes, rfl⟩, ⟨?_, ?_⟩, ?_⟩
  · exact (keysOf_perm_of_becomes hbecomes).nodup_iff.2 hnodup
  · apply Json.readableFields_iff.2
    intro field hfield
    obtain ⟨_, -, -, hstands⟩ := exists_of_forall₂_of_mem hwritten.flip hfield
    exact hstands.readable
  · -- none of its keys is one of wrappers, so the object is decoded field by field
    rw [arranged, ordered_arrangedFields]
    refine (decode_obj_eq_ok ((isWrapper_of_becomes hbecomes).trans hplain)).2 ⟨_, List.forall₂_map_right_iff.2 ?_, rfl⟩
    exact hwritten.flip.imp fun _ _ h => ⟨h.1.1.symm, h.2.decodes⟩

end

/-- A value without keys of wrappers is written, and what is written stands for it. -/
theorem encode_stands (zone : Zone) (sortKeys : Bool) (value : Value) (hwf : value.WellFormed) (hdates : DatesFit value)
    (h : hasWrapperKey value = false) :
    ∃ data, encode sortKeys value = .ok data ∧ Stands zone data (arranged sortKeys value) := by
  induction value using Value.parts_induction with
  | step value ih =>
    have hparts : ∀ part ∈ value.parts, ∃ data, encode sortKeys part = .ok data ∧
        Stands zone data (arranged sortKeys part) :=
      fun part hpart => ih part hpart (hwf.part hpart) (hdates.part hpart) (hasWrapperKey_part h hpart)
    cases value with
    | null | bool | string => exact ⟨_, rfl, ⟨trivial, rfl⟩⟩
    | int32 n => exact ⟨_, rfl, stands_int32 zone n⟩
    | int64 n => exact ⟨_, rfl, stands_int64 zone n⟩
    | double d => exact ⟨_, rfl, stands_double zone d⟩
    | decimal d => exact ⟨_, rfl, stands_decimal zone hwf⟩
    | objectId id => exact ⟨_, rfl, stands_objectId zone id⟩
    | dateTime millis => exact ⟨_, rfl, stands_ofMillis zone hdates⟩
    | binary data subtype => exact ⟨_, rfl, stands_binary zone data subtype⟩
    | regex pattern options => exact ⟨_, rfl, stands_regex zone pattern options⟩
    | minKey | maxKey => exact ⟨_, rfl, stands_wrapper (by decide) readable_one rfl⟩
    | array items => exact exists_stands_array hparts
    | document fields =>
      have hplain := (hasWrapperKey_document_eq_false.1 h).1
      exact exists_stands_document hwf.1 hplain fun field hfield => hparts _ (Value.mem_parts_document hfield)
    | foreign => exact hwf.elim

/-- What is written has no keys of wrappers. -/
theorem plain_of_encode {sortKeys : Bool} {value : Value} {data : Json} (h : encode sortKeys value = .ok data) :
    hasWrapperKey value = false := by
  induction value using Value.parts_induction generalizing data with
  | step value ih =>
    cases value with
    | array items =>
      obtain ⟨written, hwritten, -⟩ := encode_array_eq_ok.1 h
      apply hasWrapperKey_array_eq_false.2
      intro item hitem
      obtain ⟨data, -, hdata⟩ := exists_of_forall₂_of_mem hwritten hitem
      exact ih item hitem hdata
    | document fields =>
      obtain ⟨hplain, written, hwritten, -⟩ := encode_document_eq_ok.1 h
      refine hasWrapperKey_document_eq_false.2 ⟨hplain, fun field hfield => ?_⟩
      have hmem := (ordered_perm sortKeys fields).mem_iff.2 hfield
      obtain ⟨field', -, -, hdata⟩ := exists_of_forall₂_of_mem hwritten hmem
      exact ih _ (Value.mem_parts_document hfield) hdata
    | _ => rfl

/-- Keys of wrappers are the only reason to refuse a well-formed value. -/
theorem clash_of_encode_eq_error {sortKeys : Bool} {value : Value} (hwf : value.WellFormed) {refusal : Refusal}
    (h : encode sortKeys value = .error refusal) : hasWrapperKey value = true ∧ ∃ keys, refusal = .clash keys := by
  induction value using Value.parts_induction with
  | step value ih =>
    have hpart : ∀ part ∈ value.parts, encode sortKeys part = .error refusal →
        hasWrapperKey value = true ∧ ∃ keys, refusal = .clash keys := by
      intro part hpart hrefused
      obtain ⟨hwrapper, hclash⟩ := ih part hpart (hwf.part hpart) hrefused
      refine ⟨?_, hclash⟩
      by_contra hplain
      rw [Bool.not_eq_true] at hplain
      rw [hasWrapperKey_part hplain hpart] at hwrapper
      cases hwrapper
    cases value with
    | array items =>
      obtain ⟨item, hitem, hrefused⟩ := exists_of_encode_array_eq_error h
      exact hpart item hitem hrefused
    | document fields =>
      rcases encode_document_eq_error_cases h with ⟨hown, hclash⟩ | ⟨field, hfield, hrefused⟩
      · exact ⟨by rw [hasWrapperKey, hown, Bool.true_or], hclash⟩
      · exact hpart _ (Value.mem_parts_document hfield) hrefused
    | foreign => exact hwf.elim
    | _ => cases h

/-- A value with keys of wrappers is refused. -/
theorem encode_clash (sortKeys : Bool) (value : Value) (hwf : value.WellFormed) (h : hasWrapperKey value = true) :
    ∃ keys, encode sortKeys value = .error (.clash keys) := by
  cases hencode : encode sortKeys value with
  | ok data =>
    rw [plain_of_encode hencode] at h
    cases h
  | error refusal =>
    obtain ⟨-, keys, rfl⟩ := clash_of_encode_eq_error hwf hencode
    exact ⟨keys, rfl⟩

end ExtendedJson

end DocBrowser
