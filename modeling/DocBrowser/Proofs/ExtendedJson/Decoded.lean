import Mathlib
import DocBrowser.Proofs.ExtendedJson.RoundTrip
import DocBrowser.Proofs.Failure
import DocBrowser.Proofs.Json.DistinctKeys
import DocBrowser.Proofs.Value.Equality
/-!
# Decoded values

Whatever data decodes, the value is well-formed and no document in it has a key of wrappers: an object
with such a key is a wrapper, and a wrapper stands for a value without parts.
-/

namespace DocBrowser

/-! ## Decimals -/

namespace Decimal

theorem inRange_of_bounded? {negative : Bool} {coefficient : ℕ} {exponent : ℤ} {d : Decimal}
    (h : bounded? negative coefficient exponent = some d) : d.InRange := by
  unfold bounded? at h
  split_ifs at h with hrange
  cases h
  exact hrange

theorem inRange_of_readFinite? {negative : Bool} {cs : List Char} {d : Decimal} (h : readFinite? negative cs = some d) :
    d.InRange := by
  unfold readFinite? at h
  dsimp only at h
  split_ifs at h
  obtain ⟨ds, -, h⟩ := Option.bind_eq_some_iff.1 h
  obtain ⟨e, -, h⟩ := Option.bind_eq_some_iff.1 h
  exact inRange_of_bounded? h

/-- Decimals out of range are not read. -/
theorem inRange_of_ofText? {cs : List Char} {d : Decimal} (h : ofText? cs = some d) : d.InRange := by
  obtain ⟨plain, -, h⟩ := Option.bind_eq_some_iff.1 h
  dsimp only at h
  unfold readUnsigned? at h
  split at h
  · split_ifs at h
    cases h
    trivial
  · obtain ⟨ds, -, rfl⟩ := Option.map_eq_some_iff.1 h
    trivial
  · obtain ⟨ds, -, rfl⟩ := Option.map_eq_some_iff.1 h
    trivial
  · exact inRange_of_readFinite? h

end Decimal

namespace ExtendedJson

/-! ## Payloads -/

section

variable {zone : Zone} {payload : Json} {fields : List (String × Json)} {value : Value}

/-- An integer has its digits as a text. -/
theorem readInteger_eq_ok {bits : ℕ} {b : Bounded bits} : readInteger payload fields bits = .ok b ↔
    ∃ text n, payload = .str text ∧ Text.isIntegerText text.toList = true ∧ Text.readInt text.toList = .ok n ∧
      Bounded.ofInt? bits n = some b := by
  constructor
  · intro h
    unfold readInteger at h
    split at h
    · split_ifs at h with hdigits
      · split at h
        · cases h
        · cases h
        · split at h <;> cases h
          exact ⟨_, _, rfl, hdigits, ‹_›, ‹_›⟩
      · cases h
    · cases h
  · rintro ⟨text, n, rfl, hdigits, hread, hfits⟩
    simp only [readInteger, hdigits, if_true, hread, hfits]

/-- An identifier has its digits as a text. -/
theorem exists_of_readObjectId (h : readObjectId payload fields = .ok value) :
    ∃ text id, payload = .str text ∧ value = .objectId id := by
  unfold readObjectId at h
  dsimp only at h
  split at h
  · split at h <;> cases h
    exact ⟨_, _, rfl, rfl⟩
  · split_ifs at h <;> cases h
  · split_ifs at h <;> cases h
  · cases h

/-- A date has a text, the number of its milliseconds, or that number in the wrapper of a 64-bit integer. -/
theorem exists_of_readDate (h : readDate zone payload fields = .ok value) :
    ∃ millis, value = .dateTime millis ∧ ((∃ text, payload = .str text) ∨ (∃ n, payload = .int n) ∨
      ∃ digits b, payload = wrapper "$numberLong" digits ∧ readInteger digits fields 64 = .ok b ∧
        b.value = millis) := by
  unfold readDate at h
  split at h
  · split at h <;> cases h
    exact ⟨_, rfl, .inl ⟨_, rfl⟩⟩
  · obtain ⟨b, hb, rfl⟩ := map_eq_ok.1 h
    exact ⟨_, rfl, .inr (.inr ⟨_, b, rfl, hb, rfl⟩)⟩
  · cases h
    exact ⟨_, rfl, .inr (.inl ⟨_, rfl⟩)⟩
  · cases h

theorem exists_of_readDouble (h : readDouble payload fields = .ok value) :
    ∃ text d, payload = .str text ∧ value = .double d := by
  unfold readDouble at h
  split at h
  · split at h <;> cases h
    exact ⟨_, _, rfl, rfl⟩
  · cases h

theorem exists_of_readDecimal (h : readDecimal payload fields = .ok value) :
    ∃ text d, payload = .str text ∧ d.InRange ∧ value = .decimal d := by
  unfold readDecimal at h
  split at h
  · split at h <;> cases h
    exact ⟨_, _, rfl, Decimal.inRange_of_ofText? ‹_›, rfl⟩
  · cases h

theorem exists_of_ofBase64 {text : String} {n : ℤ} (h : Binary.ofBase64 text n = .ok value) :
    ∃ data subtype, value = .binary data subtype := by
  unfold Binary.ofBase64 at h
  split_ifs at h
  split at h
  · cases h
  · split at h <;> cases h
    exact ⟨_, _, rfl⟩

theorem exists_of_readBytes {type : Json} (h : readBytes payload type = .ok value) :
    ∃ text digits data subtype, payload = .str text ∧ type = .str digits ∧ value = .binary data subtype := by
  unfold readBytes at h
  split at h
  · split at h
    · cases h
    · split at h
      · split at h <;> cases h
        obtain ⟨data, subtype, rfl⟩ := exists_of_ofBase64 ‹_›
        exact ⟨_, _, data, subtype, rfl, rfl, rfl⟩
      · cases h
  · cases h

/-- Binary data has two texts, in an object below its key or beside it. -/
theorem exists_of_readBinary (h : readBinary payload fields = .ok value) :
    ∃ data subtype, value = .binary data subtype ∧
      ((∃ inner text digits, payload = .obj inner ∧ fields.length = 1 ∧ field? inner "base64" = some (.str text) ∧
        field? inner "subType" = some (.str digits) ∧ inner.length = 2) ∨
      ∃ text digits, payload = .str text ∧ field? fields "$type" = some (.str digits) ∧ fields.length = 2) := by
  unfold readBinary at h
  dsimp only at h
  split at h
  · -- `base64` and `subType` in an object of their own
    rename_i inner
    split_ifs at h with hlength hinner
    · cases htext : field? inner "base64" with
      | none => simp [htext, Cause.inWrapper] at h
      | some text =>
        cases hsubtype : field? inner "subType" with
        | none => simp [htext, hsubtype, Cause.inWrapper] at h
        | some type =>
          simp only [htext, hsubtype] at h
          split at h <;> cases h
          obtain ⟨text, digits, data, subtype, rfl, rfl, rfl⟩ := exists_of_readBytes ‹_›
          exact ⟨data, subtype, rfl, .inl ⟨inner, text, digits, rfl, hlength, htext, hsubtype, hinner⟩⟩
    · split at h <;> cases h
    · cases h
  · split at h
    · -- the old form, with `$type` beside the text
      rename_i text _ _ hsubtype
      split_ifs at h with hlength
      · split at h <;> cases h
        obtain ⟨-, digits, data, subtype, -, rfl, rfl⟩ := exists_of_readBytes ‹_›
        exact ⟨data, subtype, rfl, .inr ⟨text, digits, rfl, hsubtype, hlength⟩⟩
      · cases h
    · cases h
  · cases h

/-- A regular expression has a pattern and at most options beside it, which are texts. -/
theorem exists_of_readRegex (h : readRegex payload fields = .ok value) :
    ∃ inner pattern, payload = .obj inner ∧ (∃ options, value = .regex pattern options) ∧
      (∀ field ∈ inner, field.1 = "pattern" ∨ field.1 = "options") ∧ field? inner "pattern" = some (.str pattern) ∧
      (field? inner "options" = none ∨ ∃ options, field? inner "options" = some (.str options)) := by
  unfold readRegex at h
  dsimp only at h
  split at h
  · rename_i inner
    split_ifs at h with hkeys
    · have hkeys : ∀ field ∈ inner, field.1 = "pattern" ∨ field.1 = "options" := by simpa using hkeys
      split at h <;> cases h
      · exact ⟨inner, _, rfl, ⟨_, rfl⟩, hkeys, ‹_›, .inl ‹_›⟩
      · exact ⟨inner, _, rfl, ⟨_, rfl⟩, hkeys, ‹_›, .inr ⟨_, ‹_›⟩⟩
    · cases h
  · cases h

theorem readBound_eq_ok {bound : Value} : readBound payload fields bound = .ok value ↔ payload = .int 1 ∧ value = bound := by
  constructor
  · intro h
    unfold readBound at h
    split at h <;> cases h
    exact ⟨rfl, rfl⟩
  · rintro ⟨rfl, rfl⟩
    rfl

/-! ## Wrappers -/

/-- A value that can be written and has no keys of its own to clash with those of wrappers. -/
structure Writable (value : Value) : Prop where
  wellFormed : value.WellFormed
  plain : hasWrapperKey value = false

/-- A wrapper stands for a value without parts. -/
theorem writable_of_unwrap (h : unwrap zone fields = .ok value) : Writable value := by
  unfold unwrap at h
  split at h
  · obtain ⟨data, subtype, rfl, -⟩ := exists_of_readBinary h
    exact ⟨trivial, rfl⟩
  · split at h
    · obtain ⟨-, id, -, rfl⟩ := exists_of_readObjectId h
      exact ⟨trivial, rfl⟩
    · obtain ⟨millis, rfl, -⟩ := exists_of_readDate h
      exact ⟨trivial, rfl⟩
    · obtain ⟨n, -, rfl⟩ := map_eq_ok.1 h
      exact ⟨trivial, rfl⟩
    · obtain ⟨n, -, rfl⟩ := map_eq_ok.1 h
      exact ⟨trivial, rfl⟩
    · obtain ⟨-, d, -, rfl⟩ := exists_of_readDouble h
      exact ⟨trivial, rfl⟩
    · obtain ⟨-, d, -, hrange, rfl⟩ := exists_of_readDecimal h
      exact ⟨hrange, rfl⟩
    · obtain ⟨-, pattern, -, ⟨options, rfl⟩, -⟩ := exists_of_readRegex h
      exact ⟨trivial, rfl⟩
    · obtain ⟨-, rfl⟩ := readBound_eq_ok.1 h
      exact ⟨trivial, rfl⟩
    · obtain ⟨-, rfl⟩ := readBound_eq_ok.1 h
      exact ⟨trivial, rfl⟩
    · cases h

end

/-! ## Data -/

theorem writable_ofInt? {n : ℤ} {value : Value} (h : Value.ofInt? n = some value) : Writable value := by
  unfold Value.ofInt? at h
  split at h
  · cases h
    exact ⟨trivial, rfl⟩
  · obtain ⟨b, -, rfl⟩ := Option.map_eq_some_iff.1 h
    exact ⟨trivial, rfl⟩

theorem writable_array {items : List Value} (h : ∀ item ∈ items, Writable item) : Writable (.array items) :=
  ⟨Value.wellFormedItems_iff.2 fun item hitem => (h item hitem).wellFormed,
    hasWrapperKey_array_eq_false.2 fun item hitem => (h item hitem).plain⟩

/-- A document can be written if its own keys are distinct and none of wrappers, and its values can be written. -/
theorem writable_document {fields : Document} (hnodup : (keysOf fields).Nodup)
    (hplain : fields.any (fun (key, _) => isWrapperKey key) = false) (h : ∀ field ∈ fields, Writable field.2) :
    Writable (.document fields) :=
  ⟨⟨hnodup, Value.wellFormedFields_iff.2 fun field hfield => (h field hfield).wellFormed⟩,
    hasWrapperKey_document_eq_false.2 ⟨hplain, fun field hfield => (h field hfield).plain⟩⟩

/-- Data with distinct keys decodes to values that can be written. -/
theorem writable_of_decode {zone : Zone} (data : Json) (hkeys : data.DistinctKeys) {value : Value}
    (h : decode zone data = .ok value) : Writable value := by
  induction data using Json.members_induction generalizing value with
  | step data ih =>
    cases data with
    | null | bool | float | str =>
      cases h
      exact ⟨trivial, rfl⟩
    | int n =>
      rw [decode] at h
      split at h <;> cases h
      exact writable_ofInt? ‹_›
    | arr items =>
      obtain ⟨values, hvalues, rfl⟩ := decode_arr_eq_ok.1 h
      apply writable_array
      intro value hvalue
      obtain ⟨item, hitem, hdecode⟩ := exists_of_forall₂_of_mem hvalues.flip hvalue
      exact ih (none, item) (List.mem_map_of_mem hitem) (Json.distinctKeysItems_iff.1 hkeys item hitem) hdecode
    | obj fields =>
      -- an object is a wrapper, or a document none of whose keys names one
      cases hwrapper : isWrapper fields with
      | true =>
        rw [decode, hwrapper, if_pos rfl] at h
        exact writable_of_unwrap h
      | false =>
        obtain ⟨doc, hdoc, rfl⟩ := (decode_obj_eq_ok hwrapper).1 h
        have hsame := keysOf_eq_of_becomes hdoc
        have hplain := (any_isWrapperKey_of_perm (.of_eq hsame)).trans hwrapper
        apply writable_document (hsame ▸ hkeys.1) hplain
        intro field' hfield'
        obtain ⟨field, hfield, -, hdecode⟩ := exists_of_forall₂_of_mem hdoc.flip hfield'
        have hmem : (some field.1, field.2) ∈ (Json.obj fields).members := List.mem_map_of_mem hfield
        exact ih _ hmem (Json.distinctKeysFields_iff.1 hkeys.2 field hfield) hdecode

end ExtendedJson

end DocBrowser
