import Mathlib
import DocBrowser.Proofs.ExtendedJson.Decoded
import DocBrowser.Proofs.ExtendedJson.Readable
/-!
# Values written and read back

A value without keys of wrappers is always written, and what is written decodes exactly where all of
its dates fit in 64 bits: a date too far away for a text is written by its milliseconds, and those are
held to that width where they are read. Keys in another order make no difference to equality.
-/

namespace DocBrowser

/-! ## Dates -/

/-- Only dates of a few thousand years have a text, and their milliseconds fit. -/
theorem Timestamp.isSome_of_utcText? {millis : ℤ} {text : List Char} (h : utcText? millis = some text) :
    (Bounded.ofInt? 64 millis).isSome := by
  unfold utcText? at h
  split_ifs at h
  obtain ⟨t, ht, -⟩ := Option.map_eq_some_iff.1 h
  unfold ofMillis? at ht
  split_ifs at ht with hrange
  simp only [firstMilli, lastMilli] at hrange
  rw [Bounded.ofInt?, dif_pos]
  · rfl
  · norm_num
    omega

/-- The text of a number is read as that number, if it is read. -/
theorem Text.eq_of_readInt_intText {n m : ℤ} (h : readInt (intText n) = .ok m) : m = n := by
  unfold readInt at h
  rw [trimNumber_eq_self fun c hc => isBlank_of_mem_intText hc, takeSign_intText] at h
  simp only at h
  rw [spacedDigits?_of_isDigit Nat.toDigits_ne_nil fun c hc => isDigit_of_mem_toDigits hc] at h
  obtain ⟨value, hvalue, rfl⟩ := map_eq_ok.1 h
  obtain ⟨-, rfl⟩ := natOfDigits_eq_ok_iff.1 hvalue
  rw [ofDigitValues_toDigits, signed_natAbs]

namespace ExtendedJson

theorem isSome_of_readInteger {n : ℤ} {fields : List (String × Json)} {bits : ℕ} {b : Bounded bits}
    (h : readInteger (.str (String.ofList (Text.intText n))) fields bits = .ok b) : (Bounded.ofInt? bits n).isSome := by
  obtain ⟨text, m, htext, -, hread, hfits⟩ := readInteger_eq_ok.1 h
  cases htext
  rw [String.toList_ofList] at hread
  rw [← Text.eq_of_readInt_intText hread, hfits]
  rfl

/-- A date that is read back fits in 64 bits: its milliseconds are held to that where it has no text. -/
theorem isSome_of_decode_ofMillis {zone : Zone} {millis : ℤ} {decoded : Value}
    (h : decode zone (ofMillis millis) = .ok decoded) : (Bounded.ofInt? 64 millis).isSome := by
  unfold ofMillis at h
  split at h
  · exact Timestamp.isSome_of_utcText? ‹_›
  · rw [decode_wrapper zone (by decide)] at h
    obtain ⟨b, hb, -⟩ := map_eq_ok.1 h
    exact isSome_of_readInteger hb

/-! ## What is written -/

theorem Writable.part {value part : Value} (h : Writable value) (hpart : part ∈ value.parts) : Writable part :=
  ⟨h.wellFormed.part hpart, hasWrapperKey_part h.plain hpart⟩

section

variable {sortKeys : Bool}

/-- A value without keys of wrappers is written, wherever its dates lie. -/
theorem Writable.encode {value : Value} (h : Writable value) : ∃ data, ExtendedJson.encode sortKeys value = .ok data := by
  cases hencode : ExtendedJson.encode sortKeys value with
  | ok data => exact ⟨data, rfl⟩
  | error refusal =>
    obtain ⟨hwrapper, -⟩ := clash_of_encode_eq_error h.wellFormed hencode
    rw [h.plain] at hwrapper
    cases hwrapper

/-! ## What is read back -/

variable {zone : Zone}

/-- Whether a value is written as data that decodes. -/
def ReadsBack (zone : Zone) (sortKeys : Bool) (value : Value) : Prop :=
  ∃ data decoded, encode sortKeys value = .ok data ∧ decode zone data = .ok decoded

/-- What is read back has all of its dates in 64 bits. -/
theorem ReadsBack.datesFit {value : Value} (h : ReadsBack zone sortKeys value) : DatesFit value := by
  induction value using Value.parts_induction with
  | step value ih =>
    obtain ⟨data, decoded, hdata, hdecoded⟩ := h
    cases value with
    | dateTime millis =>
      cases hdata
      exact isSome_of_decode_ofMillis hdecoded
    | array items =>
      obtain ⟨written, hwritten, rfl⟩ := encode_array_eq_ok.1 hdata
      obtain ⟨values, hvalues, -⟩ := decode_arr_eq_ok.1 hdecoded
      apply datesFitItems_iff.2
      intro item hitem
      obtain ⟨data, hmem, hencode⟩ := exists_of_forall₂_of_mem hwritten hitem
      obtain ⟨value, -, hdecode⟩ := exists_of_forall₂_of_mem hvalues hmem
      exact ih item hitem ⟨data, value, hencode, hdecode⟩
    | document fields =>
      obtain ⟨hplain, written, hwritten, rfl⟩ := encode_document_eq_ok.1 hdata
      -- what is written of the document is no wrapper, so each of its fields is read back
      obtain ⟨doc, hdoc, -⟩ := (decode_obj_eq_ok ((isWrapper_of_becomes hwritten).trans hplain)).1 hdecoded
      apply datesFitFields_iff.2
      intro field hfield
      have hordered := (ordered_perm sortKeys fields).mem_iff.2 hfield
      obtain ⟨field', hmem, -, hencode⟩ := exists_of_forall₂_of_mem hwritten hordered
      obtain ⟨field'', -, -, hdecode⟩ := exists_of_forall₂_of_mem hdoc hmem
      exact ih _ (Value.mem_parts_document hfield) ⟨_, _, hencode, hdecode⟩
    | _ => trivial

end

/-! ## The order of keys -/

end ExtendedJson

namespace Value

/-- A value is equal to itself with its keys in another order, where none of its decimals is a NaN. -/
theorem same_arranged (sortKeys : Bool) {value : Value} (hwf : value.WellFormed)
    (hnumbers : ∀ d, Within (.decimal d) value → d.magnitude?.isSome) :
    (ExtendedJson.arranged sortKeys value).same value = .ok true := by
  induction value using parts_induction with
  | step value ih =>
    have hparts := fun part hpart =>
      ih part hpart (hwf.part hpart) fun d hd => hnumbers d (.part hpart hd)
    rw [same_eq_ok_true]
    cases value with
    | double d => exact .double (.inl rfl)
    | decimal d =>
      obtain ⟨magnitude, hmagnitude⟩ := Option.isSome_iff_exists.1 (hnumbers d .self)
      exact .decimal hmagnitude hmagnitude
    | array items =>
      rw [ExtendedJson.arranged, ExtendedJson.arrangedItems_eq_map]
      exact .array (List.forall₂_map_left_iff.2 (List.forall₂_same.2 hparts))
    | document fields =>
      -- equality looks fields up by name, so the order they are written in does not matter
      have hperm := ExtendedJson.ordered_perm sortKeys fields
      rw [ExtendedJson.arranged, ExtendedJson.ordered_arrangedFields]
      refine .document (by rw [List.length_map, hperm.length_eq]) fun field hfield => ?_
      obtain ⟨original, horiginal, rfl⟩ := List.mem_map.1 hfield
      have hmem := hperm.mem_iff.1 horiginal
      exact ⟨original.2, (field?_eq_some_iff hwf.1).2 hmem, hparts _ (mem_parts_document hmem)⟩
    | foreign => exact hwf.elim
    | _ => exact .plain rfl

end Value

end DocBrowser
