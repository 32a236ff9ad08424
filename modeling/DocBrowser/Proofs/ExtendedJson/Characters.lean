import Mathlib
import DocBrowser.Proofs.Calendar.Timestamp
import DocBrowser.Proofs.ExtendedJson.Parts
import DocBrowser.Proofs.Json.Characters
import DocBrowser.Proofs.Number.DecimalText
import DocBrowser.Proofs.Value.Equality
/-!
# Characters of extended JSON

Characters outside ASCII come from the strings and the keys of a value alone: whatever else is
written as text is ASCII.
-/

namespace DocBrowser

namespace Value

mutual

/-- Whether a string, a key or a regular expression of a value, at any depth, has a character of a class. -/
def textAny (p : Char → Bool) : Value → Bool
  | .string text => text.toList.any p
  | .regex pattern options => pattern.toList.any p || options.toList.any p
  | .array items => textAnyItems p items
  | .document fields => textAnyFields p fields
  | _ => false

@[inherit_doc textAny]
def textAnyItems (p : Char → Bool) : List Value → Bool
  | [] => false
  | item :: rest => textAny p item || textAnyItems p rest

@[inherit_doc textAny]
def textAnyFields (p : Char → Bool) : Document → Bool
  | [] => false
  | (key, value) :: rest => key.toList.any p || textAny p value || textAnyFields p rest

end

end Value

namespace ExtendedJson

section

variable {p : Char → Bool} (hp : ∀ c : Char, c.toNat < 128 → p c = false)

include hp

theorem any_ascii {cs : List Char} (h : ∀ c ∈ cs, c.toNat < 128) : cs.any p = false := by
  rw [List.any_eq_false]
  intro c hc
  simp [hp c (h c hc)]

theorem textAny_str {text : List Char} (h : ∀ c ∈ text, c.toNat < 128) :
    (Json.str (String.ofList text)).textAny p = false := by
  rw [Json.textAny, String.toList_ofList, any_ascii hp h]

/-- The key of a wrapper is ASCII. -/
theorem textAny_wrapper {key : String} (payload : Json) (hkey : ∀ c ∈ key.toList, c.toNat < 128) :
    (wrapper key payload).textAny p = payload.textAny p := by
  simp only [wrapper, Json.textAny, Json.textAnyFields, any_ascii hp hkey, Bool.or_false, Bool.false_or]

theorem textAny_ofMillis (millis : ℤ) : (ofMillis millis).textAny p = false := by
  unfold ofMillis
  split
  · rename_i text htext
    rw [textAny_wrapper hp _ (by simp)]
    exact textAny_str hp fun c hc => Timestamp.toNat_lt_of_mem_utcText htext hc
  · rw [textAny_wrapper hp _ (by simp), textAny_wrapper hp _ (by simp)]
    exact textAny_str hp fun c hc => Text.toNat_lt_of_mem_intText hc

theorem textAny_ofDouble (d : Double) : (ofDouble d).textAny p = false := by
  cases d with
  | nan =>
    rw [ofDouble, textAny_wrapper hp _ (by simp), Json.textAny]
    exact any_ascii hp (by simp)
  | infinite negative =>
    rw [ofDouble, textAny_wrapper hp _ (by simp), Json.textAny]
    exact any_ascii hp (by cases negative <;> simp)
  | finite negative place => rfl

theorem textAny_binary (data : List UInt8) (subtype : UInt8) :
    (wrapper "$binary" (.obj
      [("base64", .str (String.ofList (Text.base64OfBytes data))),
        ("subType", .str (String.ofList (Text.hexText 2 subtype.toNat)))])).textAny p = false := by
  have hbytes := textAny_str hp fun c hc => Text.base64OfBytes_lt data c hc
  have hsubtype := textAny_str hp fun c hc => Text.toNat_lt_of_mem_hexText subtype.toNat_lt hc
  have hkey : "base64".toList.any p = false := any_ascii hp (by simp)
  have hkey' : "subType".toList.any p = false := any_ascii hp (by simp)
  rw [textAny_wrapper hp _ (by simp), Json.textAny, Json.textAnyFields, Json.textAnyFields, hbytes, hsubtype, hkey,
    hkey']
  rfl

theorem textAny_regex (pattern options : String) :
    (wrapper "$regularExpression" (.obj [("pattern", .str pattern), ("options", .str options)])).textAny p =
      (Value.regex pattern options).textAny p := by
  have hkey : "pattern".toList.any p = false := any_ascii hp (by simp)
  have hkey' : "options".toList.any p = false := any_ascii hp (by simp)
  rw [textAny_wrapper hp _ (by simp), Value.textAny]
  simp only [Json.textAny, Json.textAnyFields, hkey, hkey', Bool.false_or, Bool.or_false]

end

/-! ## Values -/

section

variable {p : Char → Bool}

/-- What is written for a value without parts has the characters of its strings. -/
theorem textAny_encode_bare (hp : ∀ c : Char, c.toNat < 128 → p c = false) {value : Value}
    (hbare : value.isNested = false) {data : Json} (h : encode false value = .ok data) :
    data.textAny p = value.textAny p := by
  cases value with
  | array | document => cases hbare
  | foreign => cases h
  | double d =>
    cases h
    exact textAny_ofDouble hp d
  | dateTime millis =>
    cases h
    exact textAny_ofMillis hp millis
  | binary bytes subtype =>
    cases h
    exact textAny_binary hp bytes subtype
  | regex pattern options =>
    cases h
    exact textAny_regex hp pattern options
  | int64 n =>
    cases h
    rw [textAny_wrapper hp _ (by simp)]
    exact textAny_str hp fun c hc => Text.toNat_lt_of_mem_intText hc
  | decimal d =>
    cases h
    rw [textAny_wrapper hp _ (by simp)]
    exact textAny_str hp fun c hc => (Decimal.isPlain_text hc).1
  | objectId id =>
    cases h
    rw [textAny_wrapper hp _ (by simp)]
    exact textAny_str hp fun c hc => Text.toNat_lt_of_mem_hexOfBytes hc
  | minKey | maxKey =>
    cases h
    rw [textAny_wrapper hp _ (by simp)]
    rfl
  | _ =>
    cases h
    rfl

theorem textAnyItems_eq_of_forall₂ {items : List Value} {written : List Json}
    (h : List.Forall₂ (fun item data => data.textAny p = item.textAny p) items written) :
    Json.textAnyItems p written = Value.textAnyItems p items := by
  induction h with
  | nil => rfl
  | cons hfirst _ ih => rw [Json.textAnyItems, Value.textAnyItems, hfirst, ih]

theorem textAnyFields_eq_of_forall₂ {fields : Document} {written : List (String × Json)}
    (h : List.Forall₂ (fun field field' => field'.1 = field.1 ∧ field'.2.textAny p = field.2.textAny p) fields written) :
    Json.textAnyFields p written = Value.textAnyFields p fields := by
  induction h with
  | nil => rfl
  | cons hfirst _ ih => rw [Json.textAnyFields, Value.textAnyFields, hfirst.1, hfirst.2, ih]

/-- What is written for a value has the characters of its strings and keys. -/
theorem textAny_encode (hp : ∀ c : Char, c.toNat < 128 → p c = false) (value : Value) {data : Json}
    (h : encode false value = .ok data) : data.textAny p = value.textAny p := by
  induction value using Value.parts_induction generalizing data with
  | step value ih =>
    cases value with
    | array items =>
      obtain ⟨written, hwritten, rfl⟩ := encode_array_eq_ok.1 h
      rw [Json.textAny, Value.textAny]
      apply textAnyItems_eq_of_forall₂
      apply forall₂_imp_of_mem hwritten
      intro item hitem data hdata
      exact ih item hitem hdata
    | document fields =>
      obtain ⟨-, written, hwritten, rfl⟩ := encode_document_eq_ok.1 h
      -- without sorted keys the fields are in their own order
      change List.Forall₂ _ fields written at hwritten
      rw [Json.textAny, Value.textAny]
      apply textAnyFields_eq_of_forall₂
      apply forall₂_imp_of_mem hwritten
      rintro field hfield field' ⟨hkey, hdata⟩
      exact ⟨hkey, ih _ (Value.mem_parts_document hfield) hdata⟩
    | _ => exact textAny_encode_bare hp rfl h

end

end ExtendedJson

end DocBrowser
