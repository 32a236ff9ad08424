import Mathlib
import DocBrowser.Proofs.ExtendedJson.Decoded
import DocBrowser.Proofs.Json.Swapped
/-!
# Wrappers that stand for one value

Data that differ in one place, where each has a wrapper of its own, decode to one value if the two wrappers do.
That holds inside other wrappers as well: their payloads are plain, except that a date takes the wrapper of a 64-bit
integer, which no other kind of wrapper stands for.
-/

namespace DocBrowser.ExtendedJson

open Json (Swapped DistinctKeys)

/-! ## Data that hold wrappers -/

/-- An object of one field whose key is one of those of wrappers. -/
inductive IsWrapperData : Json → Prop where
  | intro {key : String} (payload : Json) (h : isWrapperKey key = true) : IsWrapperData (wrapper key payload)

/-- Data that are such an object, or hold one at any depth. -/
inductive HoldsWrapper : Json → Prop where
  | here {data : Json} (h : IsWrapperData data) : HoldsWrapper data
  | item {items : List Json} {item : Json} (h : HoldsWrapper item) (mem : item ∈ items) : HoldsWrapper (.arr items)
  | field {fields : List (String × Json)} {field : String × Json} (h : HoldsWrapper field.2) (mem : field ∈ fields) :
    HoldsWrapper (.obj fields)

theorem not_holdsWrapper_str (text : String) : ¬ HoldsWrapper (.str text) := by
  rintro (⟨⟨⟩⟩ | _)

theorem not_holdsWrapper_int (n : ℤ) : ¬ HoldsWrapper (.int n) := by
  rintro (⟨⟨⟩⟩ | _)

/-- An object that is no wrapper itself holds one only below one of its fields. -/
theorem not_holdsWrapper_obj {fields : List (String × Json)} (hdata : ¬ IsWrapperData (.obj fields))
    (h : ∀ field ∈ fields, ¬ HoldsWrapper field.2) : ¬ HoldsWrapper (.obj fields) := by
  rintro (hself | _ | ⟨hfield, hmem⟩)
  · exact hdata hself
  · exact h _ hmem hfield

theorem holdsWrapper_of_swapped {key : String} {payload w' data data' : Json} (hkey : isWrapperKey key = true)
    (h : Swapped (wrapper key payload) w' data data') : HoldsWrapper data := by
  induction h with
  | here => exact .here (.intro payload hkey)
  | item before after _ ih => exact .item ih (by simp)
  | field before after key _ ih => exact .field ih (List.mem_append_right before List.mem_cons_self)

/-! ## Wrappers inside wrappers -/

section

variable {zone : Zone} {payload : Json} {fields : List (String × Json)} {value : Value}

/-- Two fields of different keys are all the fields of two. -/
theorem forall_of_field?_pair {α : Type} {p : α → Prop} {fields : List (String × α)} {key key' : String} {a a' : α}
    (h : field? fields key = some a) (h' : field? fields key' = some a') (hne : key ≠ key')
    (hlength : fields.length = 2) (ha : p a) (ha' : p a') : ∀ field ∈ fields, p field.2 := by
  have hmem := mem_of_field?_eq_some h
  have hmem' := mem_of_field?_eq_some h'
  obtain ⟨f, g, rfl⟩ := List.length_eq_two.1 hlength
  have hsame : (key, a) ≠ (key', a') := fun hsame => hne (congrArg Prod.fst hsame)
  simp only [List.mem_cons, List.not_mem_nil, or_false] at hmem hmem'
  rcases hmem with rfl | rfl <;> rcases hmem' with heq | heq
  · exact absurd heq.symm hsame
  · simp [← heq, ha, ha']
  · simp [← heq, ha, ha']
  · exact absurd heq.symm hsame

theorem not_holdsWrapper_of_readInteger {bits : ℕ} {b : Bounded bits} (h : readInteger payload fields bits = .ok b) :
    ¬ HoldsWrapper payload := by
  obtain ⟨text, -, rfl, -⟩ := readInteger_eq_ok.1 h
  exact not_holdsWrapper_str text

/-- No binary wrapper has another wrapper in it. -/
theorem not_holdsWrapper_of_readBinary (hpayload : field? fields "$binary" = some payload)
    (h : readBinary payload fields = .ok value) : ∀ field ∈ fields, ¬ HoldsWrapper field.2 := by
  obtain ⟨-, -, -, hpayload'⟩ := exists_of_readBinary h
  rcases hpayload' with
    ⟨inner, text, digits, rfl, hlength, htext, hdigits, hinner⟩ | ⟨text, digits, rfl, hdigits, hlength⟩
  · obtain ⟨⟨key, data⟩, rfl⟩ := List.length_eq_one_iff.1 hlength
    -- two fields, both named and both texts, leave no room for a third
    have hflat : ∀ field ∈ inner, ¬ HoldsWrapper field.2 :=
      forall_of_field?_pair (p := fun data => ¬ HoldsWrapper data) htext hdigits (by decide) hinner
        (not_holdsWrapper_str _) (not_holdsWrapper_str _)
    have hobj : ¬ HoldsWrapper (.obj inner) := by
      refine not_holdsWrapper_obj ?_ hflat
      rintro ⟨payload, -⟩
      simp at hinner
    cases mem_of_field?_eq_some hpayload with
    | head => simpa using hobj
    | tail _ hnil => cases hnil
  · exact forall_of_field?_pair (p := fun data => ¬ HoldsWrapper data) hpayload hdigits (by decide) hlength
      (not_holdsWrapper_str _) (not_holdsWrapper_str _)

/-- No regular expression has a wrapper in it. -/
theorem not_holdsWrapper_of_readRegex (hkeys : payload.DistinctKeys) (h : readRegex payload fields = .ok value) :
    ¬ HoldsWrapper payload := by
  obtain ⟨inner, pattern, rfl, -, hnames, hpattern, hoptions⟩ := exists_of_readRegex h
  refine not_holdsWrapper_obj ?_ fun field hfield => ?_
  · rintro ⟨data, hkey⟩
    -- a wrapper's only key starts with a dollar sign, which neither name does
    rcases hnames _ List.mem_cons_self with rfl | rfl <;> exact absurd hkey (by decide)
  · have hvalue : field? inner field.1 = some field.2 := (field?_eq_some_iff hkeys.1).2 hfield
    rcases hnames field hfield with hname | hname <;> rw [hname] at hvalue
    · rw [hpattern] at hvalue
      rw [← Option.some.inj hvalue]
      exact not_holdsWrapper_str _
    · rcases hoptions with hnone | ⟨options, hsome⟩
      · rw [hnone] at hvalue
        cases hvalue
      · rw [hsome] at hvalue
        rw [← Option.some.inj hvalue]
        exact not_holdsWrapper_str _

/-- A wrapper that has another one in it and stands for a value is a date of a 64-bit integer. -/
theorem date_of_unwrap (hkeys : (Json.obj fields).DistinctKeys) (h : unwrap zone fields = .ok value)
    {field : String × Json} (hmem : field ∈ fields) (hfield : HoldsWrapper field.2) :
    ∃ digits b, fields = [("$date", wrapper "$numberLong" digits)] ∧ readInteger digits fields 64 = .ok b ∧
      value = .dateTime b.value := by
  unfold unwrap at h
  split at h
  · exact absurd hfield (not_holdsWrapper_of_readBinary ‹_› h field hmem)
  · split at h
    case h_10 => cases h
    -- every other wrapper is a single field, and only a date lets a wrapper stand in it
    all_goals obtain rfl := List.mem_singleton.1 hmem
    · obtain ⟨text, -, rfl, -⟩ := exists_of_readObjectId h
      exact absurd hfield (not_holdsWrapper_str text)
    · obtain ⟨millis, rfl, ⟨text, rfl⟩ | ⟨n, rfl⟩ | ⟨digits, b, rfl, hread, rfl⟩⟩ := exists_of_readDate h
      · exact absurd hfield (not_holdsWrapper_str text)
      · exact absurd hfield (not_holdsWrapper_int n)
      · exact ⟨digits, b, rfl, hread, rfl⟩
    · obtain ⟨b, hb, -⟩ := map_eq_ok.1 h
      exact absurd hfield (not_holdsWrapper_of_readInteger hb)
    · obtain ⟨b, hb, -⟩ := map_eq_ok.1 h
      exact absurd hfield (not_holdsWrapper_of_readInteger hb)
    · obtain ⟨text, -, rfl, -⟩ := exists_of_readDouble h
      exact absurd hfield (not_holdsWrapper_str text)
    · obtain ⟨text, -, rfl, -⟩ := exists_of_readDecimal h
      exact absurd hfield (not_holdsWrapper_str text)
    · exact absurd hfield (not_holdsWrapper_of_readRegex hkeys.2.1 h)
    · obtain ⟨rfl, -⟩ := readBound_eq_ok.1 h
      exact absurd hfield (not_holdsWrapper_int 1)
    · obtain ⟨rfl, -⟩ := readBound_eq_ok.1 h
      exact absurd hfield (not_holdsWrapper_int 1)

end

/-! ## One wrapper for another -/

section

variable {zone : Zone} {data data' : Json}

/-- Where items are paired one by one, another item may stand in the place of one with the same partner. -/
theorem exists_of_forall₂_append {α β : Type} {r : α → β → Prop} {before after : List α} {a : α} {bs : List β}
    (h : List.Forall₂ r (before ++ a :: after) bs) (a' : α) :
    ∃ b, r a b ∧ (r a' b → List.Forall₂ r (before ++ a' :: after) bs) := by
  induction before generalizing bs with
  | nil =>
    obtain ⟨b, bs, hb, hbs, rfl⟩ := List.forall₂_cons_left_iff.1 h
    exact ⟨b, hb, fun ha' => .cons ha' hbs⟩
  | cons c before ih =>
    obtain ⟨d, bs, hd, hbs, rfl⟩ := List.forall₂_cons_left_iff.1 h
    obtain ⟨b, hb, hswap⟩ := ih hbs
    exact ⟨b, hb, fun ha' => .cons hd (hswap ha')⟩

theorem decode_long_eq_ok {digits : Json} {value : Value} : decode zone (wrapper "$numberLong" digits) = .ok value ↔
    ∃ b, readInteger digits [("$numberLong", digits)] 64 = .ok b ∧ value = .int64 b := by
  have hunwrap : unwrap zone [("$numberLong", digits)] =
      (readInteger digits [("$numberLong", digits)] 64).map .int64 := rfl
  rw [decode_wrapper zone (by decide), hunwrap, map_eq_ok]
  simp only [eq_comm]

/-- A date takes any wrapper of its milliseconds. -/
theorem unwrap_date_long {digits : Json} {b : Bounded 64} {fields : List (String × Json)}
    (h : readInteger digits fields 64 = .ok b) :
    unwrap zone [("$date", wrapper "$numberLong" digits)] = .ok (.dateTime b.value) := by
  have hunwrap : unwrap zone [("$date", wrapper "$numberLong" digits)] =
      (readInteger digits [("$date", wrapper "$numberLong" digits)] 64).map fun n => .dateTime n.value := rfl
  rw [hunwrap, readInteger_eq_ok.2 (readInteger_eq_ok.1 h)]
  rfl

/-- The wrapper inside a date may be another one with the same key that stands for the same value. -/
theorem exists_of_swapped_date {key : String} {payload payload' digits data' : Json} {b : Bounded 64}
    {fields : List (String × Json)} (hkey : isWrapperKey key = true)
    (h : Swapped (wrapper key payload) (wrapper key payload') (wrapper "$numberLong" digits) data')
    (hdigits : readInteger digits fields 64 = .ok b) :
    ∃ part, decode zone (wrapper key payload) = .ok part ∧ (decode zone (wrapper key payload') = .ok part →
      unwrap zone [("$date", data')] = .ok (.dateTime b.value)) := by
  generalize hdata : wrapper "$numberLong" digits = data at h
  cases h with
  | here =>
    cases hdata
    refine ⟨.int64 b, decode_long_eq_ok.2 ⟨b, readInteger_eq_ok.2 (readInteger_eq_ok.1 hdigits), rfl⟩, fun hother => ?_⟩
    obtain ⟨b', hb', heq⟩ := decode_long_eq_ok.1 hother
    cases heq
    exact unwrap_date_long hb'
  | item before after h => cases hdata
  | field before after current h =>
    -- the digits would hold a wrapper themselves
    have hnone := not_holdsWrapper_of_readInteger hdigits
    have hholds := holdsWrapper_of_swapped hkey h
    cases before with
    | nil =>
      cases hdata
      exact absurd hholds hnone
    | cons field before => simp [wrapper] at hdata

/--
Data decode to the same value behind a swap of wrappers: if data decode, the wrapper in them does, and where the other
wrapper stands for the same value, the other data does so too.
-/
theorem decode_of_swapped {key : String} {payload payload' : Json} (hkey : isWrapperKey key = true)
    (hkeys : data.DistinctKeys) (h : Swapped (wrapper key payload) (wrapper key payload') data data') {value : Value}
    (hdecode : decode zone data = .ok value) :
    ∃ part, decode zone (wrapper key payload) = .ok part ∧
      (decode zone (wrapper key payload') = .ok part → decode zone data' = .ok value) := by
  induction h generalizing value with
  | here => exact ⟨value, hdecode, id⟩
  | @item data data' before after h ih =>
    obtain ⟨values, hvalues, rfl⟩ := decode_arr_eq_ok.1 hdecode
    obtain ⟨inner, hinner, hothers⟩ := exists_of_forall₂_append hvalues data'
    have hdata : data.DistinctKeys := Json.distinctKeysItems_iff.1 hkeys data (by simp)
    obtain ⟨part, hpart, hswap⟩ := ih hdata hinner
    exact ⟨part, hpart, fun hother => decode_arr_eq_ok.2 ⟨values, hothers (hswap hother), rfl⟩⟩
  | @field data data' before after current h ih =>
    have hmem : (current, data) ∈ before ++ (current, data) :: after := List.mem_append_right before List.mem_cons_self
    have hsame : isWrapper (before ++ (current, data') :: after) = isWrapper (before ++ (current, data) :: after) := by
      simp [isWrapper]
    cases hwrapper : isWrapper (before ++ (current, data) :: after) with
    | true =>
      rw [decode, hwrapper, if_pos rfl] at hdecode
      rw [decode, hsame, hwrapper, if_pos rfl]
      -- a date stands alone in its wrapper, and its payload is the wrapper of a 64-bit integer
      obtain ⟨digits, b, heq, hdigits, rfl⟩ := date_of_unwrap hkeys hdecode hmem (holdsWrapper_of_swapped hkey h)
      cases before with
      | nil =>
        cases heq
        exact exists_of_swapped_date hkey h hdigits
      | cons field before => simp at heq
    | false =>
      obtain ⟨doc, hdoc, rfl⟩ := (decode_obj_eq_ok hwrapper).1 hdecode
      obtain ⟨inner, ⟨hcurrent, hvalue⟩, hothers⟩ := exists_of_forall₂_append hdoc (current, data')
      have hdata : data.DistinctKeys := Json.distinctKeysFields_iff.1 hkeys.2 _ hmem
      obtain ⟨part, hpart, hswap⟩ := ih hdata hvalue
      refine ⟨part, hpart, fun hother => ?_⟩
      exact (decode_obj_eq_ok (hsame.trans hwrapper)).2 ⟨doc, hothers ⟨hcurrent, hswap hother⟩, rfl⟩

/-- If the two wrappers stand for the same values, so do the two data. -/
theorem decode_eq_ok_iff_of_swapped {key : String} {payload payload' : Json} (hkey : isWrapperKey key = true)
    (hkeys : data.DistinctKeys) (hkeys' : data'.DistinctKeys)
    (h : Swapped (wrapper key payload) (wrapper key payload') data data')
    (hsame : ∀ value, decode zone (wrapper key payload) = .ok value ↔ decode zone (wrapper key payload') = .ok value)
    (value : Value) : decode zone data = .ok value ↔ decode zone data' = .ok value := by
  constructor
  · intro hdecode
    obtain ⟨part, hpart, hwhole⟩ := decode_of_swapped hkey hkeys h hdecode
    exact hwhole ((hsame part).1 hpart)
  · intro hdecode
    obtain ⟨part, hpart, hwhole⟩ := decode_of_swapped hkey hkeys' h.symm hdecode
    exact hwhole ((hsame part).2 hpart)

end

end DocBrowser.ExtendedJson
