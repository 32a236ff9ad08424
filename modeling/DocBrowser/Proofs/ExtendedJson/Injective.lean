import Mathlib
import DocBrowser.Proofs.ExtendedJson.Renderable
/-!
# Different values are written differently

What is written of a value is read back as the value, except for dates too far away. These have a form of their
own, so that it is still known which value was written: values with one written form are the same, up to the
order of keys where keys are sorted, and are one value where they are not.
-/

namespace DocBrowser

theorem Text.intText_injective {m n : ℤ} (h : intText m = intText n) : m = n := by
  have hparts := congrArg takeSign h
  rw [takeSign_intText, takeSign_intText, Prod.mk.injEq] at hparts
  have habs : m.natAbs = n.natAbs := by rw [← ofDigitValues_toDigits m.natAbs, hparts.2, ofDigitValues_toDigits]
  rw [← signed_natAbs m, ← signed_natAbs n, hparts.1, habs]

/-- What two lists of items have in common tells that they are mapped to one list. -/
theorem map_eq_of_forall₂ {α β γ : Type} {r : α → β → Prop} {g : α → γ} {as as' : List α} {bs : List β}
    (h : List.Forall₂ r as bs) (h' : List.Forall₂ r as' bs)
    (heq : ∀ a ∈ as, ∀ a' ∈ as', ∀ b, r a b → r a' b → g a = g a') : as.map g = as'.map g := by
  induction h generalizing as' with
  | nil =>
    cases h'
    rfl
  | cons hfirst _ ih =>
    cases h' with
    | cons hfirst' hrest' =>
      have hrest := ih hrest' fun a ha a' ha' => heq a (List.mem_cons_of_mem _ ha) a' (List.mem_cons_of_mem _ ha')
      rw [List.map_cons, List.map_cons, heq _ List.mem_cons_self _ List.mem_cons_self _ hfirst hfirst', hrest]

/-- Data that can be read is written in one way on one line. -/
theorem Json.eq_of_compactText_eq {data data' : Json} (h : data.Readable) (h' : data'.Readable)
    (heq : data.compactText = data'.compactText) : data = data' := by
  have hread : parse data.compactText = .ok data := parseWith_write Layout.compact_blank h
  have hread' : parse data'.compactText = .ok data' := parseWith_write Layout.compact_blank h'
  rw [heq] at hread
  exact Except.ok.inj (hread.symm.trans hread')

namespace ExtendedJson

/-- A point in time is written in its own way, however far away it is. -/
theorem ofMillis_injective {m n : ℤ} (h : ofMillis m = ofMillis n) : m = n := by
  unfold ofMillis wrapper at h
  -- a text and a number are told apart, and each of them is read back
  split at h
  · rename_i text htext
    split at h
    · rename_i text' htext'
      simp only [Json.obj.injEq, List.cons.injEq, Prod.mk.injEq, Json.str.injEq, String.ofList_inj, true_and, and_true] at h
      subst h
      obtain ⟨t, hparse, rfl⟩ := Timestamp.parse_utcText .utc htext
      obtain ⟨t', hparse', rfl⟩ := Timestamp.parse_utcText .utc htext'
      rw [Except.ok.inj (hparse.symm.trans hparse')]
    · simp at h
  · split at h
    · simp at h
    · simp only [Json.obj.injEq, List.cons.injEq, Prod.mk.injEq, Json.str.injEq, String.ofList_inj, true_and, and_true] at h
      exact Text.intText_injective h

variable {sortKeys : Bool}

/-! ## Values without parts -/

/-- A value without parts is decoded from what is written of it, unless it is a date. -/
theorem decode_of_encode_bare {value : Value} (hwf : value.WellFormed) (hbare : value.isNested = false) {data : Json}
    (h : encode sortKeys value = .ok data) :
    (∃ millis, value = .dateTime millis ∧ data = ofMillis millis) ∨ decode .utc data = .ok value := by
  cases value with
  | dateTime millis =>
    cases h
    exact .inl ⟨millis, rfl, rfl⟩
  | array | document => cases hbare
  | foreign => exact hwf.elim
  | _ =>
    -- only dates may lie too far away
    right
    obtain ⟨data', hdata', hstands⟩ := encode_stands .utc sortKeys _ hwf trivial rfl
    cases h
    cases hdata'
    exact hstands.decodes

theorem eq_dateTime_of_decode {millis : ℤ} {value : Value} (h : decode .utc (ofMillis millis) = .ok value) :
    value = .dateTime millis := by
  have hread := (stands_ofMillis .utc (isSome_of_decode_ofMillis h)).decodes
  exact Except.ok.inj (h.symm.trans hread)

theorem eq_of_encode_bare {a b : Value} (ha : a.WellFormed) (hb : b.WellFormed) (hbare : a.isNested = false)
    (hbare' : b.isNested = false) {data : Json} (h : encode sortKeys a = .ok data) (h' : encode sortKeys b = .ok data) :
    a = b := by
  rcases decode_of_encode_bare ha hbare h with ⟨m, rfl, rfl⟩ | hdecode
  · rcases decode_of_encode_bare hb hbare' h' with ⟨n, rfl, hdata⟩ | hdecode'
    · rw [ofMillis_injective hdata]
    · exact (eq_dateTime_of_decode hdecode').symm
  · rcases decode_of_encode_bare hb hbare' h' with ⟨n, rfl, rfl⟩ | hdecode'
    · exact eq_dateTime_of_decode hdecode
    · exact Except.ok.inj (hdecode.symm.trans hdecode')

/-! ## Arrays and documents -/

/-- What data is for: a value without parts, an array or a document. -/
inductive Shape where
  | bare
  | items
  | fields
  deriving DecidableEq

/-- The shape of a value. -/
def valueShape : Value → Shape
  | .array _ => .items
  | .document _ => .fields
  | _ => .bare

/-- The shape of what data is written for: an object is a document unless it is a wrapper. -/
def dataShape : Json → Shape
  | .arr _ => .items
  | .obj fields => if isWrapper fields then .bare else .fields
  | _ => .bare

theorem dataShape_of_encode {value : Value} {data : Json} (h : encode sortKeys value = .ok data) :
    dataShape data = valueShape value := by
  cases value with
  | array items =>
    obtain ⟨written, -, rfl⟩ := encode_array_eq_ok.1 h
    rfl
  | document fields =>
    obtain ⟨hplain, written, hwritten, rfl⟩ := encode_document_eq_ok.1 h
    -- the clash check keeps a document's own keys from reading as a wrapper, in whatever order they stand
    rw [dataShape, isWrapper_of_becomes hwritten, hplain]
    rfl
  | double d =>
    cases h
    cases d <;> rfl
  | dateTime millis =>
    cases h
    unfold ofMillis
    split <;> rfl
  | foreign => cases h
  | _ =>
    cases h
    rfl

/-- Fields that are written alike have the same keys, with values that are written alike. -/
theorem map_arranged_eq_of_becomes {as bs : Document}
    (hparts : ∀ field ∈ as, ∀ field' ∈ bs, ∀ data, encode sortKeys field.2 = .ok data →
      encode sortKeys field'.2 = .ok data → arranged sortKeys field.2 = arranged sortKeys field'.2)
    {written : List (String × Json)} (h : List.Forall₂ (Becomes (encode sortKeys)) as written)
    (h' : List.Forall₂ (Becomes (encode sortKeys)) bs written) :
    (as.map fun field => (field.1, arranged sortKeys field.2)) =
      bs.map fun field => (field.1, arranged sortKeys field.2) := by
  apply map_eq_of_forall₂ h h'
  rintro field hfield field' hfield' written ⟨hkey, hdata⟩ ⟨hkey', hdata'⟩
  rw [← hkey, ← hkey', hparts field hfield field' hfield' _ hdata hdata']

/-- Values with one written form are the same up to the order of their keys. -/
theorem arranged_eq_of_encode {a b : Value} (ha : a.WellFormed) (hb : b.WellFormed) {data : Json}
    (h : encode sortKeys a = .ok data) (h' : encode sortKeys b = .ok data) : arranged sortKeys a = arranged sortKeys b := by
  induction a using Value.parts_induction generalizing b data with
  | step a ih =>
    -- the data tell arrays, documents and scalars apart, so `b` is of the same sort as `a`
    have hshape : valueShape a = valueShape b := (dataShape_of_encode h).symm.trans (dataShape_of_encode h')
    cases a with
    | array as =>
      cases b with
      | array bs =>
        obtain ⟨written, hwritten, rfl⟩ := encode_array_eq_ok.1 h
        obtain ⟨written', hwritten', hdata⟩ := encode_array_eq_ok.1 h'
        cases hdata
        have hitems : as.map (arranged sortKeys) = bs.map (arranged sortKeys) :=
          map_eq_of_forall₂ hwritten hwritten' fun a hmem b hmem' _ =>
            ih a hmem (ha.part hmem) (hb.part hmem')
        rw [arranged, arranged, arrangedItems_eq_map, arrangedItems_eq_map, hitems]
      | _ => cases hshape
    | document as =>
      cases b with
      | document bs =>
        obtain ⟨-, written, hwritten, rfl⟩ := encode_document_eq_ok.1 h
        obtain ⟨-, written', hwritten', hdata⟩ := encode_document_eq_ok.1 h'
        cases hdata
        have hfields := map_arranged_eq_of_becomes (fun field hfield field' hfield' data => by
          have hmem := Value.mem_parts_document ((ordered_perm sortKeys as).mem_iff.1 hfield)
          have hmem' := Value.mem_parts_document ((ordered_perm sortKeys bs).mem_iff.1 hfield')
          exact ih _ hmem (ha.part hmem) (hb.part hmem')) hwritten hwritten'
        rw [arranged, arranged, ordered_arrangedFields, ordered_arrangedFields, hfields]
      | _ => cases hshape
    | _ =>
      cases b with
      | array | document => cases hshape
      | _ => rw [eq_of_encode_bare ha hb rfl rfl h h']

/-- In the order of their own keys, values with one written form are one value. -/
theorem eq_of_encode {a b : Value} (ha : a.WellFormed) (hb : b.WellFormed) {data : Json}
    (h : encode false a = .ok data) (h' : encode false b = .ok data) : a = b := by
  rw [← arranged_false a, ← arranged_false b]
  exact arranged_eq_of_encode ha hb h h'

end ExtendedJson

/-- Nested values that are ordered by one text are one value. -/
theorem Value.eq_of_nestedText {a b : Value} (ha : a.WellFormed) (hb : b.WellFormed) {text : String}
    (h : a.nestedText = .ok text) (h' : b.nestedText = .ok text) : a = b := by
  -- a nested text is the line of a document with one field, which is compared in its place
  have hfield {value : Value} (hwf : value.WellFormed) : (Value.document [("v", value)]).WellFormed :=
    ⟨by simp [keysOf], hwf, trivial⟩
  have hformat {value : Value} (hwf : value.WellFormed) (h : value.nestedText = .ok text) :
      ∃ data, ExtendedJson.encode false (.document [("v", value)]) = .ok data ∧ data.Readable ∧
        data.compactText = text.toList := by
    rw [nestedText] at h
    split at h
    · rename_i line hline
      cases h
      obtain ⟨data, hdata, rfl⟩ := map_eq_ok.1 hline
      exact ⟨data, hdata, ExtendedJson.readable_encode false _ (hfield hwf) hdata, String.toList_ofList.symm⟩
    · cases h
  obtain ⟨data, hdata, hreadable, htext⟩ := hformat ha h
  obtain ⟨data', hdata', hreadable', htext'⟩ := hformat hb h'
  have heq := Json.eq_of_compactText_eq hreadable hreadable' (htext.trans htext'.symm)
  subst heq
  simpa using ExtendedJson.eq_of_encode (hfield ha) (hfield hb) hdata hdata'

end DocBrowser
