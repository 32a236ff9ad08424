import Mathlib
import DocBrowser.Proofs.ExtendedJson.OwnNan
import DocBrowser.Proofs.ExtendedJson.ReadBack
/-!
# Compiled documents written and compiled again

Every document that compiles can be written, and what is written compiles to an equal document as long as
all of its dates fit in 64 bits and its text has no NaN of its own. A date is not held to 64 bits where it is
read as a bare number, though it is where it is read back from what was written.
-/

namespace DocBrowser

open ExtendedJson (DatesFit ReadsBack Writable)

namespace Query

/-! ## What compiles -/

theorem resolve_eq_ok {zone : Zone} {text : String} {expanded : List Char} {doc : Document}
    (h : resolve zone text expanded = .ok doc) :
    ∃ fields, Json.parse expanded = .ok (.obj fields) ∧
      ExtendedJson.decode zone (.obj fields) = .ok (.document doc) := by
  unfold resolve at h
  split at h
  · cases h
  · cases h
  · split at h <;> cases h
    exact ⟨_, ‹_›, ‹_›⟩
  · cases h

/-- Text that compiles asks for nothing, or its expansion is an object that stands for the document. -/
theorem compile_eq_ok {zone : Zone} {text : String} {doc : Document} (h : compile zone text = .ok doc) :
    isBlank text.toList = true ∧ doc = [] ∨
      ∃ expanded fields, Shorthand.expand zone text.toList = .ok expanded ∧
        Json.parse expanded = .ok (.obj fields) ∧ ExtendedJson.decode zone (.obj fields) = .ok (.document doc) := by
  rw [compile] at h
  split_ifs at h with hblank
  · cases h
    exact .inl ⟨hblank, rfl⟩
  · split at h
    · cases h
    · cases h
    · exact .inr ⟨_, _, ‹_›, (resolve_eq_ok h).choose_spec⟩

/-- Whatever compiles can be written. -/
theorem writable_of_compile {zone : Zone} {text : String} {doc : Document} (h : compile zone text = .ok doc) :
    Writable (.document doc) := by
  rcases compile_eq_ok h with ⟨-, rfl⟩ | ⟨expanded, fields, -, hparse, hdecode⟩
  · exact ⟨⟨List.nodup_nil, trivial⟩, rfl⟩
  · exact ExtendedJson.writable_of_decode (.obj fields) (Json.distinctKeys_of_parseWith hparse) hdecode

@[inherit_doc writable_of_compile]
theorem writable_of_compile? {zone : Zone} {text : Option String} {doc : Document} (h : compile? zone text = .ok doc) :
    Writable (.document doc) := by
  cases text with
  | none =>
    cases h
    exact ⟨⟨List.nodup_nil, trivial⟩, rfl⟩
  | some text => exact writable_of_compile h

/-! ## What compiles again -/

/-- Whether text compiles to a document that is equal to a given one. -/
def CompilesTo (zone : Zone) (text : List Char) (doc : Document) : Prop :=
  ∃ result, compile zone (String.ofList text) = .ok result ∧ Document.same result doc = .ok true

/-- The data that text stands for, unless it asks for nothing. -/
def HasData (zone : Zone) (text : String) (data : Json) : Prop :=
  isBlank text.toList = false ∧
    ∃ expanded, Shorthand.expand zone text.toList = .ok expanded ∧ Json.parse expanded = .ok data

/-- Whether text has a NaN that is not spelled `NaN`. -/
def HasOwnNan (zone : Zone) (text : Option String) : Prop :=
  ∃ given ∈ text, ∃ data, HasData zone given data ∧ ExtendedJson.OwnNan data

/-- Whether two texts compile to equal documents. A document with a NaN of its own is equal to none that is
compiled from another text. -/
def CompileAlike (zone zone' : Zone) (text text' : Option String) : Prop :=
  ∃ doc doc', compile? zone text = .ok doc ∧ compile? zone' text' = .ok doc' ∧ Document.same doc' doc = .ok true ∧
    ¬ HasOwnNan zone text ∧ ¬ HasOwnNan zone' text'

section

variable {zone : Zone} {layout : Json.Layout} (hlayout : layout.Blank) {doc : Document}

include hlayout

/-- Data that is written and compiles is data that decodes to the same document. -/
theorem decode_of_compile_write {fields : List (String × Json)} (hreadable : (Json.obj fields).Readable)
    (h : compile zone (String.ofList (Json.write ⟨layout, false⟩ (.obj fields))) = .ok doc) :
    ExtendedJson.decode zone (.obj fields) = .ok (.document doc) := by
  rcases compile_eq_ok h with ⟨hblank, rfl⟩ | ⟨expanded, fields', hexpand, hparse, hdecode⟩
  · have hfields : fields = [] := by
      by_contra hfields
      rw [String.toList_ofList, isBlank_write_obj hfields] at hblank
      cases hblank
    subst hfields
    rfl
  · rw [String.toList_ofList, Shorthand.expand_write hlayout hreadable] at hexpand
    cases hexpand
    rw [Json.parse, Json.parseWith_write hlayout hreadable] at hparse
    cases hparse
    exact hdecode

/-- What is written of a document and compiles has all of its dates in 64 bits. -/
theorem datesFit_of_compile_write {sortKeys : Bool} {fields : List (String × Json)}
    (hwf : (Value.document doc).WellFormed) (hencode : doc.encode sortKeys = .ok (.obj fields)) {result : Document}
    (h : compile zone (String.ofList (Json.write ⟨layout, false⟩ (.obj fields))) = .ok result) :
    DatesFit (.document doc) := by
  have hreadable := ExtendedJson.readable_encode sortKeys (.document doc) hwf hencode
  have hreads : ReadsBack zone sortKeys (.document doc) :=
    ⟨_, _, hencode, decode_of_compile_write hlayout hreadable h⟩
  exact hreads.datesFit

/-- What is written of a document compiles to an equal one exactly where all of its dates fit in 64 bits. -/
theorem compilesTo_write_iff {sortKeys : Bool} {fields : List (String × Json)} (hwritable : Writable (.document doc))
    (hnumbers : ∀ d, Value.Within (.decimal d) (.document doc) → d.magnitude?.isSome)
    (hencode : doc.encode sortKeys = .ok (.obj fields)) :
    CompilesTo zone (Json.write ⟨layout, false⟩ (.obj fields)) doc ↔ DatesFit (.document doc) := by
  constructor
  · rintro ⟨result, hcompile, -⟩
    exact datesFit_of_compile_write hlayout hwritable.wellFormed hencode hcompile
  · intro hdates
    obtain ⟨written, hwritten, hstands⟩ :=
      Document.encode_eq_ok hwritable.wellFormed hdates sortKeys zone hwritable.plain
    rw [hencode, Except.ok.injEq, Json.obj.injEq] at hwritten
    subst hwritten
    refine ⟨_, compile_write hlayout hstands, ?_⟩
    have hsame := Value.same_arranged sortKeys hwritable.wellFormed hnumbers
    rwa [ExtendedJson.arranged] at hsame

omit doc in
/-- Data is written with a NaN of its own only where it has one. -/
theorem not_hasOwnNan_write {data : Json} (hreadable : data.Readable) (h : ¬ ExtendedJson.OwnNan data) :
    ¬ HasOwnNan zone (some (String.ofList (Json.write ⟨layout, false⟩ data))) := by
  rintro ⟨given, hgiven, found, ⟨-, expanded, hexpand, hparse⟩, hown⟩
  obtain rfl := Option.mem_some.1 hgiven
  rw [String.toList_ofList, Shorthand.expand_write hlayout hreadable] at hexpand
  cases hexpand
  rw [Json.parse, Json.parseWith_write hlayout hreadable] at hparse
  cases hparse
  exact h hown

/-- What is written of a compiled document compiles alike exactly where the dates fit in 64 bits and the text of the
document has no NaN of its own. -/
theorem compileAlike_write_iff {zone' : Zone} {text : Option String} (h : compile? zone' text = .ok doc)
    {sortKeys : Bool} {fields : List (String × Json)}
    (hnumbers : ∀ d, Value.Within (.decimal d) (.document doc) → d.magnitude?.isSome)
    (hencode : doc.encode sortKeys = .ok (.obj fields)) :
    CompileAlike zone' zone text (some (String.ofList (Json.write ⟨layout, false⟩ (.obj fields)))) ↔
      DatesFit (.document doc) ∧ ¬ HasOwnNan zone' text := by
  have hwritable := writable_of_compile? h
  have hiff : CompilesTo zone _ doc ↔ _ := compilesTo_write_iff hlayout hwritable hnumbers hencode
  constructor
  · rintro ⟨found, result, hfound, hresult, hsame, hshared, -⟩
    rw [h, Except.ok.injEq] at hfound
    subst hfound
    exact ⟨hiff.1 ⟨result, hresult, hsame⟩, hshared⟩
  · rintro ⟨hdates, hshared⟩
    obtain ⟨result, hresult, hsame⟩ := hiff.2 hdates
    have hreadable := ExtendedJson.readable_encode sortKeys (.document doc) hwritable.wellFormed hencode
    have hwritten := ExtendedJson.not_ownNan_encode sortKeys (.document doc) hencode
    exact ⟨doc, result, h, hresult, hsame, hshared, not_hasOwnNan_write hlayout hreadable hwritten⟩

end

/-- A document that is written without sorting its keys compiles to itself. -/
theorem compile_format {zone : Zone} {doc : Document} (hwritable : Writable (.document doc))
    (hdates : DatesFit (.document doc)) {line : List Char} (h : doc.format false = .ok line) :
    compile zone (String.ofList line) = .ok doc := by
  obtain ⟨fields, hencode, hstands⟩ := Document.encode_eq_ok hwritable.wellFormed hdates false zone hwritable.plain
  rw [Document.format_of_encode hencode, Except.ok.injEq] at h
  rw [ExtendedJson.arrangedFields_false] at hstands
  exact h ▸ compile_write Json.Layout.compact_blank hstands

/-- A document that is rendered compiles to itself, with its keys in the order of the rendering. -/
theorem compile_render {zone : Zone} {doc : Document} (hwritable : Writable (.document doc))
    (hdates : DatesFit (.document doc)) {sortKeys : Bool} {page : List Char} (h : doc.render sortKeys = .ok page) :
    compile zone (String.ofList page) =
      .ok (ExtendedJson.ordered sortKeys (ExtendedJson.arrangedFields sortKeys doc)) := by
  obtain ⟨fields, hencode, hstands⟩ := Document.encode_eq_ok hwritable.wellFormed hdates sortKeys zone hwritable.plain
  rw [Document.render_of_encode hencode hstands.readable, Except.ok.injEq] at h
  exact h ▸ compile_write Json.Layout.indented_blank hstands

/--
A compiled document without a decimal NaN is written on one line and over many, and either text compiles
in every zone to an equal document exactly where all dates of the document fit in 64 bits and no NaN in
its text is spelled otherwise than `NaN`.
-/
theorem recompiles_iff {zone : Zone} {text : Option String} {doc : Document} (h : compile? zone text = .ok doc)
    (hnumbers : ∀ d, Value.Within (.decimal d) (.document doc) → d.magnitude?.isSome) (sortKeys : Bool) :
    ∃ line page, doc.format sortKeys = .ok line ∧ doc.render sortKeys = .ok page ∧ ∀ zone',
      (CompileAlike zone zone' text (some (String.ofList line)) ↔
        DatesFit (.document doc) ∧ ¬ HasOwnNan zone text) ∧
      (CompileAlike zone zone' text (some (String.ofList page)) ↔
        DatesFit (.document doc) ∧ ¬ HasOwnNan zone text) := by
  have hwritable := writable_of_compile? h
  obtain ⟨data, hdata⟩ := hwritable.encode
  have hreadable := ExtendedJson.readable_encode sortKeys (.document doc) hwritable.wellFormed hdata
  have hrender := Document.render_of_encode hdata hreadable
  obtain ⟨fields, rfl⟩ := Document.encode_eq_obj hdata
  refine ⟨_, _, Document.format_of_encode hdata, hrender, fun zone' => ⟨?_, ?_⟩⟩
  · exact compileAlike_write_iff Json.Layout.compact_blank h hnumbers hdata
  · exact compileAlike_write_iff Json.Layout.indented_blank h hnumbers hdata

/-! ## Dates as bare numbers -/

/-- A document whose only field is a point in time. -/
def momentOf (millis : ℤ) : Document := [("at", .dateTime millis)]

/-- The data of such a document, with its milliseconds as a bare number. -/
def momentData (millis : ℤ) : Json := .obj [("at", ExtendedJson.wrapper "$date" (.int millis))]

/-- A date is read from a bare number of any size. -/
theorem stands_momentData (zone : Zone) {millis : ℤ} (h : millis.natAbs < 10 ^ 20) :
    ExtendedJson.Stands zone (momentData millis) (.document (momentOf millis)) := by
  have hdate : ExtendedJson.Stands zone (ExtendedJson.wrapper "$date" (.int millis)) (.dateTime millis) :=
    ExtendedJson.stands_wrapper (by decide) (h.trans_le (Nat.pow_le_pow_right (by norm_num) (by decide))) rfl
  refine ⟨⟨by simp [keysOf], hdate.readable, trivial⟩, ?_⟩
  rw [momentData, ExtendedJson.decode, ExtendedJson.decodeFields, hdate.decodes]
  rfl

theorem compile_momentData (zone : Zone) {millis : ℤ} (h : millis.natAbs < 10 ^ 20) :
    compile zone (String.ofList (momentData millis).compactText) = .ok (momentOf millis) :=
  compile_write Json.Layout.compact_blank (stands_momentData zone h)

theorem not_hasOwnNan_momentData (zone : Zone) {millis : ℤ} (h : millis.natAbs < 10 ^ 20) :
    ¬ HasOwnNan zone (some (String.ofList (momentData millis).compactText)) := by
  refine not_hasOwnNan_write Json.Layout.compact_blank (stands_momentData zone h).readable ?_
  refine ExtendedJson.not_ownNan_wrapper (by decide) (ExtendedJson.not_ownNan_wrapper (by decide) nofun)

theorem isSome_of_within_momentOf (millis : ℤ) (d : Decimal)
    (h : Value.Within (.decimal d) (.document (momentOf millis))) : d.magnitude?.isSome := by
  cases h with
  | part hpart h =>
    cases List.mem_singleton.1 hpart
    cases h with
    | part hpart => cases hpart

/-- The last millisecond of 64 bits is read back from either text. -/
theorem recompiles_iff_last_moment :
    compile? .utc (some (String.ofList (momentData 9223372036854775807).compactText)) =
      .ok (momentOf 9223372036854775807) ∧
    (∀ d, Value.Within (.decimal d) (.document (momentOf 9223372036854775807)) → d.magnitude?.isSome) ∧
    ∃ line page, Document.format false (momentOf 9223372036854775807) = .ok line ∧
      Document.render false (momentOf 9223372036854775807) = .ok page ∧
      ∀ zone, let text := some (String.ofList (momentData 9223372036854775807).compactText)
        CompileAlike .utc zone text (some (String.ofList line)) ∧
          CompileAlike .utc zone text (some (String.ofList page)) := by
  have hcompile : compile? .utc (some (String.ofList (momentData 9223372036854775807).compactText)) =
      .ok (momentOf 9223372036854775807) := compile_momentData .utc (by decide)
  have hnumbers := isSome_of_within_momentOf 9223372036854775807
  have hdates : DatesFit (.document (momentOf 9223372036854775807)) :=
    ⟨show (Bounded.ofInt? 64 9223372036854775807).isSome by decide, trivial⟩
  have hshared := not_hasOwnNan_momentData .utc (show (9223372036854775807 : ℤ).natAbs < 10 ^ 20 by decide)
  obtain ⟨line, page, hline, hpage, hboth⟩ := recompiles_iff hcompile hnumbers false
  exact ⟨hcompile, hnumbers, line, page, hline, hpage, fun zone =>
    ⟨(hboth zone).1.2 ⟨hdates, hshared⟩, (hboth zone).2.2 ⟨hdates, hshared⟩⟩⟩

/-- One millisecond more compiles and is written, and what is written compiles in no zone. -/
theorem not_compile_format_wide_moment :
    compile? .utc (some "\x7b\"at\":\x7b\"$date\":9223372036854775808\x7d\x7d") =
      .ok (momentOf 9223372036854775808) ∧
    (∀ d, Value.Within (.decimal d) (.document (momentOf 9223372036854775808)) → d.magnitude?.isSome) ∧
    ∃ line, Document.format false (momentOf 9223372036854775808) = .ok line ∧
      ∀ zone result, compile zone (String.ofList line) ≠ .ok result := by
  have htext : (momentData 9223372036854775808).compactText =
      "\x7b\"at\":\x7b\"$date\":9223372036854775808\x7d\x7d".toList := by cbv
  have hcompile := compile_momentData .utc (show (9223372036854775808 : ℤ).natAbs < 10 ^ 20 by decide)
  rw [htext, String.ofList_toList] at hcompile
  have hwritable := writable_of_compile hcompile
  obtain ⟨data, hdata⟩ := hwritable.encode
  obtain ⟨fields, rfl⟩ := Document.encode_eq_obj hdata
  refine ⟨hcompile, isSome_of_within_momentOf _, _, Document.format_of_encode hdata, fun zone result hresult => ?_⟩
  -- where a written document is read its dates fit in 64 bits, and this one is a millisecond beyond
  have hdates := datesFit_of_compile_write Json.Layout.compact_blank hwritable.wellFormed hdata hresult
  have hfits : (Bounded.ofInt? 64 9223372036854775808).isSome := hdates.1
  exact absurd hfits (by decide)

end Query

end DocBrowser
