import Mathlib
import DocBrowser.Proofs.Query.BareKeys
import DocBrowser.Proofs.Query.Quoting
/-!
# Regular expressions between slashes

A regular expression ends at the first slash that is neither escaped nor inside a character class. So it is written
as an object with its pattern and its flags as they stand, wherever a value may start, and what follows it is read as
if any other value stood there. In an array of regular expressions and scalars every item keeps its place.
-/

namespace DocBrowser.Shorthand

open Json (Delimited isSpace lineField)
open Text (StopsAt stopsAt_cons)

/-! ## Patterns -/

/--
The signs of a pattern from inside or outside a character class up to its closing slash: a backslash takes the sign
behind it along, brackets open and close a class, a slash stands inside a class only, and no line ends.
-/
inductive Pattern : Bool → List Char → Prop where
  | nil : Pattern false []
  | escaped {inClass : Bool} {signs : List Char} (c : Char) (h : Pattern inClass signs) :
    Pattern inClass ('\\' :: c :: signs)
  | opening {inClass : Bool} {signs : List Char} (h : Pattern true signs) : Pattern inClass ('[' :: signs)
  | closing {inClass : Bool} {signs : List Char} (h : Pattern false signs) : Pattern inClass (']' :: signs)
  | plain {inClass : Bool} {c : Char} {signs : List Char} (ne : c ∉ ['\\', '[', ']', '\n'])
    (slash : c = '/' → inClass = true) (h : Pattern inClass signs) : Pattern inClass (c :: signs)

/-- A pattern is scanned to its closing slash, whatever follows. -/
theorem Pattern.patternLength_eq {inClass : Bool} {signs : List Char} (h : Pattern inClass signs) (more : List Char) :
    patternLength inClass (signs ++ '/' :: more) = (signs.length, true) := by
  induction h with
  | nil =>
    rw [List.nil_append, patternLength_of_ne (by decide)]
    rfl
  | escaped c _ ih =>
    rw [List.cons_append, List.cons_append, patternLength, ih]
    rfl
  | opening _ ih =>
    rw [List.cons_append, patternLength_of_ne (by decide)]
    simp [ih]
  | closing _ ih =>
    rw [List.cons_append, patternLength_of_ne (by decide)]
    simp [ih]
  -- outside a class a slash would close the pattern, inside one it is a sign like any other
  | plain hne hslash _ ih =>
    simp only [List.mem_cons, List.not_mem_nil, or_false, not_or] at hne
    obtain ⟨hbackslash, hopening, hclosing, hline⟩ := hne
    rw [List.cons_append, patternLength_of_ne hbackslash, if_neg hline, if_neg (by simpa using hslash)]
    simp [hopening, hclosing, ih]

/-- The text of a regular expression. -/
def regexText (pattern flags : List Char) : List Char := '/' :: (pattern ++ '/' :: flags)

/-- The data of a regular expression: its pattern, and its flags where it has any. -/
def regexData (pattern flags : List Char) : Json :=
  .obj (("$regex", .str (String.ofList pattern)) ::
    if flags = [] then [] else [("$options", .str (String.ofList flags))])

/-- The document of a regular expression: its pattern, and its flags where it has any. -/
def regexDocument (pattern flags : List Char) : Document :=
  ("$regex", .string (String.ofList pattern)) ::
    if flags = [] then [] else [("$options", .string (String.ofList flags))]

/-- The data of a regular expression as it is written. -/
def regexWritten (pattern flags : List Char) : List Char :=
  '\x7b' :: (lineField "$regex".toList (Json.writeText false pattern) ++
    ((if flags = [] then [] else ',' :: ' ' :: lineField "$options".toList (Json.writeText true flags)) ++ ['\x7d']))

theorem decode_regexData (zone : Zone) (pattern flags : List Char) :
    ExtendedJson.decode zone (regexData pattern flags) = .ok (.document (regexDocument pattern flags)) := by
  rw [regexData, regexDocument]
  split_ifs <;> rfl

theorem delimited_regexWritten (pattern flags : List Char) :
    Delimited (regexWritten pattern flags) (regexData pattern flags) := by
  have hregex : Json.Literal "$regex".toList "$regex".toList := Json.literal_flatMap false "$regex".toList
  have hoptions : Json.Literal "$options".toList "$options".toList := Json.literal_flatMap false "$options".toList
  rw [regexWritten, regexData]
  split_ifs
  · exact Json.delimited_lineField hregex (Json.delimited_writeText false pattern).bounded
  · have hfields := Json.delimited_lineFields hregex hoptions (by decide)
      (Json.delimited_writeText false pattern).bounded (Json.delimited_writeText true flags).bounded
    simpa using hfields

theorem parse_regexWritten (pattern flags : List Char) :
    Json.parse (regexWritten pattern flags) = .ok (regexData pattern flags) := by
  refine (delimited_regexWritten pattern flags).parse ?_
  rw [regexWritten, List.head?_cons]
  decide

section

variable {pattern flags : List Char} (hpattern : Pattern false pattern) (hne : pattern ≠ [])
  (hflags : ∀ c ∈ flags, isFlag c = true)

include hpattern hne hflags

theorem readRegex_regexText {rest : List Char} (hrest : StopsAt Text.isLetter rest) :
    readRegex (pattern ++ '/' :: (flags ++ rest)) =
      .ok ⟨regexWritten pattern flags, '\x7d', pattern.length + 2 + flags.length⟩ := by
  -- every flag is a letter, so the flags end where the letters end
  have hletters : ∀ c ∈ flags, Text.isLetter c = true := by
    have hall : ∀ c ∈ "gimsux".toList, Text.isLetter c = true := by simp [Text.isLetter]
    intro c hc
    have hflag := hflags c hc
    rw [isFlag, List.contains_eq_mem, decide_eq_true_eq] at hflag
    exact hall c hflag
  have hdrop : (pattern ++ '/' :: (flags ++ rest)).drop (pattern.length + 1) = flags ++ rest :=
    List.drop_length_add_append 1
  rw [readRegex, hpattern.patternLength_eq]
  dsimp only
  rw [List.take_left, hdrop, Text.takeWhile_run hletters hrest, if_neg (by simp), if_neg hne,
    if_pos (by simpa using hflags), regexWritten]
  split_ifs <;> simp [lineField, Json.fieldText, Json.writeText]

/-- Where a value may start, a regular expression is written as an object. -/
theorem expandFrom_regexText {zone : Zone} {text rest : List Char} {last : Option Char} (hlast : opensValue last = true)
    (hrest : StopsAt Text.isLetter rest) : expandFrom zone text last (regexText pattern flags ++ rest) =
      (expandFrom zone text (some '\x7d') rest).map (regexWritten pattern flags ++ ·) := by
  have hpiece : readPiece zone text last '/' (pattern ++ '/' :: (flags ++ rest)) =
      .ok ⟨regexWritten pattern flags, '\x7d', pattern.length + 2 + flags.length⟩ := by
    rw [readPiece, if_neg (by decide), if_pos (by simp [hlast])]
    exact readRegex_regexText hpattern hne hflags hrest
  have hdrop : (pattern ++ '/' :: (flags ++ rest)).drop (pattern.length + 2 + flags.length - 1) = rest := by
    rw [show pattern.length + 2 + flags.length - 1 = pattern.length + (1 + flags.length) by omega, ← List.drop_drop,
      List.drop_left, ← List.drop_drop]
    exact List.drop_left
  rw [regexText, List.cons_append, List.append_assoc, List.cons_append, expandFrom_piece (by decide) hpiece, hdrop]

end

/-! ## Texts of values -/

/-- Whether a text is expanded to JSON that stands for a value, where a value may start and behind what ends it. -/
def StandsFor (zone : Zone) (cs : List Char) (value : Value) : Prop :=
  ∀ text last, opensValue last = true → ∃ written data, Json.parse written = .ok data ∧
    ExtendedJson.decode zone data = .ok value ∧ ∀ rest, EndsPiece rest → ∃ last',
      expandFrom zone text last (cs ++ rest) = (expandFrom zone text last' rest).map (written ++ ·)

/-- A text with white space around it. -/
def Spaced (cs spaced : List Char) : Prop :=
  ∃ gap gap', (∀ c ∈ gap, isSpace c = true) ∧ (∀ c ∈ gap', isSpace c = true) ∧ spaced = gap ++ (cs ++ gap')

theorem expandFrom_gap {zone : Zone} {text gap : List Char} (h : ∀ c ∈ gap, isSpace c = true) {last : Option Char}
    {rest : List Char} : expandFrom zone text last (gap ++ rest) = (expandFrom zone text last rest).map (gap ++ ·) :=
  (kept_gap last rest h).expandFrom_append

theorem nextSign_gap {gap rest : List Char} {c : Char} (hgap : ∀ c ∈ gap, isSpace c = true)
    (hc : Text.isBlank c = false) : nextSign (gap ++ c :: rest) = some c := by
  have hskip : skipBlanks (gap ++ c :: rest) = c :: rest :=
    Text.dropWhile_run (fun d hd => Json.isBlank_of_isSpace (hgap d hd)) (stopsAt_cons.2 hc)
  rw [nextSign, hskip, List.head?_cons]

/-- White space in front of what ends a piece ends a piece. -/
theorem endsPiece_gap {gap : List Char} (hgap : ∀ c ∈ gap, isSpace c = true) {rest : List Char} (h : EndsPiece rest) :
    EndsPiece (gap ++ rest) := by
  induction gap with
  | nil => exact h
  | cons c gap ih =>
    rw [List.forall_mem_cons] at hgap
    have hrest := ih hgap.2
    refine endsPiece_cons (Json.isBlank_of_isSpace hgap.1) ?_
    have hsign := hrest.sign
    have hopening := hrest.opening
    simp only [List.mem_cons, List.not_mem_nil, or_false]
    tauto

theorem endsPiece_sign {c : Char} (rest : List Char) (hc : c ∈ ['\x7d', ']', ',']) : EndsPiece (c :: rest) := by
  refine ⟨endsValue_sign rest hc, ?_⟩
  have hblank : ∀ d ∈ ['\x7d', ']', ','], Text.isBlank d = false := by simp [Text.isBlank]
  have hsign : nextSign ([] ++ c :: rest) = some c := nextSign_gap (List.forall_mem_nil _) (hblank c hc)
  rw [List.nil_append] at hsign
  rw [hsign, Ne, Option.some.injEq]
  rintro rfl
  simp at hc

section

variable {zone : Zone} {cs : List Char} {value : Value}

/-- JSON stands for the value of its data. -/
theorem standsFor_of_parse {data : Json} (hparse : Json.parse cs = .ok data)
    (hdecode : ExtendedJson.decode zone data = .ok value) : StandsFor zone cs value := by
  intro text last _
  obtain ⟨hmark, hreads⟩ := Json.parse_eq_ok.1 hparse
  obtain ⟨written, hexpand, hhead, htokens⟩ : Tells zone text last cs _ := tells_of_reads last hreads
  refine ⟨written, data, Json.parse_eq_ok.2 ⟨hhead ▸ hmark, htokens 0 ▸ hreads⟩, hdecode, fun rest hrest => ?_⟩
  exact expandFrom_append hrest hexpand text

/-- A regular expression stands for its document. -/
theorem standsFor_regexText {pattern flags : List Char} (hpattern : Pattern false pattern) (hne : pattern ≠ [])
    (hflags : ∀ c ∈ flags, isFlag c = true) :
    StandsFor zone (regexText pattern flags) (.document (regexDocument pattern flags)) := by
  intro text last hlast
  refine ⟨_, _, parse_regexWritten pattern flags, decode_regexData zone pattern flags,
    fun rest hrest => ⟨_, expandFrom_regexText hpattern hne hflags hlast ?_⟩⟩
  exact stopsAt_of_bare (fun _ => isBareChar_of_isLetter) hrest.bare

theorem StandsFor.spaced {spaced : List Char} (h : StandsFor zone cs value) (hspaced : Spaced cs spaced) :
    StandsFor zone spaced value := by
  obtain ⟨gap, gap', hgap, hgap', rfl⟩ := hspaced
  intro text last hlast
  obtain ⟨written, data, hparse, hdecode, hexpand⟩ := h text last hlast
  refine ⟨gap ++ (written ++ gap'), data, Json.parse_spaced hparse hgap hgap', hdecode, fun rest hrest => ?_⟩
  obtain ⟨last', hlast'⟩ := hexpand (gap' ++ rest) (endsPiece_gap hgap' hrest)
  refine ⟨last', ?_⟩
  rw [List.append_assoc, List.append_assoc, expandFrom_gap hgap, hlast', expandFrom_gap hgap']
  cases expandFrom zone text last' rest <;> simp [Except.map]

/-- A comma or the closing bracket comes behind an item. -/
theorem endsPiece_items (items : List (List Char)) (rest : List Char) :
    EndsPiece (items.flatMap ([','] ++ ·) ++ ']' :: rest) := by
  cases items with
  | nil => exact endsPiece_sign rest (by decide)
  | cons => exact endsPiece_sign _ (by decide)

/-- The items behind the first one stand for their values, each behind a comma. -/
theorem exists_expandFrom_items {items : List (List Char)} {values : List Value}
    (h : List.Forall₂ (StandsFor zone) items values) (text : List Char) :
    ∃ writtens datas, List.Forall₂ (fun written data => Json.parse written = .ok data) writtens datas ∧
      ExtendedJson.decodeItems zone datas = .ok values ∧ ∀ last rest,
        expandFrom zone text last (items.flatMap ([','] ++ ·) ++ ']' :: rest) =
          (expandFrom zone text (some ']') rest).map (writtens.flatMap ([','] ++ ·) ++ ']' :: ·) := by
  -- on the items, each with the comma in front of it, so that a value may open wherever one is read
  induction h with
  | nil => exact ⟨[], [], .nil, rfl, fun last rest => expandFrom_sign (by decide) last rest⟩
  | @cons item value items values hitem _ ih =>
    obtain ⟨written, data, hparse, hdecode, hexpand⟩ := hitem text (some ',') rfl
    obtain ⟨writtens, datas, hparses, hdecodes, hexpands⟩ := ih
    refine ⟨written :: writtens, data :: datas, .cons hparse hparses, ?_, fun last rest => ?_⟩
    · rw [ExtendedJson.decodeItems, hdecode, hdecodes]
      rfl
    · obtain ⟨last', hlast'⟩ := hexpand _ (endsPiece_items items rest)
      rw [List.flatMap_cons, List.append_assoc, List.append_assoc, List.singleton_append,
        expandFrom_sign (by decide), hlast', hexpands]
      cases expandFrom zone text (some ']') rest <;> simp [Except.map]

/-- An array stands for the values of its items. -/
theorem standsFor_array {items : List (List Char)} {values : List Value}
    (h : List.Forall₂ (StandsFor zone) items values) :
    StandsFor zone ('[' :: (Text.joinWith [','] items ++ [']'])) (.array values) := by
  intro text last _
  cases h with
  | nil =>
    refine ⟨['[', ']'], .arr [], Json.parse_array .nil, rfl, fun rest _ => ⟨some ']', ?_⟩⟩
    have hopen : expandFrom zone text last ('[' :: ']' :: rest) = _ := expandFrom_sign (by decide) last _
    rw [Text.joinWith, List.nil_append, List.cons_append, List.singleton_append, hopen, expandFrom_sign (by decide)]
    cases expandFrom zone text (some ']') rest <;> rfl
  -- the first item stands behind the bracket, all others behind a comma
  | @cons item value items values hitem hitems =>
    obtain ⟨written, data, hparse, hdecode, hexpand⟩ := hitem text (some '[') rfl
    obtain ⟨writtens, datas, hparses, hdecodes, hexpands⟩ := exists_expandFrom_items hitems text
    refine ⟨_, _, Json.parse_array (.cons hparse hparses), ?_, fun rest _ => ⟨some ']', ?_⟩⟩
    · rw [ExtendedJson.decode, ExtendedJson.decodeItems, hdecode, hdecodes]
      rfl
    · obtain ⟨last', hlast'⟩ := hexpand _ (endsPiece_items items rest)
      rw [Text.joinWith_cons, Text.joinWith_cons, List.cons_append, List.append_assoc, List.append_assoc,
        List.singleton_append, expandFrom_sign (by decide), hlast', hexpands]
      cases expandFrom zone text (some ']') rest <;> simp [Except.map]

end

/-! ## Documents of one field -/

/-- The ways to write a key: between quotes of either kind, or without quotes. -/
inductive KeyText (key : List Char) : List Char → Prop where
  | quoted {quote : Char} {raw : List Char} (isQuote : isQuote quote = true) (spelled : Spelled quote raw key) :
    KeyText key (quote :: (raw ++ [quote]))
  | bare (isKey : IsKey key) (free : ¬ TakenForBound key) : KeyText key key

/-- In front of its colon a key is written between double quotes. -/
theorem KeyText.exists_expandFrom {zone : Zone} {text key cs rest : List Char} (h : KeyText key cs)
    (hrest : nextSign rest = some ':') : ∃ ascii, expandFrom zone text (some '\x7b') (cs ++ rest) =
      (expandFrom zone text (some '"') rest).map (Json.writeText ascii key ++ ·) := by
  cases h with
  | quoted hquote hspelled =>
    refine ⟨false, ?_⟩
    rw [List.cons_append, List.append_assoc, List.singleton_append]
    exact hspelled.expandFrom hquote (some '\x7b') rest
  -- a bare key is quoted where it stands behind an opening brace or a comma
  | bare hkey hfree =>
    obtain ⟨c, cs, rfl⟩ := List.exists_cons_of_ne_nil hkey.1
    have hblank : Text.isBlank c = false :=
      isBlank_of_isBareChar (isBareChar_of_isKeyChar (hkey.2 c List.mem_cons_self)).1
    have hexpand : expandFrom zone text (some '\x7b') (c :: (cs ++ rest)) = _ :=
      expandFrom_piece hblank (readPiece_key hkey hrest hfree (.inl rfl))
    rw [List.length_cons, Nat.add_sub_cancel, List.drop_left] at hexpand
    exact ⟨true, hexpand⟩

/-- The text of a key shows a sign that is no sign of structure. -/
theorem KeyText.exists_visible {key cs : List Char} (h : KeyText key cs) :
    ∃ c ∈ cs, Text.isBlank c = false ∧ c ∉ structureSigns := by
  cases h with
  | @quoted quote raw hquote =>
    refine ⟨quote, List.mem_cons_self, isBlank_of_isQuote hquote, fun hsign => ?_⟩
    simp only [isQuote, Bool.or_eq_true, decide_eq_true_eq] at hquote
    rcases hquote with rfl | rfl <;> simp [structureSigns] at hsign
  | bare hkey =>
    obtain ⟨c, hc⟩ := List.exists_mem_of_ne_nil _ hkey.1
    exact ⟨c, hc, isBlank_of_isBareChar (isBareChar_of_isKeyChar (hkey.2 c hc)).1,
      not_mem_structureSigns_of_isKeyChar (hkey.2 c hc)⟩

/-- The text of a document of one field. -/
def documentText (key value : List Char) : List Char := '\x7b' :: (key ++ ':' :: (value ++ ['\x7d']))

/-- A document of one field is expanded to an object of that field. -/
theorem exists_expand_documentText {zone : Zone} {key keyText keySpaced cs text : List Char} {value : Value}
    (hkey : KeyText key keyText) (hspaced : Spaced keyText keySpaced) (hvalue : StandsFor zone cs value)
    (htext : Spaced (documentText keySpaced cs) text) :
    ∃ written data, expand zone text = .ok written ∧ Json.parse written = .ok (.obj [(String.ofList key, data)]) ∧
      ExtendedJson.decode zone data = .ok value := by
  obtain ⟨gap₁, gap₂, hgap₁, hgap₂, rfl⟩ := hspaced
  obtain ⟨gap, gap', hgap, hgap', rfl⟩ := htext
  obtain ⟨written, data, hparse, hdecode, hexpand⟩ := hvalue [] (some ':') rfl
  obtain ⟨last, hlast⟩ := hexpand ('\x7d' :: gap') (endsPiece_sign gap' (by decide))
  have hcolon : nextSign (gap₂ ++ ':' :: (cs ++ '\x7d' :: gap')) = some ':' := nextSign_gap hgap₂ (by decide)
  obtain ⟨ascii, hascii⟩ : ∃ ascii, expandFrom zone [] _ _ = (expandFrom zone [] _ _).map (Json.writeText ascii key ++ ·) :=
    hkey.exists_expandFrom hcolon
  refine ⟨gap ++ ('\x7b' :: (gap₁ ++ (Json.fieldText (key.flatMap (Json.writeChar ascii)) gap₂ [] written ++
    ([] ++ ['\x7d']))) ++ gap'), data, ?_, ?_, hdecode⟩
  · -- from left to right: the brace, the key, the colon, the value and the closing brace, with the gaps kept
    refine @expandFrom_eq_ok _ zone [] none _ ?_ _
    have hend : expandFrom zone [] (some '\x7d') gap' = .ok gap' := by
      rw [← List.append_nil gap', expandFrom_gap hgap', expandFrom]
      rfl
    simp only [documentText, List.append_assoc, List.cons_append, List.nil_append]
    rw [expandFrom_gap hgap, expandFrom_sign (by decide), expandFrom_gap hgap₁, hascii, expandFrom_gap hgap₂,
      expandFrom_sign (by decide), hlast, expandFrom_sign (by decide), hend]
    simp [Except.map, Json.fieldText, Json.writeText]
  · refine Json.parse_spaced ?_ hgap hgap'
    have hfield := Json.delimited_field (Json.literal_flatMap ascii key) hgap₂ (List.forall_mem_nil _)
      (Json.bounded_of_parse hparse) hgap₁ (List.forall_mem_nil _)
    exact hfield.parse (by rw [List.head?_cons]; decide)

end DocBrowser.Shorthand

namespace DocBrowser.Query

open Shorthand (isFlag Pattern regexText regexDocument StandsFor Spaced KeyText documentText)

/-- A document of one field compiles to the value that stands there, under a key that is not one of wrappers. -/
theorem compile_documentText {zone : Zone} {key keyText keySpaced cs text : List Char} {value : Value}
    (hplain : ExtendedJson.isWrapperKey (String.ofList key) = false) (hkey : KeyText key keyText)
    (hspaced : Spaced keyText keySpaced) (hvalue : StandsFor zone cs value)
    (htext : Spaced (documentText keySpaced cs) text) :
    compile zone (String.ofList text) = .ok [(String.ofList key, value)] := by
  obtain ⟨written, data, hexpand, hparse, hdecode⟩ :=
    Shorthand.exists_expand_documentText hkey hspaced hvalue htext
  -- the key has a visible character, so the text is not taken for an empty one
  have hvisible : isBlank text = false := by
    obtain ⟨c, hc, hblank, hsign⟩ := hkey.exists_visible
    obtain ⟨gap₁, gap₂, -, -, rfl⟩ := hspaced
    obtain ⟨gap, gap', -, -, rfl⟩ := htext
    exact isBlank_eq_false_of_mem (c := c) (by simp [documentText, hc]) hblank hsign
  refine compile_of_expand hvisible hexpand hparse ?_
  have hwrapper : ExtendedJson.isWrapper [(String.ofList key, data)] = false := by
    simp [ExtendedJson.isWrapper, hplain]
  rw [ExtendedJson.decode, hwrapper, ExtendedJson.decodeFields, hdecode]
  rfl

/-- The value of a scalar of JSON; a whole number has one if it fits in 64 bits. -/
def scalarValue? : Json → Option Value
  | .null => some .null
  | .bool value => some (.bool value)
  | .int n => Value.ofInt? n
  | .float value => some (.double value)
  | .str value => some (.string value)
  | .arr _ | .obj _ => none

/-- The text of an item of an array and its value: a regular expression, or a scalar of JSON. -/
inductive Item : List Char → Value → Prop where
  | regex {pattern flags : List Char} (scans : Pattern false pattern) (ne : pattern ≠ [])
    (known : ∀ c ∈ flags, isFlag c = true) : Item (regexText pattern flags) (.document (regexDocument pattern flags))
  | scalar {text : List Char} {data : Json} {value : Value} (parses : Json.parse text = .ok data)
    (eq : scalarValue? data = some value) : Item text value

theorem decode_of_scalarValue? (zone : Zone) {data : Json} {value : Value} (h : scalarValue? data = some value) :
    ExtendedJson.decode zone data = .ok value := by
  cases data with
  | int n => rw [ExtendedJson.decode, show Value.ofInt? n = some value from h]
  | arr | obj => cases h
  | _ =>
    cases h
    rfl

theorem Item.standsFor (zone : Zone) {text : List Char} {value : Value} (h : Item text value) :
    StandsFor zone text value := by
  cases h with
  | regex hscans hne hknown => exact Shorthand.standsFor_regexText hscans hne hknown
  | scalar hparses hvalue => exact Shorthand.standsFor_of_parse hparses (decode_of_scalarValue? zone hvalue)

/-- The text of an item with white space around it, and the item's value. -/
def SpacedItem (spaced : List Char) (value : Value) : Prop := ∃ text, Item text value ∧ Spaced text spaced

theorem SpacedItem.standsFor (zone : Zone) {spaced : List Char} {value : Value} (h : SpacedItem spaced value) :
    StandsFor zone spaced value := by
  obtain ⟨text, hitem, hspaced⟩ := h
  exact (hitem.standsFor zone).spaced hspaced

/--
An array of regular expressions and scalars compiles to the values of its items, one for each and in order, where a
regular expression has its pattern as it stands and its flags if it has any; and so does a regular expression alone.
-/
theorem compile_items_and_regex {zone : Zone} {key keyText keySpaced : List Char}
    (hplain : ExtendedJson.isWrapperKey (String.ofList key) = false) (hkey : KeyText key keyText)
    (hspaced : Spaced keyText keySpaced) :
    (∀ {items : List (List Char)} {values : List Value} {cs text : List Char},
      List.Forall₂ SpacedItem items values → Spaced ('[' :: (Text.joinWith [','] items ++ [']'])) cs →
        Spaced (documentText keySpaced cs) text →
          compile zone (String.ofList text) = .ok [(String.ofList key, .array values)]) ∧
    ∀ {pattern flags cs text : List Char}, Pattern false pattern → pattern ≠ [] → (∀ c ∈ flags, isFlag c = true) →
      Spaced (regexText pattern flags) cs → Spaced (documentText keySpaced cs) text →
        compile zone (String.ofList text) = .ok [(String.ofList key, .document (regexDocument pattern flags))] := by
  constructor
  · intro items values cs text hitems hcs htext
    have harray := Shorthand.standsFor_array (hitems.imp fun _ _ hitem => hitem.standsFor zone)
    exact compile_documentText hplain hkey hspaced (harray.spaced hcs) htext
  · intro pattern flags cs text hscans hne hknown hcs htext
    have hregex : StandsFor zone _ _ := Shorthand.standsFor_regexText hscans hne hknown
    exact compile_documentText hplain hkey hspaced (hregex.spaced hcs) htext

/-- A pattern with slashes and a brace inside its classes, a quote and an escaped slash. -/
def slashes : List Char := ['[', '/', '\x7b', '\\', ']', ']', '\\', '/', '"']

theorem pattern_slashes : Pattern false slashes :=
  .opening (.plain (by decide) (fun _ => rfl) (.plain (by decide) (by decide) (.escaped ']' (.closing (.escaped '/'
    (.plain (by decide) (by decide) .nil))))))

/-- Items of an array: the pattern with two flags, a number, and a comma between slashes. -/
def slashesItems : List (List Char) := [" /[/\x7b\\]]\\/\"/gi\n".toList, "-7".toList, "/,/".toList]

/-- The values of these items. -/
def slashesValues : List Value :=
  [.document [("$regex", .string "[/\x7b\\]]\\/\""), ("$options", .string "gi")], .int32 ⟨-7, by decide, by decide⟩,
    .document [("$regex", .string ",")]]

theorem spacedItem_slashes : List.Forall₂ SpacedItem slashesItems slashesValues := by
  have hspace : ∀ c ∈ [' '], Json.isSpace c = true := by simp [Json.isSpace]
  have hline : ∀ c ∈ ['\n'], Json.isSpace c = true := by simp [Json.isSpace]
  have hpattern : Item (regexText slashes ['g', 'i']) (.document (regexDocument slashes ['g', 'i'])) :=
    .regex pattern_slashes (by decide) (by simp [isFlag])
  have hcomma : Item (regexText [','] []) (.document (regexDocument [','] [])) :=
    .regex (.plain (by decide) (by decide) .nil) (by decide) (by simp)
  have hparse : Json.parse "-7".toList = .ok (.int (-7)) := by cbv
  have hnumber : Item "-7".toList (.int32 ⟨-7, by decide, by decide⟩) := .scalar hparse rfl
  exact .cons ⟨_, hpattern, _, _, hspace, hline, rfl⟩ (.cons ⟨_, hnumber, [], [], by simp, by simp, rfl⟩
    (.cons ⟨_, hcomma, [], [], by simp, by simp, rfl⟩ .nil))

theorem toList_slashes : "\x7b a:[ /[/\x7b\\]]\\/\"/gi\n,-7,/,/]\x7d".toList =
    documentText [' ', 'a'] ('[' :: (Text.joinWith [','] slashesItems ++ [']'])) := rfl

theorem toList_comma : "\x7b a:/,/\x7d".toList = documentText [' ', 'a'] (regexText [','] []) := rfl

/-- Every item keeps its place, and a regular expression alone may be the value. -/
theorem compile_items_and_regex_slashes :
    ExtendedJson.isWrapperKey (String.ofList ['a']) = false ∧ KeyText ['a'] ['a'] ∧ Spaced ['a'] [' ', 'a'] ∧
    List.Forall₂ SpacedItem slashesItems slashesValues ∧
    compile .utc (String.ofList "\x7b a:[ /[/\x7b\\]]\\/\"/gi\n,-7,/,/]\x7d".toList) = .ok [("a", .array slashesValues)] ∧
    compile .utc (String.ofList "\x7b a:/,/\x7d".toList) = .ok [("a", .document [("$regex", .string ",")])] := by
  have hplain : ExtendedJson.isWrapperKey (String.ofList ['a']) = false := by decide
  have hkey : KeyText ['a'] ['a'] := by
    refine .bare ?_ (by decide)
    simp [Shorthand.IsKey, Shorthand.isKeyChar, Text.isWordChar]
  have hspaced : Spaced ['a'] [' ', 'a'] := ⟨[' '], [], by simp [Json.isSpace], by simp, rfl⟩
  have halone {cs : List Char} : Spaced cs cs := ⟨[], [], by simp, by simp, by simp⟩
  obtain ⟨hitems, hregex⟩ := @compile_items_and_regex .utc _ _ _ hplain hkey hspaced
  rw [toList_slashes, toList_comma]
  refine ⟨hplain, hkey, hspaced, spacedItem_slashes, hitems spacedItem_slashes halone halone, ?_⟩
  exact hregex (.plain (by decide) (by decide) .nil) (by decide) (fun c hc => by cases hc) halone halone

/-- A whole number of JSON that needs more than 64 bits is a scalar, and an array of it does not compile. -/
theorem not_compile_items_wide :
    Json.parse "9223372036854775808".toList = .ok (.int 9223372036854775808) ∧
    compile .utc (String.ofList "\x7b\"k\": [9223372036854775808]\x7d".toList) =
      .error (.number (Bounded.message 64 9223372036854775808) "\x7b\"k\": [9223372036854775808]\x7d") := by
  have hparse : Json.parse "\x7b\"k\": [9223372036854775808]\x7d".toList =
      .ok (.obj [("k", .arr [.int 9223372036854775808])]) := by cbv
  obtain ⟨written, hexpand, hwritten, -⟩ := Shorthand.expand_of_parse .utc hparse
  refine ⟨by cbv, ?_⟩
  rw [compile_of_expand_eq (by decide) (by rwa [String.toList_ofList]), resolve, hwritten, String.ofList_toList]
  rfl

end DocBrowser.Query
