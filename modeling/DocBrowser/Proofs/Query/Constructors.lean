import Mathlib
import DocBrowser.Proofs.Calendar.Bounds
import DocBrowser.Proofs.ExtendedJson.Interchange
import DocBrowser.Proofs.Query.BareKeys
import DocBrowser.Proofs.Query.Places
/-!
# Calls and wrappers

A call in query text and a wrapper of extended JSON are two spellings of one value. Each call looks at its arguments
itself and is expanded to a wrapper that may be written in another way, and both take the same arguments: wherever a
value may start, one spelling may be put for the other, and the text compiles to the same document or is refused.
-/

namespace DocBrowser.Shorthand

open ExtendedJson (isWrapperKey wrapper decode unwrap)
open Json (Delimited Literal lineField ReadsFrom)
open Text (stopsAt_cons)

/-! ## The text of a call -/

/-- The text of a call with the text of its arguments. -/
def callText (call : Call) (cs : List Char) : List Char := call.name.toList ++ '(' :: (cs ++ [')'])

theorem callAt?_name (call : Call) (rest : List Char) :
    callAt? (call.name.toList ++ '(' :: rest) = some (call, rest) := by
  cases call with
  | objectId capital => cases capital <;> rfl
  | _ => rfl

/-- A call is expanded to what stands for it and its arguments. -/
theorem expandFrom_callText {call : Call} {cs : List Char} {arguments : List Argument} {rest : List Char}
    (harguments : Arguments true (cs ++ ')' :: rest) arguments rest) (zone : Zone) (text : List Char)
    (last : Option Char) :
    expandFrom zone text last (callText call cs ++ rest) =
      (expandCall zone call arguments (callText call cs)).bind fun written =>
        (expandFrom zone text (some '\x7d') rest).map (written ++ ·) := by
  obtain ⟨c, hc, tail, hname⟩ := name_eq_cons call
  have hbare : isBareChar c = true := isBareChar_of_mem_name (hname ▸ List.mem_cons_self)
  have hwhole : callText call cs ++ rest = call.name.toList ++ '(' :: (cs ++ ')' :: rest) := by
    simp [callText]
  have hlength : (callText call cs ++ rest).length - rest.length = (callText call cs).length := by
    simp
  -- the name is found, the arguments are read to the bracket, and the rest is left as it is
  have hread : readBare zone text last (callText call cs ++ rest) =
      (expandCall zone call arguments (callText call cs)).map fun written =>
        ⟨written, '\x7d', (callText call cs).length⟩ := by
    rw [readBare, hwhole, callAt?_name]
    simp only [harguments.readArguments text (Nat.lt_succ_self _), bind, Except.bind]
    rw [← hwhole, hlength, List.take_left]
    cases expandCall zone call arguments (callText call cs) <;> rfl
  obtain ⟨tail, hcons⟩ : ∃ tail, callText call cs = c :: tail := by
    rw [callText, hname]
    exact ⟨_, rfl⟩
  rw [hcons] at hread ⊢
  rw [List.cons_append] at hread ⊢
  rw [expandFrom, if_neg (by simp [isBlank_of_isBareChar hbare]), readPiece_of_isBareChar hbare, hread]
  cases expandCall zone call arguments (c :: tail) with
  | error fault => rfl
  | ok written =>
    simp only [Except.map, bind, Except.bind, List.length_cons, Nat.add_sub_cancel, List.drop_left]

/-! ## Arguments -/

/-- The text of a string literal. -/
def quotedText (raw : List Char) : List Char := '"' :: (raw ++ ['"'])

theorem delimited_quotedText {raw chars : List Char} (h : Literal raw chars) :
    Delimited (quotedText raw) (.str (String.ofList chars)) := Json.delimited_string h

theorem arguments_none (rest : List Char) : Arguments true ([] ++ ')' :: rest) [] rest :=
  .none (Text.dropWhile_of_stopsAt (stopsAt_cons.2 (by decide)))

theorem arguments_string {raw chars : List Char} (h : Literal raw chars) {isFirst : Bool} {cs : List Char}
    {rest : List Char} (hcs : skipBlanks cs = quotedText raw ++ ')' :: rest) :
    Arguments isFirst cs [.text chars] rest := by
  have hquoted : quotedText raw ++ ')' :: rest = '"' :: (raw ++ '"' :: ')' :: rest) := by simp [quotedText]
  rw [hquoted] at hcs
  refine .last hcs (by simp) (n := raw.length + 2) ?_ ?_
  · rw [readArgument_of_isQuote (by decide), readString_literal h]
    rfl
  · rw [List.drop_succ_cons, ← List.drop_drop, List.drop_left]
    exact Text.dropWhile_of_stopsAt (stopsAt_cons.2 (by decide))

/-- A whole number as it is written: a sign, if there is one, and at most four thousand digits. -/
inductive WholeNumber : List Char → Prop where
  | intro {sign run : List Char} (isSign : Text.IsSign sign) (ne : run ≠ []) (digits : ∀ c ∈ run, c.isDigit = true)
    (short : run.length ≤ 4000) : WholeNumber (sign ++ run)

section

variable {digits : List Char} (h : WholeNumber digits)

include h

theorem WholeNumber.mem {c : Char} (hc : c ∈ digits) : c.isDigit = true ∨ c = '-' ∨ c = '+' := by
  obtain ⟨hsign, -, hrun, -⟩ := h
  rcases List.mem_append.1 hc with hc | hc
  · rcases hsign with rfl | rfl | rfl
    · cases hc
    · exact .inr (.inl (List.mem_singleton.1 hc))
    · exact .inr (.inr (List.mem_singleton.1 hc))
  · exact .inl (hrun c hc)

/-- Its text is that of a string of JSON. -/
theorem WholeNumber.literal : Literal digits digits := by
  refine literal_of_plain fun c hc => ?_
  rcases h.mem hc with hdigit | rfl | rfl
  · have hrange := Text.toNat_of_isDigit hdigit
    refine ⟨?_, ?_, by omega⟩ <;> rintro rfl <;> simp at hrange
  · decide
  · decide

theorem WholeNumber.trim_eq : Text.trim digits = digits := by
  refine Text.trim_eq_self fun c hc => ?_
  rcases h.mem hc with hdigit | rfl | rfl
  · exact Text.isBlank_of_isDigit hdigit
  · decide
  · decide

theorem WholeNumber.exists_readInt :
    Text.isIntegerText digits = true ∧ ∃ n, Text.readInt digits = .ok n := by
  obtain ⟨hsign, hne, hrun, hshort⟩ := h
  have hdigit := fun c hc => Text.isDecimalDigit_of_isDigit (hrun c hc)
  exact ⟨Text.isIntegerText_integer hsign hne hdigit,
    Text.exists_readInt_integer hsign hne hdigit (hshort.trans (by decide))⟩

theorem WholeNumber.arguments (rest : List Char) : Arguments true (digits ++ ')' :: rest) [.number digits] rest := by
  obtain ⟨hsign, hne, hrun, -⟩ := h
  rw [List.append_assoc]
  exact arguments_integer hsign hne (fun c hc => Text.isDecimalDigit_of_isDigit (hrun c hc)) true rest

theorem WholeNumber.arguments_string {raw chars : List Char} (hraw : Literal raw chars) (rest : List Char) :
    Arguments true ((digits ++ ',' :: ' ' :: quotedText raw) ++ ')' :: rest) [.number digits, .text chars] rest := by
  obtain ⟨hsign, hne, hrun, -⟩ := h
  have hdigit := fun c hc => Text.isDecimalDigit_of_isDigit (hrun c hc)
  obtain ⟨c, more, hstart, hclose, hread, hbehind⟩ :=
    start_integer hsign hne hdigit List.mem_cons_self (' ' :: (quotedText raw ++ ')' :: rest))
  simp only [List.append_assoc, List.cons_append] at hstart ⊢
  exact .next hstart (fun h => hclose h.1) hread hbehind (arguments_string hraw rfl)

end

/-! ## The text of a wrapper -/

/-- The text of an object of one field. -/
def wrapperText (key : String) (cs : List Char) : List Char := '\x7b' :: (lineField key.toList cs ++ ['\x7d'])

theorem literal_of_isWrapperKey {key : String} (h : isWrapperKey key = true) :
    Literal key.toList key.toList ∧ ∃ tail, key.toList = '$' :: tail := by
  have hkeys : ∀ key ∈ ExtendedJson.wrapperKeys, (∀ c ∈ key.toList, c ≠ '"' ∧ c ≠ '\\' ∧ ¬c.toNat < 32) ∧
      key.toList.head? = some '$' := by simp [ExtendedJson.wrapperKeys]
  obtain ⟨hplain, hhead⟩ := hkeys key (by simpa [isWrapperKey] using h)
  exact ⟨literal_of_plain hplain, List.head?_eq_some_iff.1 hhead⟩

theorem delimited_wrapperText {key : String} (h : isWrapperKey key = true) {cs : List Char} {payload : Json}
    (hpayload : Json.Bounded cs payload) : Delimited (wrapperText key cs) (wrapper key payload) := by
  have hfield := Json.delimited_lineField (literal_of_isWrapperKey h).1 hpayload
  rwa [String.ofList_toList] at hfield

theorem exists_wrapperText_eq {key : String} (h : isWrapperKey key = true) (cs : List Char) :
    ∃ more, wrapperText key cs = opening more := by
  obtain ⟨-, tail, htail⟩ := literal_of_isWrapperKey h
  rw [wrapperText, lineField, Json.fieldText, htail]
  exact ⟨_, rfl⟩

/-- What a call is expanded to reads as a wrapper, too. -/
theorem delimited_wrapped (key : String) {cs : List Char} {payload : Json} (hpayload : Json.Bounded cs payload) :
    Delimited (wrapped key cs) (wrapper key payload) := by
  have hfield := Json.delimited_lineField (Json.literal_flatMap false key.toList) hpayload
  rw [String.ofList_toList] at hfield
  have htext : wrapped key cs = '\x7b' :: (lineField (key.toList.flatMap (Json.writeChar false)) cs ++ ['\x7d']) := by
    simp [wrapped, lineField, Json.fieldText, Json.writeText]
  rwa [htext]

/-- The text of the payload of a binary wrapper. -/
def binaryText (payload digits : List Char) : List Char :=
  '\x7b' :: (lineField "base64".toList payload ++ (',' :: ' ' :: (lineField "subType".toList digits ++ ['\x7d'])))

theorem delimited_binaryText {payload digits : List Char} {data data' : Json} (h : Json.Bounded payload data)
    (h' : Json.Bounded digits data') :
    Delimited (binaryText payload digits) (.obj [("base64", data), ("subType", data')]) := by
  have hplain : ∀ key ∈ ["base64", "subType"], ∀ c ∈ key.toList, c ≠ '"' ∧ c ≠ '\\' ∧ ¬c.toNat < 32 := by simp
  have hfields := Json.delimited_lineFields (literal_of_plain (hplain "base64" (by simp)))
    (literal_of_plain (hplain "subType" (by simp))) (by decide) h h'
  rwa [String.ofList_toList, String.ofList_toList] at hfields

/-! ## Calls and their wrappers -/

/--
Whether a call and a wrapper stand for the same value: the call is expanded to a wrapper of the same key and the same
value, or refused, and then the wrapper stands for nothing.
-/
def Agree (zone : Zone) (call : Call) (arguments : List Argument) (key : String) (payload : Json) : Prop :=
  ∀ fragment,
    (∃ written payload', expandCall zone call arguments fragment = .ok written ∧
      Delimited written (wrapper key payload') ∧
      ∀ value, decode zone (wrapper key payload) = .ok value ↔ decode zone (wrapper key payload') = .ok value) ∨
    (∃ cause shown, expandCall zone call arguments fragment = .error (.piece cause shown)) ∧
      ∀ value, decode zone (wrapper key payload) ≠ .ok value

section

variable {zone : Zone} {chars : List Char}

theorem agree_objectId (capital : Bool) :
    Agree zone (.objectId capital) [.text chars] "$oid" (.str (String.ofList chars)) :=
  fun _ => .inl ⟨_, _, rfl, delimited_wrapped "$oid" (Json.delimited_writeText true chars).bounded, fun _ => Iff.rfl⟩

/-- A date is resolved to its milliseconds at once, and those are its wrapper. -/
theorem agree_date (hzone : zone.IsNear) : Agree zone .date [.text chars] "$date" (.str (String.ofList chars)) := by
  intro fragment
  have hunwrap (payload : Json) : decode zone (wrapper "$date" payload) =
      ExtendedJson.readDate zone payload [("$date", payload)] := ExtendedJson.decode_wrapper zone (by decide) payload
  cases hparse : Timestamp.parse zone (String.ofList chars) with
  | error fault =>
    refine .inr ⟨⟨.date fault, fragment, ?_⟩, fun value hvalue => ?_⟩
    · simp only [expandCall, onlyArgument, bind, Except.bind, hparse]
    · rw [hunwrap] at hvalue
      simp [ExtendedJson.readDate, hparse] at hvalue
  | ok t =>
    -- an offset of less than a day keeps every date that is read within 64 bits, so what the call writes is read
    obtain ⟨b, hb⟩ := Timestamp.exists_bounded_of_parse hzone hparse
    refine .inl ⟨_, _, ?_, delimited_wrapped "$date" (delimited_wrapped "$numberLong"
      (Json.delimited_writeText true (Text.intText t.millis)).bounded).bounded, fun value => ?_⟩
    · simp only [expandCall, onlyArgument, bind, Except.bind, hparse]
    · have hread := ExtendedJson.readInteger_intText le_rfl b [("$numberLong", .str (String.ofList (Text.intText b.value)))]
      rw [hb] at hread
      rw [hunwrap, ExtendedJson.decode_wrapper zone (by decide), ExtendedJson.unwrap_date_long hread]
      simp [ExtendedJson.readDate, hparse, hb]

/-- A call and the wrapper of an integer look at the same digits. -/
theorem readBits_cases {digits : List Char} (h : WholeNumber digits) (call : Call) (bits : ℕ) (fragment : List Char) :
    (∃ b : Bounded bits, readBits call bits fragment digits = .ok b.value ∧
      ∀ fields, ExtendedJson.readInteger (.str (String.ofList digits)) fields bits = .ok b) ∨
    (∃ cause shown, readBits call bits fragment digits = .error (.piece cause shown)) ∧
      ∀ fields b, ExtendedJson.readInteger (.str (String.ofList digits)) fields bits ≠ .ok b := by
  obtain ⟨hdigits, n, hn⟩ := h.exists_readInt
  -- both read the same number and refuse it for the same range
  cases hfits : Bounded.ofInt? bits n with
  | none =>
    refine .inr ⟨⟨.integer call bits, fragment, ?_⟩, fun fields b hb => ?_⟩
    · simp [readBits, hdigits, hn, hfits]
    · simp [ExtendedJson.readInteger, hdigits, hn, hfits, ExtendedJson.Cause.inWrapper] at hb
  | some b =>
    have hvalue : b.value = n := by
      unfold Bounded.ofInt? at hfits
      split at hfits <;> cases hfits
      rfl
    refine .inl ⟨b, ?_, fun fields => ?_⟩
    · simp [readBits, hdigits, hn, hfits, hvalue]
    · simp [ExtendedJson.readInteger, hdigits, hn, hfits]

/-- A call for integers of a width agrees with their wrapper. -/
theorem agree_integer {digits : List Char} (h : WholeNumber digits) {call : Call} {key : String} {bits : ℕ}
    {stand : Bounded bits → Value} (hbits : bits ≤ 64)
    (hdecode : ∀ payload, decode zone (wrapper key payload) =
      (ExtendedJson.readInteger payload [(key, payload)] bits).map stand)
    (hexpand : ∀ value fragment, expandCall zone call [.number value] fragment =
      (readBits call bits fragment (Text.trim value)).bind fun n =>
        .ok (wrapped key (Json.writeText true (Text.intText n)))) :
    Agree zone call [.number digits] key (.str (String.ofList digits)) := by
  intro fragment
  rcases readBits_cases h call bits fragment with ⟨b, hread, hreads⟩ | ⟨⟨cause, shown, hread⟩, hreads⟩
  · refine .inl ⟨_, _, by rw [hexpand, h.trim_eq, hread]; rfl, delimited_wrapped key
      (Json.delimited_writeText true (Text.intText b.value)).bounded, fun value => ?_⟩
    rw [hdecode, hdecode, hreads, ExtendedJson.readInteger_intText hbits b]
  · refine .inr ⟨⟨cause, shown, by rw [hexpand, h.trim_eq, hread]; rfl⟩, fun value hvalue => ?_⟩
    rw [hdecode] at hvalue
    obtain ⟨b, hb, -⟩ := map_eq_ok.1 hvalue
    exact hreads _ b hb

theorem agree_int {digits : List Char} (h : WholeNumber digits) :
    Agree zone .int [.number digits] "$numberInt" (.str (String.ofList digits)) :=
  agree_integer h (by decide) (ExtendedJson.decode_wrapper zone (by decide)) fun _ _ => rfl

theorem agree_long {digits : List Char} (h : WholeNumber digits) :
    Agree zone .long [.number digits] "$numberLong" (.str (String.ofList digits)) :=
  agree_integer h le_rfl (ExtendedJson.decode_wrapper zone (by decide)) fun _ _ => rfl

theorem agree_decimal : Agree zone .decimal [.text chars] "$numberDecimal" (.str (String.ofList chars)) := by
  intro fragment
  have hdecode (chars : List Char) : decode zone (wrapper "$numberDecimal" (.str (String.ofList chars))) =
      ExtendedJson.readDecimal (.str (String.ofList chars)) [("$numberDecimal", .str (String.ofList chars))] :=
    ExtendedJson.decode_wrapper zone (by decide) _
  -- the call trims its argument before it is read, the wrapper's reader does so itself
  have htrim : Decimal.ofText? (Text.trim chars) = Decimal.ofText? chars := by
    rw [Decimal.ofText?, Decimal.ofText?, Decimal.plainText?, Decimal.plainText?, Text.trim_trim]
  cases hread : Decimal.ofText? chars with
  | none =>
    refine .inr ⟨⟨.decimal, fragment, ?_⟩, fun value hvalue => ?_⟩
    · simp [expandCall, onlyArgument, bind, Except.bind, htrim, hread]
    · rw [hdecode] at hvalue
      simp [ExtendedJson.readDecimal, hread, ExtendedJson.Cause.inWrapper] at hvalue
  | some d =>
    refine .inl ⟨_, _, ?_, delimited_wrapped "$numberDecimal"
      (Json.delimited_writeText true (Text.trim chars)).bounded, fun value => ?_⟩
    · simp [expandCall, onlyArgument, bind, Except.bind, htrim, hread]
    · rw [hdecode, hdecode]
      simp [ExtendedJson.readDecimal, htrim, hread]

/-- The subtype of bytes is the same number to both readers. -/
theorem agree_binary {digits hex : List Char} {n : ℕ} (h : WholeNumber digits) (hdigits : Text.readInt digits = .ok n)
    (hhex : Text.readHexInt? hex = some (n : ℤ)) (hn : n < 256) :
    Agree zone .binary [.number digits, .text chars] "$binary"
      (.obj [("base64", .str (String.ofList chars)), ("subType", .str (String.ofList hex))]) := by
  intro fragment
  have hbyte : n.toUInt8.toNat = n := UInt8.toNat_ofNat_of_lt' hn
  have hsubtype : readSubtype fragment digits = .ok n.toUInt8 := by
    have hrange : (0 : ℤ) ≤ n ∧ (n : ℤ) ≤ 255 := by omega
    simp only [readSubtype, h.exists_readInt.1, if_true, hdigits, Binary.subtype?, if_pos hrange, Int.toNat_natCast]
  have hexpand : expandCall zone .binary [.number digits, .text chars] fragment =
      .ok (wrapperText "$binary" (binaryText (Json.writeText true chars) (Json.writeText true (Text.hexText 2 n)))) := by
    simp only [expandCall, hsubtype, bind, Except.bind, hbyte]
    simp [wrapperText, binaryText, lineField, Json.fieldText]
  -- the subtype may be spelled in several ways: only the number it stands for is compared
  have hdecode (hex : List Char) (hhex : Text.readHexInt? hex = some (n : ℤ)) (value : Value) :
      decode zone (wrapper "$binary" (.obj [("base64", .str (String.ofList chars)),
        ("subType", .str (String.ofList hex))])) = .ok value ↔ Binary.ofBase64 (String.ofList chars) n = .ok value := by
    rw [ExtendedJson.decode_wrapper zone (by decide)]
    cases hbytes : Binary.ofBase64 (String.ofList chars) n <;>
      simp [unwrap, field?, ExtendedJson.readBinary, ExtendedJson.readBytes, hhex, hbytes, ExtendedJson.Cause.inWrapper]
  refine .inl ⟨_, _, hexpand, delimited_wrapperText (by decide) (delimited_binaryText
    (Json.delimited_writeText true chars).bounded
    (Json.delimited_writeText true (Text.hexText 2 n)).bounded).bounded, fun value => ?_⟩
  rw [hdecode hex hhex, hdecode _ (Text.readHexInt?_hexText hn)]

/-- The calls of the bounds of all values, and the keys of their wrappers. -/
def bounds : List (Call × String) := [(.minKey, "$minKey"), (.maxKey, "$maxKey")]

theorem bounded_one : Json.Bounded ['1'] (.int 1) := Json.bounded_of_parse (by cbv)

theorem agree_bound {call : Call} {key : String} (h : (call, key) ∈ bounds) : Agree zone call [] key (.int 1) := by
  intro fragment
  simp only [bounds, List.mem_cons, Prod.mk.injEq, List.not_mem_nil, or_false] at h
  rcases h with ⟨rfl, rfl⟩ | ⟨rfl, rfl⟩
  · exact .inl ⟨_, _, rfl, delimited_wrapped "$minKey" bounded_one, fun _ => Iff.rfl⟩
  · exact .inl ⟨_, _, rfl, delimited_wrapped "$maxKey" bounded_one, fun _ => Iff.rfl⟩

end

/-! ## Both spellings -/

/-- The name of a bound stands for its wrapper where nothing makes a key or a call of it. -/
theorem expandFrom_bound {call : Call} {key : String} (h : (call, key) ∈ bounds) {rest : List Char}
    (hrest : EndsPiece rest) (zone : Zone) (text : List Char) (last : Option Char) :
    expandFrom zone text last (call.name.toList ++ rest) =
      (expandFrom zone text (some '\x7d') rest).map (wrapped key ['1'] ++ ·) := by
  have hpiece (signs : List Char) (written : List Char)
      (h : readPiece zone text last 'M' signs = .ok ⟨written, '\x7d', signs.length + 1⟩) :
      expandFrom zone text last ('M' :: (signs ++ rest)) =
        (expandFrom zone text (some '\x7d') rest).map (written ++ ·) := by
    rw [expandFrom_piece (by decide) (readPiece_append hrest h text).1, Nat.add_sub_cancel, List.drop_left]
  simp only [bounds, List.mem_cons, Prod.mk.injEq, List.not_mem_nil, or_false] at h
  rcases h with ⟨rfl, rfl⟩ | ⟨rfl, rfl⟩
  · exact hpiece ['i', 'n', 'K', 'e', 'y'] _ rfl
  · exact hpiece ['a', 'x', 'K', 'e', 'y'] _ rfl

/--
Whether a text may be put for a wrapper in front of what ends a value: it is expanded to a wrapper of the same key and
the same value, or refused, and then the wrapper stands for nothing.
-/
def Exchanges (zone : Zone) (cs : List Char) (key : String) (payload : Json) : Prop :=
  (∃ written payload', Delimited written (wrapper key payload') ∧
    (∀ value, decode zone (wrapper key payload) = .ok value ↔ decode zone (wrapper key payload') = .ok value) ∧
    ∀ text last rest, EndsPiece rest →
      expandFrom zone text last (cs ++ rest) = (expandFrom zone text (some '\x7d') rest).map (written ++ ·)) ∨
  (∀ value, decode zone (wrapper key payload) ≠ .ok value) ∧
    ∀ text last rest, ∃ cause shown, expandFrom zone text last (cs ++ rest) = .error (.piece cause shown)

theorem Agree.exchanges {zone : Zone} {call : Call} {arguments : List Argument} {key : String} {payload : Json}
    (h : Agree zone call arguments key payload) {cs : List Char}
    (harguments : ∀ rest, Arguments true (cs ++ ')' :: rest) arguments rest) :
    Exchanges zone (callText call cs) key payload := by
  rcases h (callText call cs) with ⟨written, payload', hexpand, hwritten, hsame⟩ | ⟨⟨cause, shown, hexpand⟩, hnone⟩
  · refine .inl ⟨written, payload', hwritten, hsame, fun text last rest _ => ?_⟩
    rw [expandFrom_callText (harguments rest), hexpand]
    rfl
  · refine .inr ⟨hnone, fun text last rest => ⟨cause, shown, ?_⟩⟩
    rw [expandFrom_callText (harguments rest), hexpand]
    rfl

/-- The two spellings of a value: a call or the name of a bound, and the text of a wrapper. -/
inductive Spellings : List Char → List Char → Prop where
  | objectId (capital : Bool) {raw chars : List Char} (literal : Literal raw chars) :
    Spellings (callText (.objectId capital) (quotedText raw)) (wrapperText "$oid" (quotedText raw))
  | date {raw chars : List Char} (literal : Literal raw chars) :
    Spellings (callText .date (quotedText raw)) (wrapperText "$date" (quotedText raw))
  | int {digits : List Char} (number : WholeNumber digits) :
    Spellings (callText .int digits) (wrapperText "$numberInt" (quotedText digits))
  | long {digits : List Char} (number : WholeNumber digits) :
    Spellings (callText .long digits) (wrapperText "$numberLong" (quotedText digits))
  | decimal {raw chars : List Char} (literal : Literal raw chars) :
    Spellings (callText .decimal (quotedText raw)) (wrapperText "$numberDecimal" (quotedText raw))
  | binary {digits raw chars hexRaw hex : List Char} {subtype : ℕ} (number : WholeNumber digits)
    (value : Text.readInt digits = .ok subtype) (byte : subtype < 256) (literal : Literal raw chars)
    (hexLiteral : Literal hexRaw hex) (hexValue : Text.readHexInt? hex = some (subtype : ℤ)) :
    Spellings (callText .binary (digits ++ ',' :: ' ' :: quotedText raw))
      (wrapperText "$binary" (binaryText (quotedText raw) (quotedText hexRaw)))
  | boundCall {call : Call} {key : String} (bound : (call, key) ∈ bounds) :
    Spellings (callText call []) (wrapperText key ['1'])
  | bound {call : Call} {key : String} (bound : (call, key) ∈ bounds) :
    Spellings call.name.toList (wrapperText key ['1'])

theorem isWrapperKey_of_mem_bounds {call : Call} {key : String} (h : (call, key) ∈ bounds) :
    isWrapperKey key = true := by
  simp only [bounds, List.mem_cons, Prod.mk.injEq, List.not_mem_nil, or_false] at h
  rcases h with ⟨-, rfl⟩ | ⟨-, rfl⟩ <;> decide

/-- The one spelling is the text of a wrapper, and the other may be put for it. -/
theorem Spellings.exists_exchanges {cs text : List Char} (h : Spellings cs text) {zone : Zone} (hzone : zone.IsNear) :
    ∃ key payload, isWrapperKey key = true ∧ Delimited text (wrapper key payload) ∧ (∃ more, text = opening more) ∧
      Exchanges zone cs key payload := by
  -- what the spellings share: a wrapper's key, a payload that ends where it ends, and an agreeing call
  have hwhole {key : String} (hkey : isWrapperKey key = true) {written : List Char} {payload : Json}
      (hwritten : Json.Bounded written payload) (hexchanges : Exchanges zone cs key payload)
      (htext : text = wrapperText key written) :
      ∃ key payload, isWrapperKey key = true ∧ Delimited text (wrapper key payload) ∧ (∃ more, text = opening more) ∧
        Exchanges zone cs key payload := by
    subst htext
    exact ⟨key, payload, hkey, delimited_wrapperText hkey hwritten, exists_wrapperText_eq hkey written, hexchanges⟩
  cases h with
  | objectId capital hraw =>
    exact hwhole (by decide) (delimited_quotedText hraw).bounded
      ((agree_objectId capital).exchanges fun rest => arguments_string hraw rfl) rfl
  | date hraw =>
    exact hwhole (by decide) (delimited_quotedText hraw).bounded
      ((agree_date hzone).exchanges fun rest => arguments_string hraw rfl) rfl
  | int hdigits =>
    exact hwhole (by decide) (delimited_quotedText hdigits.literal).bounded
      ((agree_int hdigits).exchanges hdigits.arguments) rfl
  | long hdigits =>
    exact hwhole (by decide) (delimited_quotedText hdigits.literal).bounded
      ((agree_long hdigits).exchanges hdigits.arguments) rfl
  | decimal hraw =>
    exact hwhole (by decide) (delimited_quotedText hraw).bounded
      (agree_decimal.exchanges fun rest => arguments_string hraw rfl) rfl
  | binary hdigits hvalue hbyte hraw hhexRaw hhex =>
    exact hwhole (by decide) (delimited_binaryText (delimited_quotedText hraw).bounded
      (delimited_quotedText hhexRaw).bounded).bounded
      ((agree_binary hdigits hvalue hhex hbyte).exchanges (hdigits.arguments_string hraw)) rfl
  | boundCall hbound =>
    exact hwhole (isWrapperKey_of_mem_bounds hbound) bounded_one ((agree_bound hbound).exchanges arguments_none) rfl
  | bound hbound =>
    refine hwhole (isWrapperKey_of_mem_bounds hbound) bounded_one (.inl ⟨_, _, ?_, fun _ => Iff.rfl,
      fun text last rest hrest => expandFrom_bound hbound hrest zone text last⟩) rfl
    exact delimited_wrapped _ bounded_one

/-- Each spelling starts with a sign that is neither white space nor structure. -/
theorem Spellings.exists_visible {cs text : List Char} (h : Spellings cs text) :
    ∃ c ∈ cs, Text.isBlank c = false ∧ c ∉ structureSigns := by
  have hname : ∃ call : Call, ∀ c ∈ call.name.toList, c ∈ cs := by
    cases h with
    | bound => exact ⟨_, fun c hc => hc⟩
    | _ => exact ⟨_, fun c hc => List.mem_append_left _ hc⟩
  obtain ⟨call, hcs⟩ := hname
  obtain ⟨c, hc, tail, htail⟩ := name_eq_cons call
  have hmem : c ∈ call.name.toList := htail ▸ List.mem_cons_self
  refine ⟨c, hcs c hmem, isBlank_of_isBareChar (isBareChar_of_mem_name hmem), ?_⟩
  have hinitials : ∀ c ∈ initials, c ∉ structureSigns := by simp [initials, structureSigns]
  exact hinitials c hc

/-! ## What follows a value -/

/-- Behind a value that the machine has read, no call starts and no key ends. -/
theorem endsPiece_of_readsFrom {stack : List Json.Frame} {value data : Json} {cs : List Char}
    (h : ReadsFrom (.after stack value) cs data) : EndsPiece cs := by
  refine ⟨endsValue_of_reads h, ?_⟩
  induction cs with
  | nil => simp [nextSign, skipBlanks]
  | cons c cs ih =>
    cases hspace : Json.isSpace c with
    | true =>
      rw [nextSign, skipBlanks, List.dropWhile_cons_of_pos (Json.isBlank_of_isSpace hspace)]
      exact ih ((Json.readsFrom_space hspace).1 h)
    | false =>
      obtain ⟨next, hmove, -⟩ := (Json.readsFrom_cons hspace).1 h
      have hc := Json.mem_of_closes rfl hmove.closes
      simp only [List.mem_cons, List.not_mem_nil, or_false] at hc
      rcases hc with rfl | rfl | rfl <;> simp [nextSign, skipBlanks, Text.isBlank]

end DocBrowser.Shorthand

namespace DocBrowser.Query

open ExtendedJson (isWrapperKey wrapper decode)
open Json (ReadsFrom Swapped keysOnce Delimited)
open Shorthand (Spellings opening)

/-! ## One spelling for the other -/

/-- Whether a text is refused, with a piece of text. -/
def Refused (answer : Except Fault Document) : Prop :=
  ∃ fault fragment, answer = .error fault ∧ fault.fragment? = some fragment

/-- Whether two texts compile to the same document, or are both refused. -/
def SameAnswer (answer answer' : Except Fault Document) : Prop :=
  (∃ doc, answer = .ok doc ∧ answer' = .ok doc) ∨ Refused answer ∧ Refused answer'

theorem SameAnswer.eq_ok {answer answer' : Except Fault Document} (h : SameAnswer answer answer') {doc : Document}
    (hdoc : answer' = .ok doc) : answer = .ok doc := by
  rcases h with ⟨doc', h, h'⟩ | ⟨-, fault, -, hfault, -⟩
  · rw [hdoc] at h'
    cases h'
    exact h
  · rw [hdoc] at hfault
    cases hfault

/-- Where a piece of a text is refused, so is the text. -/
theorem refused_of_piece {zone : Zone} {cs shown : List Char} {cause : Shorthand.Cause} (hvisible : isBlank cs = false)
    (h : Shorthand.expand zone cs = .error (.piece cause shown)) : Refused (compile zone (String.ofList cs)) := by
  refine ⟨.expansion cause (String.ofList shown), _, ?_, rfl⟩
  rw [compile, String.toList_ofList, if_neg (by simp [hvisible]), h]

theorem sameAnswer_resolve {zone : Zone} {text text' : String} {expanded expanded' : List Char}
    (h : ∀ doc, resolve zone text expanded = .ok doc ↔ resolve zone text' expanded' = .ok doc) :
    SameAnswer (resolve zone text expanded) (resolve zone text' expanded') := by
  rcases resolve_cases zone text expanded with ⟨doc, hdoc⟩ | ⟨fault, fragment, hfault, hfragment⟩
  · exact .inl ⟨doc, hdoc, (h doc).1 hdoc⟩
  · refine .inr ⟨⟨fault, fragment, hfault, hfragment⟩, ?_⟩
    rcases resolve_cases zone text' expanded' with ⟨doc, hdoc⟩ | hrefused
    · rw [(h doc).2 hdoc] at hfault
      cases hfault
    · exact hrefused

/-- Only an object stands for a document. -/
theorem exists_obj_of_decode {zone : Zone} {data : Json} {doc : Document} (h : decode zone data = .ok (.document doc)) :
    ∃ fields, data = .obj fields := by
  cases data with
  | obj fields => exact ⟨fields, rfl⟩
  -- an integer is decoded to a number of one of two widths, never to a document
  | int n =>
    rw [decode] at h
    split at h
    · rename_i hint
      cases h
      unfold Value.ofInt? at hint
      split at hint
      · cases hint
      · obtain ⟨_, _, heq⟩ := Option.map_eq_some_iff.1 hint
        cases heq
    · cases h
  | arr items =>
    rw [decode] at h
    obtain ⟨_, _, heq⟩ := map_eq_ok.1 h
    cases heq
  | _ => cases h

/-- What expanded text is resolved to is told by what its data decode to. -/
theorem resolve_eq_ok_iff {zone : Zone} {text : String} {expanded : List Char} {data : Json}
    (h : Json.parse expanded = .ok data) (doc : Document) :
    resolve zone text expanded = .ok doc ↔ decode zone data = .ok (.document doc) := by
  constructor
  · intro hresolve
    obtain ⟨fields, hfields, hdecode⟩ := resolve_eq_ok hresolve
    rw [h] at hfields
    cases hfields
    exact hdecode
  · intro hdecode
    obtain ⟨fields, rfl⟩ := exists_obj_of_decode hdecode
    simp only [resolve, h, hdecode]

section

variable {zone : Zone} {front text rest : List Char} {key : String} {payload : Json} {ts : List Json.Token}
  {next : Json.State} {stack : List Json.Frame} {data : Json}

/-- What follows a wrapper is read behind any other wrapper, too, as data that differ in that place only. -/
theorem readsFrom_behind (hparse : Json.parse (front ++ (text ++ rest)) = .ok data)
    (honce : keysOnce (front ++ (text ++ rest)) = true) (hruns : Json.Runs (.value []) ts next)
    (hexpects : Json.Expects next stack) (htokens : Json.TokensTo front ts)
    (htext : Delimited text (wrapper key payload)) (hmark : text.head? ≠ some '\uFEFF') :
    ReadsFrom (.after stack (wrapper key payload)) rest data ∧
      ∀ w', ∃ data', ReadsFrom (.after stack w') rest data' ∧ Swapped (wrapper key payload) w' data data' := by
  have hbehind : ReadsFrom (.after stack (wrapper key payload)) rest data :=
    (htext hexpects rest data).1 ((htokens.readsFrom_iff hruns).1 (Json.parse_eq_ok_iff.1 hparse).2)
  have hstop : Text.StopsAt Json.isBareSign rest := Shorthand.stopsAt_of_bare
    (fun _ => Shorthand.isBareChar_of_isBareSign) (Shorthand.endsPiece_of_readsFrom hbehind).bare
  obtain ⟨q, hq⟩ := htokens 0 (text ++ rest)
  obtain ⟨ts', q', hruns', hq'⟩ := Json.exists_runs_append hexpects (htext.parse hmark) hstop q
  rw [keysOnce, hq, hq'] at honce
  -- no key occurs twice behind the front either, so fields are appended and the swap stays in its place
  have hfresh := Json.keysOnceFrom_of_runs (Json.keysOnceFrom_of_runs honce hruns) hruns'
  refine ⟨hbehind, fun w' => ?_⟩
  obtain ⟨data', hreads, hswapped⟩ :=
    (Json.SwappedState.afterHere stack .here).exists_reads hfresh ((Json.readsFrom_iff q').1 hbehind)
  exact ⟨data', (Json.readsFrom_iff q').2 hreads, hswapped⟩

/-- What is expanded to the text of a value is read as that value between what stands before and behind it. -/
theorem exists_expanded_between {cs written : List Char} {value : Json}
    (hruns : Json.Runs (.value []) ts next) (hexpects : Json.Expects next stack)
    (hexpands : Shorthand.ExpandsTo zone front ts) (hwritten : Delimited written value)
    (hexpand : ∀ text last, Shorthand.expandFrom zone text last (cs ++ rest) =
      (Shorthand.expandFrom zone text (some '\x7d') rest).map (written ++ ·))
    (hbehind : ReadsFrom (.after stack value) rest data) :
    ∃ expanded, Shorthand.expand zone (front ++ (cs ++ rest)) = .ok expanded ∧ Json.parse expanded = .ok data := by
  obtain ⟨front', last, hfront, -, hexpandFront⟩ := hexpands (front ++ (cs ++ rest)) none (cs ++ rest)
  obtain ⟨rest', hexpandRest, -, htokens⟩ : Shorthand.Tells zone (front ++ (cs ++ rest)) (some '\x7d') rest _ :=
    Shorthand.tells_of_reads (some '\x7d') hbehind
  have hwhole : Shorthand.expand zone (front ++ (cs ++ rest)) = .ok (front' ++ (written ++ rest')) := by
    rw [Shorthand.expand, hexpandFront, hexpand, hexpandRest]
    rfl
  refine ⟨_, hwhole, Json.parse_eq_ok_iff.2 ⟨Shorthand.head?_expandFrom hwhole, ?_⟩⟩
  -- the front runs to the state that expects a value, the spelling is read there, the rest behind it
  rw [hfront.readsFrom_iff hruns, hwritten hexpects, ReadsFrom, htokens]
  exact hbehind

/-- What is refused is refused behind whatever stands before it. -/
theorem exists_refused_behind {cs : List Char} (hexpands : Shorthand.ExpandsTo zone front ts)
    (h : ∀ text last rest, ∃ cause shown,
      Shorthand.expandFrom zone text last (cs ++ rest) = .error (.piece cause shown)) :
    ∃ cause shown, Shorthand.expand zone (front ++ (cs ++ rest)) = .error (.piece cause shown) := by
  obtain ⟨front', last, -, -, hexpandFront⟩ := hexpands (front ++ (cs ++ rest)) none (cs ++ rest)
  obtain ⟨cause, shown, hcause⟩ := h (front ++ (cs ++ rest)) last rest
  refine ⟨cause, shown, ?_⟩
  rw [Shorthand.expand, hexpandFront, hcause]
  rfl

end

/--
A call and its wrapper are two spellings of one value. Where the text of a wrapper stands in strict JSON without repeated
keys, the call may be put for it, and the text compiles to the same document, or both texts are refused. Dates without
an offset may be placed in any zone that is less than a day away from UTC, as each zone is that has a name.
-/
theorem compile_spellings {zone : Zone} (hzone : zone.IsNear) {front cs text rest : List Char} {data : Json}
    (h : Spellings cs text) (hparse : Json.parse (front ++ (text ++ rest)) = .ok data)
    (honce : keysOnce (front ++ (text ++ rest)) = true) :
    SameAnswer (compile zone (String.ofList (front ++ (cs ++ rest))))
      (compile zone (String.ofList (front ++ (text ++ rest)))) := by
  obtain ⟨c, hc, hblank, hsign⟩ := h.exists_visible
  obtain ⟨key, payload, hkey, htext, ⟨more, rfl⟩, hexchanges⟩ := h.exists_exchanges hzone
  have hreads : ReadsFrom (.value []) (front ++ opening (more ++ rest)) data := (Json.parse_eq_ok_iff.1 hparse).2
  obtain ⟨ts, next, stack, hruns, hexpects, htokens, hexpands⟩ :
    Shorthand.LeadsTo zone (.value []) front := Shorthand.leadsTo_of_readsFrom hreads
  obtain ⟨hbehind, hswaps⟩ := readsFrom_behind hparse honce hruns hexpects htokens htext (by simp [opening])
  obtain ⟨expanded, hexpand, hexpanded, -⟩ := Shorthand.expand_of_parse zone hparse
  have hvisible : isBlank (front ++ (cs ++ rest)) = false := isBlank_eq_false_of_mem (by simp [hc]) hblank hsign
  have hvisible' : isBlank (front ++ (opening more ++ rest)) = false :=
    isBlank_eq_false_of_mem (c := '"') (by simp [opening]) (by decide) (by simp [Shorthand.structureSigns])
  have hcompile : compile zone (String.ofList (front ++ (opening more ++ rest))) =
      resolve zone (String.ofList (front ++ (opening more ++ rest))) expanded :=
    compile_of_expand_eq (by rwa [String.toList_ofList]) (by rwa [String.toList_ofList])
  rcases hexchanges with ⟨written, payload', hwritten, hsame, hexpandCall⟩ | ⟨hnone, hexpandCall⟩
  · -- both texts are expanded, to data that differ in the place of the wrapper only
    obtain ⟨data', hreads', hswapped⟩ := hswaps (wrapper key payload')
    obtain ⟨expanded', hexpand', hexpanded'⟩ := exists_expanded_between hruns hexpects hexpands hwritten
      (fun text last => hexpandCall text last rest (Shorthand.endsPiece_of_readsFrom hbehind)) hreads'
    have hcompile' : compile zone (String.ofList (front ++ (cs ++ rest))) =
        resolve zone (String.ofList (front ++ (cs ++ rest))) expanded' :=
      compile_of_expand_eq (by rwa [String.toList_ofList]) (by rwa [String.toList_ofList])
    rw [hcompile, hcompile']
    refine sameAnswer_resolve fun doc => ?_
    rw [resolve_eq_ok_iff hexpanded', resolve_eq_ok_iff hexpanded]
    exact (ExtendedJson.decode_eq_ok_iff_of_swapped hkey (Json.distinctKeys_of_parseWith hparse)
      (Json.distinctKeys_of_parseWith hexpanded') hswapped hsame _).symm
  · -- the call is refused, and nothing that holds the wrapper stands for a document
    obtain ⟨cause, shown, hrefused⟩ := exists_refused_behind hexpands hexpandCall
    refine .inr ⟨refused_of_piece hvisible hrefused, ?_⟩
    rw [hcompile]
    refine (resolve_cases _ _ _).resolve_left ?_
    rintro ⟨doc, hdoc⟩
    obtain ⟨data', hreads', hswapped⟩ := hswaps (wrapper key payload)
    obtain ⟨part, hpart, -⟩ := ExtendedJson.decode_of_swapped hkey (Json.distinctKeys_of_parseWith hparse) hswapped
      ((resolve_eq_ok_iff hexpanded doc).1 hdoc)
    exact hnone part hpart

/-- A signed number as the argument of a call. -/
def signedCall : List Char := Shorthand.callText .long ['+', '0', '5']

/-- The same number in a wrapper. -/
def signedWrapper : List Char := Shorthand.wrapperText "$numberLong" (Shorthand.quotedText ['+', '0', '5'])

/-- Text before a date inside an array. -/
def beforeDate : List Char := "\x7b\"a\": [null, \x7b\"$date\" : ".toList

/-- Text behind the date. -/
def behindDate : List Char := "\x7d ], \"b\": \"\x7b\"\x7d".toList

/-- Inside the wrapper of a date the milliseconds may be a call. -/
theorem compile_spellings_date :
    Zone.utc.IsNear ∧ Spellings signedCall signedWrapper ∧
    Json.parse (beforeDate ++ (signedWrapper ++ behindDate)) = .ok (.obj
      [("a", .arr [.null, wrapper "$date" (wrapper "$numberLong" (.str "+05"))]), ("b", .str "\x7b")]) ∧
    keysOnce (beforeDate ++ (signedWrapper ++ behindDate)) = true ∧
    compile .utc (String.ofList (beforeDate ++ (signedCall ++ behindDate))) =
      .ok [("a", .array [.null, .dateTime 5]), ("b", .string "\x7b")] := by
  have hnumber : Shorthand.WholeNumber ['+', '0', '5'] :=
    .intro (.inr (.inr rfl)) (List.cons_ne_nil '0' ['5']) (by simp) (by simp)
  have hspellings : Spellings signedCall signedWrapper := .long hnumber
  have hparse : Json.parse (beforeDate ++ (signedWrapper ++ behindDate)) = .ok (.obj
      [("a", .arr [.null, wrapper "$date" (wrapper "$numberLong" (.str "+05"))]), ("b", .str "\x7b")]) := by
    cbv
  have honce : keysOnce (beforeDate ++ (signedWrapper ++ behindDate)) = true := by cbv
  refine ⟨Zone.isNear_utc, hspellings, hparse, honce, ?_⟩
  refine (compile_spellings Zone.isNear_utc hspellings hparse honce).eq_ok ?_
  exact compile_of_parse (by decide) hparse rfl

end DocBrowser.Query
