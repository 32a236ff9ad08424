import Mathlib
import DocBrowser.Json.Parse
import DocBrowser.Proofs.Fields
import DocBrowser.Proofs.Json.Doubles
import DocBrowser.Proofs.Json.Escapes
/-!
# Written JSON reads back

Written data is read token by token: each of its signs takes the machine one step further, and the
white space of the layout is dropped. What counts is only that the layout holds nothing but white
space, so all layouts read back alike.
-/

namespace DocBrowser.Json

open Text (StopsAt stopsAt_cons)

/-! ## Data that can be read -/

mutual

/-- Whole numbers are not too long, doubles are finite, and keys are distinct at every level. -/
def Readable : Json → Prop
  | .int n => n.natAbs < 10 ^ Text.digitLimit
  | .float d => d.isFinite = true
  | .arr items => ReadableItems items
  | .obj fields => (keysOf fields).Nodup ∧ ReadableFields fields
  | _ => True

/-- All items can be read. -/
def ReadableItems : List Json → Prop
  | [] => True
  | item :: rest => Readable item ∧ ReadableItems rest

/-- All field values can be read. -/
def ReadableFields : List (String × Json) → Prop
  | [] => True
  | (_, value) :: rest => Readable value ∧ ReadableFields rest

end

/-- Whether a layout is made of white space alone. -/
structure Layout.Blank (layout : Layout) : Prop where
  gap : ∀ depth, ∀ c ∈ layout.gap depth, isSpace c = true
  afterComma : ∀ depth, ∀ c ∈ layout.afterComma depth, isSpace c = true
  afterColon : ∀ c ∈ layout.afterColon, isSpace c = true

theorem isSpace_of_mem_lineStart {depth : ℕ} : ∀ c ∈ lineStart depth, isSpace c = true := by
  intro c hc
  rcases List.mem_cons.1 hc with rfl | hc
  · rfl
  · rw [List.eq_of_mem_replicate hc]
    rfl

@[simp] theorem Layout.compact_gap (depth : ℕ) : compact.gap depth = [] := rfl

@[simp] theorem Layout.compact_afterComma (depth : ℕ) : compact.afterComma depth = [] := rfl

@[simp] theorem Layout.compact_afterColon : compact.afterColon = [] := rfl

theorem Layout.compact_blank : Layout.compact.Blank := ⟨by simp [compact], by simp [compact], by simp [compact]⟩

theorem Layout.indented_blank : Layout.indented.Blank :=
  ⟨fun _ => isSpace_of_mem_lineStart, fun _ => isSpace_of_mem_lineStart, by simp [indented, isSpace]⟩

/-! ## The first sign of data -/

/-- Whether data may start with a character. -/
def startsData (c : Char) : Bool := c.isDigit || ['"', '\x7b', '[', '-', 'n', 't', 'f'].contains c

/-- Finite doubles start with a minus or a digit. -/
theorem text_finite_eq_cons (negative : Bool) (place : Fin Double.places) :
    ∃ c cs, (Double.finite negative place).text = c :: cs ∧ startsData c = true := by
  obtain ⟨n, hspelled, hsigns, -⟩ := numeral_of_finite negative place
  obtain ⟨d, ds, hd, hcons⟩ := signs_eq_cons hspelled
  rw [← hsigns, hcons]
  cases n.negative
  · exact ⟨d, ds, rfl, by simp [startsData, hd]⟩
  · exact ⟨'-', d :: ds, rfl, rfl⟩

theorem intText_eq_cons (n : ℤ) : ∃ c cs, Text.intText n = c :: cs ∧ startsData c = true := by
  obtain ⟨d, ds, hd, hcons⟩ := signs_eq_cons (spelled_ofInt n)
  rw [← signs_ofInt, hcons]
  cases (Numeral.ofInt n).negative
  · exact ⟨d, ds, rfl, by simp [startsData, hd]⟩
  · exact ⟨'-', d :: ds, rfl, rfl⟩

theorem writeDouble_finite (negative : Bool) (place : Fin Double.places) :
    writeDouble (.finite negative place) = (Double.finite negative place).text := rfl

/-- Written data starts with a sign of its own kind. -/
theorem writeAt_eq_cons (style : Style) (depth : ℕ) {data : Json} (h : data.Readable) :
    ∃ c cs, writeAt style depth data = c :: cs ∧ startsData c = true := by
  cases data with
  | null => exact ⟨'n', _, rfl, rfl⟩
  | bool value => cases value <;> exact ⟨_, _, rfl, rfl⟩
  | int value => rw [writeAt]; exact intText_eq_cons value
  | float value =>
    cases value with
    | finite negative place => rw [writeAt, writeDouble_finite]; exact text_finite_eq_cons negative place
    | _ => cases h
  | str value => exact ⟨'"', _, rfl, rfl⟩
  | arr items => cases items <;> rw [writeAt] <;> exact ⟨'[', _, rfl, rfl⟩
  | obj fields =>
    rcases fields with _ | ⟨⟨key, value⟩, rest⟩ <;> rw [writeAt] <;> exact ⟨'\x7b', _, rfl, rfl⟩

/-- No data is written with a byte order mark in front. -/
theorem head?_writeAt_ne (style : Style) (depth : ℕ) (data : Json) :
    (writeAt style depth data).head? ≠ some '\uFEFF' := by
  have hstart {cs : List Char} (h : ∃ c rest, cs = c :: rest ∧ startsData c = true) : cs.head? ≠ some '\uFEFF' := by
    obtain ⟨c, rest, rfl, hc⟩ := h
    rw [List.head?_cons, Ne, Option.some.injEq]
    rintro rfl
    exact absurd hc (by decide)
  -- numbers start with a minus sign or a digit; the first character of everything else is fixed
  cases data with
  | float d =>
    cases d with
    | finite negative place => exact hstart (writeAt_eq_cons style depth rfl)
    | infinite negative => cases negative <;> simp [writeAt, writeDouble]
    | nan => simp [writeAt, writeDouble]
  | int n =>
    rw [writeAt]
    exact hstart (intText_eq_cons n)
  | bool value => cases value <;> simp [writeAt]
  | arr items => cases items <;> simp [writeAt]
  | obj fields => rcases fields with _ | ⟨⟨key, value⟩, rest⟩ <;> simp [writeAt]
  | _ => simp [writeAt, writeText]

/-! ## Steps of the machine -/

/--
From a state in front of a text, the machine gets to another state in front of another text. Where
the texts stand only tells where a fault would be.
-/
def Reaches (strictness : Strictness) (a b : State × List Char) : Prop :=
  ∀ end_ p, ∃ q, run end_ a.1 (tokens strictness p a.2) = run end_ b.1 (tokens strictness q b.2)

variable {strictness : Strictness} {ascii : Bool}

theorem Reaches.trans {a b c : State × List Char} (h : Reaches strictness a b) (h' : Reaches strictness b c) :
    Reaches strictness a c := by
  intro end_ p
  obtain ⟨q, hq⟩ := h end_ p
  obtain ⟨r, hr⟩ := h' end_ q
  exact ⟨r, hq.trans hr⟩

/-- White space is dropped. -/
theorem reaches_spaces {state : State} {gap : List Char} (rest : List Char) (h : ∀ c ∈ gap, isSpace c = true) :
    Reaches strictness (state, gap ++ rest) (state, rest) := by
  induction gap with
  | nil => exact fun _ p => ⟨p, rfl⟩
  | cons c gap ih =>
    refine Reaches.trans (b := (state, gap ++ rest)) ?_ (ih fun x hx => h x (List.mem_cons_of_mem _ hx))
    refine fun end_ p => ⟨p + 1, ?_⟩
    simp only [List.cons_append]
    rw [tokens, if_pos (h c (by simp))]

/-- A token that the state expects takes the machine to the next state. -/
theorem reaches_token {state next : State} {signs : List Char} {token : Token} (rest : List Char)
    (hstart : ∀ c ∈ signs.head?, isSpace c = false) (hne : signs ≠ [])
    (hread : ∀ p, readToken strictness p (signs ++ rest) = (token, signs.length)) (hlast : token.isLast = false)
    (hstep : ∀ p, step state p token = .ok next) :
    Reaches strictness (state, signs ++ rest) (next, rest) := by
  intro end_ p
  obtain ⟨c, cs, rfl⟩ := List.exists_cons_of_ne_nil hne
  refine ⟨p + (c :: cs).length, ?_⟩
  have hspace : isSpace c = false := hstart c rfl
  have hread' := hread p
  rw [List.cons_append] at hread' ⊢
  rw [tokens, if_neg (by simp [hspace]), hread']
  simp only [hlast, Bool.false_eq_true, if_false, List.length_cons, Nat.add_sub_cancel, List.drop_left, run, hstep]
  rfl

/-! ## Tokens of written data -/

/-- The signs of structure are tokens of one character. -/
theorem reaches_sign {state : State} (next : State) {c : Char} {token : Token} (rest : List Char)
    (hspace : isSpace c = false) (hread : ∀ p rest, readToken strictness p (c :: rest) = (token, 1))
    (hlast : token.isLast = false) (hstep : ∀ p, step state p token = .ok next) :
    Reaches strictness (state, c :: rest) (next, rest) := by
  have hstart : ∀ d ∈ [c].head?, isSpace d = false := by simpa using hspace
  exact reaches_token rest hstart (by simp) (fun p => hread p rest) hlast hstep

theorem readToken_writeText (p : ℕ) (cs rest : List Char) :
    readToken strictness p (writeText ascii cs ++ rest) =
      (.text (String.ofList cs), (writeText ascii cs).length) := by
  have hread := (literal_flatMap ascii cs).readString p (p + 1) rest
  rw [writeText, List.cons_append, List.cons_append, List.append_assoc, List.singleton_append, readToken, hread]
  simp only [List.length_cons, List.length_append, List.length_nil]
  congr 1
  omega

/-- A written string is one token. -/
theorem reaches_writeText {state : State} (next : State) (cs rest : List Char)
    (hstep : ∀ p, step state p (.text (String.ofList cs)) = .ok next) :
    Reaches strictness (state, writeText ascii cs ++ rest) (next, rest) :=
  reaches_token rest (by simp [writeText, isSpace]) (by simp [writeText])
    (fun p => readToken_writeText p cs rest) rfl hstep

/-- A number is one token. -/
theorem reaches_numeral {state next : State} {n : Numeral} {data : Json} {rest : List Char} (h : n.Spelled)
    (htoken : n.token = .literal data) (hrest : StopsAt continuesNumber rest)
    (hstep : ∀ p, step state p (.literal data) = .ok next) :
    Reaches strictness (state, n.signs ++ rest) (next, rest) := by
  obtain ⟨d, ds, hd, hcons⟩ := signs_eq_cons h
  -- reading skips blanks, so the numeral must not start with one
  have hspace : isSpace d = false := by
    have hval := Text.toNat_of_isDigit hd
    simp only [isSpace, Bool.or_eq_false_iff, decide_eq_false_iff_not]
    refine ⟨⟨⟨?_, ?_⟩, ?_⟩, ?_⟩ <;> rintro rfl <;> simp [Char.isDigit] at hd
  refine reaches_token rest ?_ ?_ (fun p => ?_) rfl hstep
  · have hminus : isSpace '-' = false := rfl
    rw [hcons]
    cases n.negative <;> simp [hspace, hminus]
  · rw [hcons]
    cases n.negative <;> simp
  · rw [readToken_signs strictness p h hrest, htoken, h.length_eq]

/-- A word is one token. -/
theorem reaches_word {state next : State} {word : List Char} {data : Json} (rest : List Char)
    (hword : (word, data) ∈ [("null".toList, Json.null), ("true".toList, .bool true), ("false".toList, .bool false)])
    (hstep : ∀ p, step state p (.literal data) = .ok next) :
    Reaches strictness (state, word ++ rest) (next, rest) := by
  simp only [List.mem_cons, Prod.mk.injEq, List.not_mem_nil, or_false] at hword
  refine reaches_token rest ?_ ?_ (fun p => ?_) rfl hstep
  · rcases hword with ⟨rfl, rfl⟩ | ⟨rfl, rfl⟩ | ⟨rfl, rfl⟩ <;> simp [isSpace]
  · rcases hword with ⟨rfl, rfl⟩ | ⟨rfl, rfl⟩ | ⟨rfl, rfl⟩ <;> simp
  · rcases hword with ⟨rfl, rfl⟩ | ⟨rfl, rfl⟩ | ⟨rfl, rfl⟩ <;>
      rw [readToken_of_stopsAt strictness p (by simp) (by simp [isSign])] <;>
      simp [wordTokens, List.isPrefixOf]

/-! ## Written data -/

/-- A state that takes a value on top of a stack, be it that an array might also end there. -/
inductive Expects : State → List Frame → Prop where
  | value (stack : List Frame) : Expects (.value stack) stack
  | first (stack : List Frame) : Expects (.firstItem stack) (.array [] :: stack)

theorem Expects.step {state : State} {stack : List Frame} (h : Expects state stack) (p : ℕ) {token : Token}
    (htoken : token ≠ .closeBracket) : Json.step state p token = stepValue stack p token := by
  cases h with
  | value => rfl
  | first =>
    rw [Json.step]
    exact htoken

theorem isBlank_of_isSpace {c : Char} (h : isSpace c = true) : Text.isBlank c = true := by
  simp only [isSpace, Bool.or_eq_true, decide_eq_true_eq] at h
  rcases h with ((rfl | rfl) | rfl) | rfl <;> decide

theorem continuesNumber_of_isSpace {c : Char} (h : isSpace c = true) : continuesNumber c = false := by
  simp only [isSpace, Bool.or_eq_true, decide_eq_true_eq] at h
  rcases h with ((rfl | rfl) | rfl) | rfl <;> decide

/-- White space or a sign of structure ends a number. -/
theorem stopsAt_gap {gap : List Char} {c : Char} (rest : List Char) (hgap : ∀ c ∈ gap, isSpace c = true)
    (hc : continuesNumber c = false) : StopsAt continuesNumber (gap ++ c :: rest) := by
  cases gap with
  | nil => exact stopsAt_cons.2 hc
  | cons d gap => exact stopsAt_cons.2 (continuesNumber_of_isSpace (hgap d (by simp)))

theorem stopsAt_writeItems (style : Style) (depth : ℕ) {items : List Json} {rest : List Char}
    (h : StopsAt continuesNumber rest) : StopsAt continuesNumber (writeItems style depth items ++ rest) := by
  cases items with
  | nil => exact h
  | cons item items =>
    rw [writeItems]
    exact stopsAt_cons.2 (by decide)

theorem stopsAt_writeFields (style : Style) (depth : ℕ) {fields : List (String × Json)} {rest : List Char}
    (h : StopsAt continuesNumber rest) : StopsAt continuesNumber (writeFields style depth fields ++ rest) := by
  cases fields with
  | nil => exact h
  | cons field fields =>
    rw [writeFields]
    exact stopsAt_cons.2 (by decide)

section

variable {layout : Layout} (hlayout : layout.Blank)

include hlayout

/-- What opens an array is read up to its first item. -/
theorem reaches_openArray {state : State} {stack : List Frame} (hstate : Expects state stack) (depth : ℕ)
    (rest : List Char) :
    Reaches strictness (state, '[' :: (layout.gap depth ++ rest)) (.firstItem stack, rest) :=
  (reaches_sign (.firstItem stack) _ rfl (fun _ _ => rfl) rfl fun p => hstate.step p (by simp)).trans
    (reaches_spaces rest (hlayout.gap depth))

/-- What stands between two items is read. -/
theorem reaches_nextItem {stack : List Frame} (before : List Json) (last : Json) (depth : ℕ) (rest : List Char) :
    Reaches strictness (.after (.array before :: stack) last, ',' :: (layout.afterComma depth ++ rest))
      (.value (.array (last :: before) :: stack), rest) :=
  (reaches_sign (.value (.array (last :: before) :: stack)) _ rfl (fun _ _ => rfl) rfl fun _ => rfl).trans
    (reaches_spaces rest (hlayout.afterComma depth))

/-- A key is read with its colon. -/
theorem reaches_key {state : State} {stack : List Frame} {fields : List (String × Json)} (key : String)
    (hstep : ∀ p, step state p (.text key) = .ok (.colon stack fields key)) (rest : List Char) :
    Reaches strictness (state, writeText ascii key.toList ++ ':' :: (layout.afterColon ++ rest))
      (.value (.object fields key :: stack), rest) := by
  refine (reaches_writeText (.colon stack fields key) key.toList _ fun p => ?_).trans ?_
  · rw [String.ofList_toList]
    exact hstep p
  · refine (reaches_sign (.value (.object fields key :: stack)) _ rfl (fun _ _ => rfl) rfl fun _ => rfl).trans ?_
    exact reaches_spaces rest hlayout.afterColon

/-- What opens an object is read up to the value of its first key. -/
theorem reaches_openObject {state : State} {stack : List Frame} (hstate : Expects state stack) (key : String)
    (depth : ℕ) (rest : List Char) :
    Reaches strictness
      (state, '\x7b' :: (layout.gap depth ++ (writeText ascii key.toList ++ ':' :: (layout.afterColon ++ rest))))
      (.value (.object [] key :: stack), rest) := by
  refine (reaches_sign (.firstKey stack) _ rfl (fun _ _ => rfl) rfl fun p => hstate.step p (by simp)).trans ?_
  refine (reaches_spaces _ (hlayout.gap depth)).trans ?_
  exact reaches_key hlayout key (fun _ => rfl) rest

/-- What stands between two values of an object is read. -/
theorem reaches_nextField {stack : List Frame} (before : List (String × Json)) (key next : String) (last : Json)
    (depth : ℕ) (rest : List Char) :
    Reaches strictness
      (.after (.object before key :: stack) last,
        ',' :: (layout.afterComma depth ++ (writeText ascii next.toList ++ ':' :: (layout.afterColon ++ rest))))
      (.value (.object (setField before key last) next :: stack), rest) := by
  refine (reaches_sign (.key stack (setField before key last)) _ rfl (fun _ _ => rfl) rfl fun _ => rfl).trans ?_
  refine (reaches_spaces _ (hlayout.afterComma depth)).trans ?_
  exact reaches_key hlayout next (fun _ => rfl) rest

mutual

/-- Written data is read from any state that takes a value. -/
theorem reaches_writeAt {state : State} {stack : List Frame} (hstate : Expects state stack) (depth : ℕ) (data : Json)
    (h : data.Readable) {rest : List Char} (hrest : StopsAt continuesNumber rest) :
    Reaches strictness (state, writeAt ⟨layout, ascii⟩ depth data ++ rest) (.after stack data, rest) := by
  match data, h with
  | .null, _ =>
    rw [writeAt]
    exact reaches_word rest (by simp) fun p => hstate.step p (by simp)
  | .bool value, _ =>
    rw [writeAt]
    cases value
    · exact reaches_word rest (by simp) fun p => hstate.step p (by simp)
    · exact reaches_word rest (by simp) fun p => hstate.step p (by simp)
  | .int n, h =>
    rw [writeAt, ← signs_ofInt]
    exact reaches_numeral (spelled_ofInt n) (token_ofInt h) hrest fun p => hstate.step p (by simp)
  | .float (.finite negative place), _ =>
    obtain ⟨n, hspelled, hsigns, htoken⟩ := numeral_of_finite negative place
    rw [writeAt, writeDouble_finite, ← hsigns]
    exact reaches_numeral hspelled htoken hrest fun p => hstate.step p (by simp)
  | .str value, _ =>
    rw [writeAt]
    refine reaches_writeText _ value.toList rest fun p => ?_
    rw [hstate.step p (by simp), String.ofList_toList]
    rfl
  | .arr [], _ =>
    rw [writeAt]
    refine (reaches_sign (.firstItem stack) (']' :: rest) rfl (fun _ _ => rfl) rfl fun p =>
      hstate.step p (by simp)).trans ?_
    exact reaches_sign _ rest rfl (fun _ _ => rfl) rfl fun _ => rfl
  | .arr (item :: items), h =>
    -- the bracket, the gap, the first item, and then the others with the first one on the stack
    rw [writeAt]
    simp only [List.cons_append, List.append_assoc]
    refine (reaches_openArray hlayout hstate (depth + 1) _).trans ?_
    have hgap := stopsAt_gap rest (hlayout.gap depth) (show continuesNumber ']' = false by decide)
    refine (reaches_writeAt (.first stack) (depth + 1) item h.1 (stopsAt_writeItems _ _ hgap)).trans ?_
    exact reaches_writeItems [] item (depth + 1) items h.2 (hlayout.gap depth) rest
  | .obj [], _ =>
    rw [writeAt]
    refine (reaches_sign (.firstKey stack) ('\x7d' :: rest) rfl (fun _ _ => rfl) rfl fun p =>
      hstate.step p (by simp)).trans ?_
    exact reaches_sign _ rest rfl (fun _ _ => rfl) rfl fun _ => rfl
  | .obj ((key, value) :: fields), h =>
    -- the brace, the gap, the first key with its value, and then the other fields
    rw [writeAt]
    simp only [List.cons_append, List.append_assoc]
    refine (reaches_openObject hlayout hstate key (depth + 1) _).trans ?_
    have hgap := stopsAt_gap rest (hlayout.gap depth) (show continuesNumber '\x7d' = false by decide)
    refine (reaches_writeAt (.value _) (depth + 1) value h.2.1 (stopsAt_writeFields _ _ hgap)).trans ?_
    exact reaches_writeFields [] key value (depth + 1) fields h.1 h.2.2 (hlayout.gap depth) rest

/-- The items behind a first one are read up to the end of the array. -/
theorem reaches_writeItems {stack : List Frame} (before : List Json) (last : Json) (depth : ℕ) (items : List Json)
    (h : ReadableItems items) {gap : List Char} (hgap : ∀ c ∈ gap, isSpace c = true) (rest : List Char) :
    Reaches strictness
      (.after (.array before :: stack) last, writeItems ⟨layout, ascii⟩ depth items ++ (gap ++ ']' :: rest))
      (.after stack (.arr (before.reverse ++ last :: items)), rest) := by
  match items, h with
  | [], _ =>
    rw [writeItems, List.nil_append]
    refine (reaches_spaces _ hgap).trans ?_
    refine reaches_sign _ rest rfl (fun _ _ => rfl) rfl fun _ => ?_
    simp [step, stepAfter]
  | item :: items, h =>
    rw [writeItems]
    simp only [List.cons_append, List.append_assoc]
    refine (reaches_nextItem hlayout before last depth _).trans ?_
    have hstop := stopsAt_gap rest hgap (show continuesNumber ']' = false by decide)
    refine (reaches_writeAt (.value _) depth item h.1 (stopsAt_writeItems _ _ hstop)).trans ?_
    -- the item that was read last is now on top of those before it
    have hsplit : before.reverse ++ last :: item :: items = (last :: before).reverse ++ item :: items := by simp
    rw [hsplit]
    exact reaches_writeItems (last :: before) item depth items h.2 hgap rest

/-- The fields behind a first one are read up to the end of the object. -/
theorem reaches_writeFields {stack : List Frame} (before : List (String × Json)) (key : String) (last : Json)
    (depth : ℕ) (fields : List (String × Json)) (hkeys : (keysOf (before ++ (key, last) :: fields)).Nodup)
    (h : ReadableFields fields) {gap : List Char} (hgap : ∀ c ∈ gap, isSpace c = true) (rest : List Char) :
    Reaches strictness
      (.after (.object before key :: stack) last, writeFields ⟨layout, ascii⟩ depth fields ++ (gap ++ '\x7d' :: rest))
      (.after stack (.obj (before ++ (key, last) :: fields)), rest) := by
  -- a key that was there before would be overwritten in its place
  have hset : setField before key last = before ++ [(key, last)] := by
    refine setField_of_not_mem last fun hmem => ?_
    rw [keysOf, List.map_append, List.map_cons] at hkeys
    exact (List.nodup_append.1 hkeys).2.2 key hmem key (by simp) rfl
  match fields, h with
  | [], _ =>
    rw [writeFields, List.nil_append]
    refine (reaches_spaces _ hgap).trans ?_
    refine reaches_sign _ rest rfl (fun _ _ => rfl) rfl fun _ => ?_
    simp [step, stepAfter, hset]
  | (next, value) :: fields, h =>
    rw [writeFields]
    simp only [List.cons_append, List.append_assoc]
    refine (reaches_nextField hlayout before key next last depth _).trans ?_
    rw [hset]
    have hstop := stopsAt_gap rest hgap (show continuesNumber '\x7d' = false by decide)
    refine (reaches_writeAt (.value _) depth value h.1 (stopsAt_writeFields _ _ hstop)).trans ?_
    have hsplit : before ++ (key, last) :: (next, value) :: fields =
        (before ++ [(key, last)]) ++ (next, value) :: fields := by simp
    rw [hsplit] at hkeys ⊢
    exact reaches_writeFields (before ++ [(key, last)]) next value depth fields hkeys h.2 hgap rest

end

omit hlayout in
/-- A text is parsed as the data that the machine has read when it gets to the end. -/
theorem parseWith_of_reaches {text : List Char} {data : Json} (hmark : text.head? ≠ some '\uFEFF')
    (h : Reaches strictness (.value [], text) (.after [] data, [])) : parseWith strictness text = .ok data := by
  obtain ⟨q, hq⟩ := h text.length 0
  rw [parseWith, if_neg hmark]
  refine hq.trans ?_
  simp only
  rw [tokens]
  rfl

/-- Data that is written at any depth reads back, with or without white space behind it. -/
theorem parseWith_writeAt_append (depth : ℕ) {data : Json} (h : data.Readable) {gap : List Char}
    (hgap : ∀ c ∈ gap, isSpace c = true) :
    parseWith strictness (writeAt ⟨layout, ascii⟩ depth data ++ gap) = .ok data := by
  have hstop : StopsAt continuesNumber gap := by
    cases gap with
    | nil => exact Text.stopsAt_nil _
    | cons c gap => exact stopsAt_cons.2 (continuesNumber_of_isSpace (hgap c (by simp)))
  apply parseWith_of_reaches
  · obtain ⟨c, cs, hcons, -⟩ := writeAt_eq_cons ⟨layout, ascii⟩ depth h
    have hhead := head?_writeAt_ne ⟨layout, ascii⟩ depth data
    rw [hcons] at hhead ⊢
    exact hhead
  · refine (reaches_writeAt hlayout (.value []) depth data h hstop).trans ?_
    have hend : Reaches strictness (.after [] data, gap ++ []) _ := reaches_spaces [] hgap
    rwa [List.append_nil] at hend

/-- Data that is written at any depth reads back. -/
theorem parseWith_writeAt (depth : ℕ) {data : Json} (h : data.Readable) :
    parseWith strictness (writeAt ⟨layout, ascii⟩ depth data) = .ok data := by
  have hread : parseWith strictness (writeAt ⟨layout, ascii⟩ depth data ++ []) = .ok data :=
    parseWith_writeAt_append hlayout depth h (List.forall_mem_nil _)
  rwa [List.append_nil] at hread

/-- Data that is written in any layout reads back. -/
theorem parseWith_write {data : Json} (h : data.Readable) :
    parseWith strictness (write ⟨layout, ascii⟩ data) = .ok data :=
  parseWith_writeAt hlayout 0 h

/-- A key and its value between braces are read as an object of one field. -/
theorem parseWith_field (depth : ℕ) (key : String) {value : Json} (h : value.Readable) :
    parseWith strictness ('\x7b' :: (writeText ascii key.toList ++
      ':' :: (layout.afterColon ++ (writeAt ⟨layout, ascii⟩ depth value ++ ['\x7d'])))) = .ok (.obj [(key, value)]) := by
  refine parseWith_of_reaches (by simp) ?_
  refine (reaches_sign (.firstKey []) _ rfl (fun _ _ => rfl) rfl fun _ => rfl).trans ?_
  refine (reaches_key hlayout key (fun _ => rfl) _).trans ?_
  have hstop : StopsAt continuesNumber ['\x7d'] := stopsAt_cons.2 (by decide)
  refine (reaches_writeAt hlayout (.value _) depth value h hstop).trans ?_
  exact reaches_sign _ [] rfl (fun _ _ => rfl) rfl fun _ => rfl

end

end DocBrowser.Json
