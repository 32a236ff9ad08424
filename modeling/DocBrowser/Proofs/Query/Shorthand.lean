import Mathlib
import DocBrowser.Proofs.Failure
import DocBrowser.Proofs.Json.Reading
import DocBrowser.Proofs.Query.Scanning
/-!
# Written JSON is no shorthand

Expanding goes through a text piece by piece. Strict JSON is shell-style text too, and expanding it
changes nothing: no string is taken for structure, no word for a key or a call, and no slash for a
regular expression.
-/

namespace DocBrowser.Shorthand

open Json (Written inside writeText_eq writeAt writeItems writeFields)
open Text (StopsAt stopsAt_cons takeWhile_run)

/-! ## Piece by piece -/

section

variable {zone : Zone} {text : List Char}

/-- White space is written as it stands. -/
theorem expandFrom_blank {last : Option Char} {c : Char} {cs : List Char} (hblank : Text.isBlank c = true) :
    expandFrom zone text last (c :: cs) = (expandFrom zone text last cs).map (c :: ·) := by
  rw [expandFrom, if_pos hblank]
  rfl

/-- What a piece is written as takes the place of the piece. -/
theorem expandFrom_piece {last : Option Char} {c : Char} {cs : List Char} {piece : Piece}
    (hblank : Text.isBlank c = false) (h : readPiece zone text last c cs = .ok piece) :
    expandFrom zone text last (c :: cs) =
      (expandFrom zone text (some piece.last) (cs.drop (piece.length - 1))).map (piece.written ++ ·) := by
  rw [expandFrom, if_neg (by simp [hblank]), h]
  rfl

/-- A text is expanded from behind a sign of structure, white space and pieces in turn. -/
inductive Expands (zone : Zone) (text : List Char) : Option Char → List Char → List Char → Prop where
  | nil (last : Option Char) : Expands zone text last [] []
  | blank {last : Option Char} {c : Char} {cs written : List Char} (hblank : Text.isBlank c = true)
    (h : Expands zone text last cs written) : Expands zone text last (c :: cs) (c :: written)
  | piece {last : Option Char} {c : Char} {cs written : List Char} {piece : Piece} (hblank : Text.isBlank c = false)
    (hpiece : readPiece zone text last c cs = .ok piece)
    (h : Expands zone text (some piece.last) (cs.drop (piece.length - 1)) written) :
    Expands zone text last (c :: cs) (piece.written ++ written)

theorem expandFrom_eq_ok_iff {last : Option Char} {cs written : List Char} :
    expandFrom zone text last cs = .ok written ↔ Expands zone text last cs written := by
  constructor
  · intro h
    induction last, cs using expandFrom.induct generalizing written with
    | case1 last =>
      rw [expandFrom] at h
      cases h
      exact .nil last
    | case2 last c cs hblank ih =>
      rw [expandFrom_blank hblank] at h
      obtain ⟨others, hothers, rfl⟩ := map_eq_ok.1 h
      exact .blank hblank (ih hothers)
    | case3 last c cs hblank ih =>
      rw [expandFrom, if_neg hblank] at h
      obtain ⟨piece, hpiece, h⟩ := bind_eq_ok.1 h
      obtain ⟨others, hothers, h⟩ := bind_eq_ok.1 h
      cases h
      exact .piece (Bool.eq_false_of_not_eq_true hblank) hpiece (ih piece hothers)
  · intro h
    induction h with
    | nil => rw [expandFrom]
    | blank hblank _ ih =>
      rw [expandFrom_blank hblank, ih]
      rfl
    | piece hblank hpiece _ ih =>
      rw [expandFrom_piece hblank hpiece, ih]
      rfl

end

/-! ## Pieces that stay as they are -/

/--
From behind one sign of structure to behind another, signs are expanded to themselves: what is in
front of the second text is written as it stands.
-/
def Kept (zone : Zone) (text : List Char) (a b : Option Char × List Char) : Prop :=
  ∃ signs, a.2 = signs ++ b.2 ∧
    expandFrom zone text a.1 a.2 = (expandFrom zone text b.1 b.2).map (signs ++ ·)

section

variable {zone : Zone} {text : List Char}

theorem Kept.refl (a : Option Char × List Char) : Kept zone text a a := by
  refine ⟨[], rfl, ?_⟩
  cases expandFrom zone text a.1 a.2 <;> rfl

theorem Kept.trans {a b c : Option Char × List Char} (h : Kept zone text a b) (h' : Kept zone text b c) :
    Kept zone text a c := by
  obtain ⟨signs, hsigns, hexpand⟩ := h
  obtain ⟨signs', hsigns', hexpand'⟩ := h'
  refine ⟨signs ++ signs', by rw [hsigns, hsigns', List.append_assoc], ?_⟩
  rw [hexpand, hexpand']
  cases expandFrom zone text c.1 c.2 with
  | error fault => rfl
  | ok written => simp [Except.map]

/-- Text that is kept up to its end is expanded to itself. -/
theorem Kept.expandFrom_eq {last last' : Option Char} {signs : List Char}
    (h : Kept zone text (last, signs) (last', [])) : expandFrom zone text last signs = .ok signs := by
  obtain ⟨signs', hsigns, hexpand⟩ := h
  simp only [List.append_nil] at hsigns
  rw [hexpand, expandFrom, hsigns]
  simp [Except.map]

/-- A piece that is written as it stands is kept. -/
theorem kept_piece {last : Option Char} {c : Char} {signs rest : List Char} {final : Char}
    (hblank : Text.isBlank c = false)
    (hpiece : readPiece zone text last c (signs ++ rest) = .ok ⟨c :: signs, final, signs.length + 1⟩) :
    Kept zone text (last, c :: (signs ++ rest)) (some final, rest) := by
  refine ⟨c :: signs, rfl, ?_⟩
  simp only
  rw [expandFrom_piece hblank hpiece, Nat.add_sub_cancel, List.drop_left]

/-! ## White space and signs of structure -/

theorem kept_gap (last : Option Char) {gap : List Char} (rest : List Char) (h : ∀ c ∈ gap, Json.isSpace c = true) :
    Kept zone text (last, gap ++ rest) (last, rest) := by
  induction gap with
  | nil => exact .refl _
  | cons c gap ih =>
    have hfirst : Kept zone text (last, c :: (gap ++ rest)) (last, gap ++ rest) :=
      ⟨[c], rfl, expandFrom_blank (Json.isBlank_of_isSpace (h c (by simp)))⟩
    exact hfirst.trans (ih fun x hx => h x (List.mem_cons_of_mem _ hx))

theorem kept_sign (last : Option Char) {c : Char} (rest : List Char)
    (hc : c ∈ ['\x7b', '\x7d', '[', ']', ':', ',']) : Kept zone text (last, c :: rest) (some c, rest) := by
  simp only [List.mem_cons, List.not_mem_nil, or_false] at hc
  have hblank : Text.isBlank c = false := by
    rcases hc with rfl | rfl | rfl | rfl | rfl | rfl <;> decide
  have hpiece : readPiece zone text last c ([] ++ rest) = .ok ⟨[c], c, 1⟩ := by
    rcases hc with rfl | rfl | rfl | rfl | rfl | rfl <;> simp [readPiece, isStructural]
  exact kept_piece hblank hpiece

/-! ## Strings -/

/-- Between double quotes nothing is rewritten. -/
theorem scanString_written {c : Char} {signs : List Char} (h : Written c signs) (rest : List Char) :
    scanString '"' (signs ++ rest) =
      (scanString '"' rest).map fun (raw, length) => (signs ++ raw, length + signs.length) := by
  cases h with
  | plain hquote hbackslash _ => exact scanString_plain hquote hbackslash rest
  | named letter _ _ _ => exact scanString_backslash letter rest
  | numbered hcontrol =>
    -- the backslash takes the letter with it, and the four digits stand for themselves
    obtain ⟨high, low, hescape, hdigits⟩ := Json.unicodeEscape_eq (show c.toNat < 256 by omega)
    obtain ⟨hhigh, hhigh', -⟩ := hdigits high (by simp)
    obtain ⟨hlow, hlow', -⟩ := hdigits low (by simp)
    rw [hescape]
    simp only [List.cons_append, List.nil_append]
    rw [scanString_backslash, scanString_plain (by decide) (by decide), scanString_plain (by decide) (by decide),
      scanString_plain hhigh hhigh', scanString_plain hlow hlow']
    cases scanString '"' rest <;> simp

theorem scanString_inside (cs rest : List Char) :
    scanString '"' (inside cs ++ '"' :: rest) = some (inside cs, (inside cs).length + 1) := by
  induction cs with
  | nil => simp [scanString]
  | cons c cs ih =>
    rw [Json.inside_cons, List.append_assoc, scanString_written (Json.written_writeChar c), ih]
    simp
    omega

/-- A written string is scanned, read and written again as the same string. -/
theorem kept_writeText (last : Option Char) (cs rest : List Char) :
    Kept zone text (last, Json.writeText false cs ++ rest) (some '"', rest) := by
  rw [writeText_eq, List.cons_append]
  refine kept_piece (by decide) ?_
  have hread : readString '"' (inside cs ++ '"' :: rest) = .ok (cs, (inside cs).length + 2) := by
    rw [readString_eq, scanString_inside]
    simp only [Json.readString_inside]
  rw [List.append_assoc, List.singleton_append, readPiece, if_pos (by simp), hread]
  simp [Except.map, writeText_eq]

/-! ## Words and numbers -/

/-- Whether a value ends in front of a text: no word goes on there, and nothing makes it a key. -/
structure EndsValue (rest : List Char) : Prop where
  bare : StopsAt isBareChar rest
  sign : nextSign rest ≠ some ':'

/-- Whether a bare value may start with a character. -/
def startsBare (c : Char) : Bool := c.isDigit || ['-', 'n', 't', 'f'].contains c

theorem startsBare_cases {c : Char} (h : startsBare c = true) :
    (48 ≤ c.toNat ∧ c.toNat ≤ 57) ∨ c = '-' ∨ c = 'n' ∨ c = 't' ∨ c = 'f' := by
  simp only [startsBare, Bool.or_eq_true, List.contains_eq_mem, List.mem_cons, List.not_mem_nil, or_false,
    decide_eq_true_eq] at h
  rcases h with h | h
  · exact .inl (Text.toNat_of_isDigit h)
  · exact .inr h

/-- No name of a call starts like a value. -/
theorem name_isPrefixOf_eq_false (call : Call) {c : Char} (cs : List Char) (h : startsBare c = true) :
    call.name.toList.isPrefixOf (c :: cs) = false := by
  have hne (d : Char) (hd : startsBare d = false) : (d == c) = false := by
    rw [beq_eq_false_iff_ne]
    rintro rfl
    simp [hd] at h
  rcases call with (_ | _) | _ | _ | _ | _ | _ | _ | _ <;> simp [Call.name, List.isPrefixOf, hne, startsBare]

theorem callAt?_eq_none {c : Char} (cs : List Char) (h : startsBare c = true) : callAt? (c :: cs) = none := by
  rw [callAt?, List.findSome?_eq_none_iff]
  intro call _
  simp [name_isPrefixOf_eq_false call cs h]

theorem boundAt?_eq_none {c : Char} (cs : List Char) (h : startsBare c = true) : boundAt? (c :: cs) = none := by
  rw [boundAt?, List.findSome?_eq_none_iff]
  intro call _
  simp [name_isPrefixOf_eq_false call cs h]

/-- What starts a bare value is no quote, no slash and no sign of structure. -/
theorem readPiece_of_startsBare (last : Option Char) {c : Char} (cs : List Char) (h : startsBare c = true) :
    readPiece zone text last c cs = readBare zone text last (c :: cs) := by
  have hquote : ¬(c = '"' ∨ c = '\'') := by
    rintro (rfl | rfl) <;> simp [startsBare] at h
  have hslash : c ≠ '/' := by
    rintro rfl
    simp [startsBare] at h
  have hstructural : isStructural c = false := by
    simp only [isStructural, List.contains_eq_mem, decide_eq_false_iff_not]
    intro hmem
    simp only [String.reduceToList, List.mem_cons, List.not_mem_nil, or_false] at hmem
    rcases hmem with rfl | rfl | rfl | rfl | rfl | rfl <;> simp [startsBare] at h
  rw [readPiece, if_neg (by simpa using hquote), if_neg (by simp [hslash]), if_neg (by simp [hstructural])]

/-- A bare value is kept. -/
theorem kept_bare (last : Option Char) {c : Char} {cs rest : List Char} (hstart : startsBare c = true)
    (hbare : ∀ d ∈ c :: cs, isBareChar d = true) (hrest : EndsValue rest) :
    ∃ last', Kept zone text (last, c :: (cs ++ rest)) (last', rest) := by
  obtain ⟨final, hfinal⟩ := Option.isSome_iff_exists.1
    (show ((c :: cs).getLast?).isSome = true by simp)
  refine ⟨some final, kept_piece ?_ ?_⟩
  · -- it is no white space
    rcases startsBare_cases hstart with h | rfl | rfl | rfl | rfl
    · simp only [Text.isBlank, Bool.or_eq_false_iff, Bool.and_eq_false_iff, decide_eq_false_iff_not,
        beq_eq_false_iff_ne]
      omega
    all_goals decide
  · -- no colon behind it makes it a key
    have hword : (c :: (cs ++ rest)).takeWhile isBareChar = c :: cs := takeWhile_run hbare hrest.bare
    have hdrop : (c :: (cs ++ rest)).drop (cs.length + 1) = rest := by rw [List.drop_succ_cons, List.drop_left]
    rw [readPiece_of_startsBare last _ hstart, readBare, callAt?_eq_none _ hstart, boundAt?_eq_none _ hstart]
    simp only [hword, hfinal, List.length_cons, hdrop, hrest.sign, decide_false, Bool.and_false,
      Bool.false_eq_true, if_false]

/-! ## Bare values of JSON -/

theorem kept_word (last : Option Char) {word rest : List Char}
    (hword : word ∈ [['n', 'u', 'l', 'l'], ['t', 'r', 'u', 'e'], ['f', 'a', 'l', 's', 'e']]) (hrest : EndsValue rest) :
    ∃ last', Kept zone text (last, word ++ rest) (last', rest) := by
  simp only [List.mem_cons, List.not_mem_nil, or_false] at hword
  rcases hword with rfl | rfl | rfl <;>
    exact kept_bare last rfl (by simp [isBareChar, Text.isWordChar]) hrest

theorem isBareChar_of_isDigit {c : Char} (h : c.isDigit = true) : isBareChar c = true := by
  have hc := Text.toNat_of_isDigit h
  simp only [isBareChar, Text.isWordChar, Bool.or_eq_true]
  left
  rw [if_pos (by omega)]
  simp [Char.isAlphanum, h]

/-- A number is a bare value. -/
theorem kept_numeral (last : Option Char) {n : Json.Numeral} {rest : List Char} (h : n.Spelled) (hrest : EndsValue rest) :
    ∃ last', Kept zone text (last, n.signs ++ rest) (last', rest) := by
  obtain ⟨d, ds, hd, hcons⟩ := Json.signs_eq_cons h
  have hsigns : ∀ c ∈ n.signs, isBareChar c = true := by
    intro c hc
    have hfour : ∀ c ∈ ['-', '+', '.', 'e'], isBareChar c = true := by simp [isBareChar, Text.isWordChar]
    exact (Json.mem_signs h hc).elim (hfour c) isBareChar_of_isDigit
  rw [hcons] at hsigns ⊢
  cases hneg : n.negative
  · simp only [hneg, Bool.false_eq_true, if_false] at hsigns ⊢
    exact kept_bare last (by simp [startsBare, hd]) hsigns hrest
  · simp only [hneg, if_true] at hsigns ⊢
    exact kept_bare last rfl hsigns hrest

/-! ## Written data -/

theorem isBareChar_of_isSpace {c : Char} (h : Json.isSpace c = true) : isBareChar c = false := by
  simp only [Json.isSpace, Bool.or_eq_true, decide_eq_true_eq] at h
  rcases h with ((rfl | rfl) | rfl) | rfl <;> decide

/-- White space and a sign that closes or separates end a value. -/
theorem endsValue_gap {gap : List Char} {c : Char} (rest : List Char) (hgap : ∀ c ∈ gap, Json.isSpace c = true)
    (hc : c ∈ ['\x7d', ']', ',']) : EndsValue (gap ++ c :: rest) := by
  have hbare : ∀ c ∈ ['\x7d', ']', ','], isBareChar c = false ∧ Text.isBlank c = false ∧ c ≠ ':' := by
    simp [isBareChar, Text.isWordChar, Text.isBlank]
  obtain ⟨hbare, hblank, hcolon⟩ := hbare c hc
  constructor
  · cases gap with
    | nil => exact stopsAt_cons.2 hbare
    | cons d gap => exact stopsAt_cons.2 (isBareChar_of_isSpace (hgap d (by simp)))
  · have hskip : skipBlanks (gap ++ c :: rest) = c :: rest :=
      Text.dropWhile_run (fun d hd => Json.isBlank_of_isSpace (hgap d hd)) (stopsAt_cons.2 hblank)
    rw [nextSign, hskip, List.head?_cons, Ne, Option.some.injEq]
    exact hcolon

theorem endsValue_sign {c : Char} (rest : List Char) (hc : c ∈ ['\x7d', ']', ',']) : EndsValue (c :: rest) :=
  endsValue_gap rest (List.forall_mem_nil _) hc

theorem endsValue_nil : EndsValue [] := ⟨Text.stopsAt_nil _, by simp [nextSign, skipBlanks]⟩

theorem endsValue_writeItems (style : Json.Style) (depth : ℕ) (items : List Json) {rest : List Char}
    (h : EndsValue rest) : EndsValue (writeItems style depth items ++ rest) := by
  cases items with
  | nil => exact h
  | cons item items =>
    rw [writeItems]
    exact endsValue_sign _ (by simp)

theorem endsValue_writeFields (style : Json.Style) (depth : ℕ) (fields : List (String × Json)) {rest : List Char}
    (h : EndsValue rest) : EndsValue (writeFields style depth fields ++ rest) := by
  rcases fields with _ | ⟨⟨key, value⟩, fields⟩
  · exact h
  · rw [writeFields]
    exact endsValue_sign _ (by simp)

end

section

variable {zone : Zone} {text : List Char} {layout : Json.Layout} (hlayout : layout.Blank)

include hlayout

mutual

/-- Written data is kept, whatever was written in front of it. -/
theorem kept_writeAt (last : Option Char) (depth : ℕ) (data : Json) (h : data.Readable) {rest : List Char}
    (hrest : EndsValue rest) :
    ∃ last', Kept zone text (last, writeAt ⟨layout, false⟩ depth data ++ rest) (last', rest) := by
  match data, h with
  | .null, _ =>
    rw [writeAt]
    exact kept_word last (by simp) hrest
  | .bool value, _ =>
    rw [writeAt]
    cases value
    · exact kept_word last (by simp) hrest
    · exact kept_word last (by simp) hrest
  | .int n, _ =>
    rw [writeAt, ← Json.signs_ofInt]
    exact kept_numeral last (Json.spelled_ofInt n) hrest
  | .float (.finite negative place), _ =>
    obtain ⟨n, hspelled, hsigns, -⟩ := Json.numeral_of_finite negative place
    rw [writeAt, Json.writeDouble_finite, ← hsigns]
    exact kept_numeral last hspelled hrest
  | .str value, _ =>
    rw [writeAt]
    exact ⟨_, kept_writeText last value.toList rest⟩
  | .arr [], _ =>
    rw [writeAt]
    exact ⟨_, (kept_sign last _ (by simp)).trans (kept_sign _ rest (by simp))⟩
  | .arr (item :: items), h =>
    rw [writeAt]
    simp only [List.cons_append, List.append_assoc, List.nil_append]
    -- the gap and the bracket end whatever value is the last one in front of them
    have hclose := endsValue_gap rest (hlayout.gap depth) (show ']' ∈ ['\x7d', ']', ','] by simp)
    obtain ⟨last₁, hitem⟩ := kept_writeAt (some '[') (depth + 1) item h.1
      (endsValue_writeItems ⟨layout, false⟩ (depth + 1) items hclose)
    obtain ⟨last₂, hitems⟩ := kept_writeItems last₁ (depth + 1) items h.2 hclose
    refine ⟨some ']', (kept_sign last _ (by simp)).trans ?_⟩
    refine (kept_gap _ _ (hlayout.gap _)).trans (hitem.trans (hitems.trans ?_))
    exact (kept_gap _ _ (hlayout.gap _)).trans (kept_sign _ rest (by simp))
  | .obj [], _ =>
    rw [writeAt]
    exact ⟨_, (kept_sign last _ (by simp)).trans (kept_sign _ rest (by simp))⟩
  | .obj ((key, value) :: fields), h =>
    rw [writeAt]
    simp only [List.cons_append, List.append_assoc, List.nil_append]
    have hclose := endsValue_gap rest (hlayout.gap depth) (show '\x7d' ∈ ['\x7d', ']', ','] by simp)
    obtain ⟨last₁, hvalue⟩ := kept_writeAt (some ':') (depth + 1) value h.2.1
      (endsValue_writeFields ⟨layout, false⟩ (depth + 1) fields hclose)
    obtain ⟨last₂, hfields⟩ := kept_writeFields last₁ (depth + 1) fields h.2.2 hclose
    refine ⟨some '\x7d', (kept_sign last _ (by simp)).trans ?_⟩
    refine (kept_gap _ _ (hlayout.gap _)).trans ((kept_writeText _ _ _).trans ?_)
    refine (kept_sign _ _ (by simp)).trans ((kept_gap _ _ hlayout.afterColon).trans ?_)
    refine hvalue.trans (hfields.trans ?_)
    exact (kept_gap _ _ (hlayout.gap _)).trans (kept_sign _ rest (by simp))

@[inherit_doc kept_writeAt]
theorem kept_writeItems (last : Option Char) (depth : ℕ) (items : List Json) (h : Json.ReadableItems items)
    {rest : List Char} (hrest : EndsValue rest) :
    ∃ last', Kept zone text (last, writeItems ⟨layout, false⟩ depth items ++ rest) (last', rest) := by
  match items, h with
  | [], _ => exact ⟨last, .refl _⟩
  | item :: items, h =>
    rw [writeItems]
    simp only [List.cons_append, List.append_assoc]
    obtain ⟨last₁, hitem⟩ := kept_writeAt (some ',') depth item h.1
      (endsValue_writeItems ⟨layout, false⟩ depth items hrest)
    obtain ⟨last₂, hitems⟩ := kept_writeItems last₁ depth items h.2 hrest
    refine ⟨last₂, (kept_sign last _ (by simp)).trans ?_⟩
    exact (kept_gap _ _ (hlayout.afterComma _)).trans (hitem.trans hitems)

@[inherit_doc kept_writeAt]
theorem kept_writeFields (last : Option Char) (depth : ℕ) (fields : List (String × Json))
    (h : Json.ReadableFields fields) {rest : List Char} (hrest : EndsValue rest) :
    ∃ last', Kept zone text (last, writeFields ⟨layout, false⟩ depth fields ++ rest) (last', rest) := by
  match fields, h with
  | [], _ => exact ⟨last, .refl _⟩
  | (key, value) :: fields, h =>
    rw [writeFields]
    simp only [List.cons_append, List.append_assoc]
    obtain ⟨last₁, hvalue⟩ := kept_writeAt (some ':') depth value h.1
      (endsValue_writeFields ⟨layout, false⟩ depth fields hrest)
    obtain ⟨last₂, hfields⟩ := kept_writeFields last₁ depth fields h.2 hrest
    refine ⟨last₂, (kept_sign last _ (by simp)).trans ?_⟩
    refine (kept_gap _ _ (hlayout.afterComma _)).trans ((kept_writeText _ _ _).trans ?_)
    exact (kept_sign _ _ (by simp)).trans ((kept_gap _ _ hlayout.afterColon).trans (hvalue.trans hfields))

end

/-- Written data is expanded to itself. -/
theorem expand_write {data : Json} (h : data.Readable) :
    expand zone (Json.write ⟨layout, false⟩ data) = .ok (Json.write ⟨layout, false⟩ data) := by
  obtain ⟨last', hkept⟩ := kept_writeAt hlayout none 0 data h endsValue_nil
  rw [List.append_nil] at hkept
  exact hkept.expandFrom_eq

end

end DocBrowser.Shorthand
