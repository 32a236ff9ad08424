import Mathlib
import DocBrowser.Number.Decimal
import DocBrowser.Proofs.Text.Digits
/-!
# Decimals read back

The text of a decimal keeps all its digits and its exponent, so reading it gives the same decimal,
not only one of the same value.
-/

namespace DocBrowser.Decimal

open Text (StopsAt stopsAt_cons takeWhile_run dropWhile_run toNat_of_isDigit isDigit_of_mem_toDigits fractionSigns
  ofDigitValues ofDigitValues_append ofDigitValues_replicate_zero ofDigitValues_toDigits)

/-! ## Characters of numbers -/

/-- Whether a character is ASCII, no white space and no underscore. -/
def IsPlain (c : Char) : Prop := c.toNat < 128 ∧ Text.isBlank c = false ∧ c ≠ '_'

theorem isPlain_of_isDigit {c : Char} (h : c.isDigit = true) : IsPlain c := by
  have hc := toNat_of_isDigit h
  refine ⟨by omega, Text.isBlank_of_isDigit h, ?_⟩
  rintro rfl
  simp [Char.isDigit] at h

/-- Plain characters are read in lower case, with nothing dropped. -/
theorem plainText?_of_isPlain {cs : List Char} (h : ∀ c ∈ cs, IsPlain c) :
    plainText? cs = some (cs.map Char.toLower) := by
  have hfilter : cs.filter (· ≠ '_') = cs := by
    rw [List.filter_eq_self]
    exact fun c hc => by simpa using (h c hc).2.2
  rw [plainText?, Text.trim_eq_self fun c hc => (h c hc).2.1, hfilter]
  clear hfilter
  induction cs with
  | nil => rfl
  | cons c rest ih =>
    have hc : plain? c = some c.toLower := if_pos (h c (by simp)).1
    rw [List.mapM_cons, hc, ih fun x hx => h x (List.mem_cons_of_mem _ hx)]
    rfl

theorem map_toLower_of_isDigit {cs : List Char} (h : ∀ c ∈ cs, c.isDigit = true) : cs.map Char.toLower = cs := by
  rw [List.map_congr_left fun c hc => Text.toLower_of_isDigit (h c hc), List.map_id']

theorem digits?_of_isDigit {cs : List Char} (h : ∀ c ∈ cs, c.isDigit = true) :
    digits? cs = some (cs.map fun c => c.toNat - 48) := by
  induction cs with
  | nil => rfl
  | cons c rest ih =>
    have ih' := ih fun x hx => h x (List.mem_cons_of_mem _ hx)
    rw [digits?] at ih' ⊢
    rw [List.mapM_cons, if_pos (h c (by simp)), ih']
    rfl

/-! ## The parts of a number -/

/-- An exponent in lower case, where there is one. -/
def plainExponent : Option ℤ → List Char
  | none => []
  | some e => 'e' :: (if e < 0 then '-' else '+') :: Nat.toDigits 10 e.natAbs

theorem readExponent?_plainExponent (e : Option ℤ) : readExponent? (plainExponent e) = some (e.getD 0) := by
  cases e with
  | none => rfl
  | some e =>
    have hdigits := digits?_of_isDigit fun c hc => isDigit_of_mem_toDigits (n := e.natAbs) hc
    have hsigned := Text.signed_natAbs e
    by_cases he : e < 0
    · rw [decide_eq_true he] at hsigned
      simp [plainExponent, readExponent?, Text.takeSign, he, Nat.toDigits_ne_nil, hdigits, ofDigitValues_toDigits,
        hsigned]
    · rw [decide_eq_false he] at hsigned
      simp [plainExponent, readExponent?, Text.takeSign, he, Nat.toDigits_ne_nil, hdigits, ofDigitValues_toDigits,
        hsigned]

theorem stopsAt_plainExponent (e : Option ℤ) : StopsAt Char.isDigit (plainExponent e) := by
  cases e with
  | none => exact Text.stopsAt_nil _
  | some e => exact stopsAt_cons.2 (by decide)

theorem takeFraction_fractionSigns {fraction : List Char} (e : Option ℤ)
    (hfraction : ∀ c ∈ fraction, c.isDigit = true) :
    takeFraction (fractionSigns fraction ++ plainExponent e) = (fraction, plainExponent e) := by
  unfold fractionSigns
  split_ifs with h
  · subst h
    cases e <;> rfl
  · have hstop := stopsAt_plainExponent e
    simp only [List.cons_append, takeFraction, takeWhile_run hfraction hstop, dropWhile_run hfraction hstop]

/-- Digits, a fraction and an exponent are read as they are written. -/
theorem readFinite?_parts (negative : Bool) {whole fraction : List Char} (e : Option ℤ) (hne : whole ≠ [])
    (hwhole : ∀ c ∈ whole, c.isDigit = true) (hfraction : ∀ c ∈ fraction, c.isDigit = true) :
    readFinite? negative (whole ++ (fractionSigns fraction ++ plainExponent e)) =
      bounded? negative (ofDigitValues 10 ((whole ++ fraction).map fun c => c.toNat - 48))
        (e.getD 0 - fraction.length) := by
  -- the whole part ends where the point, the exponent or the text's end stands
  have hstop : StopsAt Char.isDigit (fractionSigns fraction ++ plainExponent e) := by
    unfold fractionSigns
    split_ifs
    · exact stopsAt_plainExponent e
    · exact stopsAt_cons.2 (by decide)
  have hdigits : digits? (whole ++ fraction) = some ((whole ++ fraction).map fun c => c.toNat - 48) :=
    digits?_of_isDigit fun c hc => (List.mem_append.1 hc).elim (hwhole c) (hfraction c)
  simp only [readFinite?, takeWhile_run hwhole hstop, dropWhile_run hwhole hstop,
    takeFraction_fractionSigns e hfraction, hdigits, readExponent?_plainExponent, hne, false_and, if_false,
    Option.bind_eq_bind, Option.bind_some]

/-! ## Finite decimals -/

/-- The parts that a finite decimal is written in. -/
structure Parts (coefficient : ℕ) (exponent : ℤ) where
  whole : List Char
  fraction : List Char
  scale : Option ℤ
  whole_ne : whole ≠ []
  whole_digits : ∀ c ∈ whole, c.isDigit = true
  fraction_digits : ∀ c ∈ fraction, c.isDigit = true
  value_eq : ofDigitValues 10 ((whole ++ fraction).map fun c => c.toNat - 48) = coefficient
  exponent_eq : scale.getD 0 - fraction.length = exponent

/-- The exponent as it is written. -/
def writtenExponent : Option ℤ → List Char
  | none => []
  | some e => exponentText e

/-- A finite decimal is written in parts that keep its coefficient and its exponent. -/
theorem finiteText_parts (coefficient : ℕ) (exponent : ℤ) :
    ∃ p : Parts coefficient exponent,
      finiteText coefficient exponent = p.whole ++ (fractionSigns p.fraction ++ writtenExponent p.scale) := by
  have hall : ∀ c ∈ Nat.toDigits 10 coefficient, c.isDigit = true := fun c hc => isDigit_of_mem_toDigits hc
  have hvalue := ofDigitValues_toDigits coefficient
  obtain ⟨d, ds, hcons⟩ := List.exists_cons_of_ne_nil (Nat.toDigits_ne_nil (b := 10) (n := coefficient))
  simp only [finiteText]
  generalize Nat.toDigits 10 coefficient = digits at *
  split_ifs with hplain hzero hwhole
  · -- a whole number
    exact ⟨⟨digits, [], none, by simp [hcons], hall, by simp, by simpa using hvalue, by simp [hzero]⟩,
      by simp [fractionSigns, writtenExponent]⟩
  · -- a point between the digits
    set k := (exponent + digits.length).toNat with hk
    have hlt : k < digits.length := by omega
    refine ⟨⟨digits.take k, digits.drop k, none, ?_, ?_, ?_, ?_, ?_⟩, ?_⟩
    · rw [Ne, List.take_eq_nil_iff]
      simp [hcons]
      omega
    · exact fun c hc => hall c (List.mem_of_mem_take hc)
    · exact fun c hc => hall c (List.mem_of_mem_drop hc)
    · rw [List.take_append_drop, hvalue]
    · simp only [Option.getD_none, List.length_drop]
      omega
    · simp [fractionSigns, writtenExponent, hlt]
  · -- a zero in front of the point and more zeros behind it, none of which changes the value
    set k := (-(exponent + digits.length)).toNat with hk
    have hzeros : '0'.toNat - 48 = 0 := by decide
    refine ⟨⟨['0'], List.replicate k '0' ++ digits, none, by simp, by simp, ?_, ?_, ?_⟩, ?_⟩
    · intro c hc
      rcases List.mem_append.1 hc with hc | hc
      · rw [List.eq_of_mem_replicate hc]
        decide
      · exact hall c hc
    · rw [← List.append_assoc]
      show ofDigitValues 10 (((List.replicate 1 '0' ++ List.replicate k '0') ++ digits).map _) = _
      rw [List.replicate_append_replicate, List.map_append, List.map_replicate, hzeros, ofDigitValues_append,
        ofDigitValues_replicate_zero, zero_mul, zero_add, hvalue]
    · simp only [Option.getD_none, List.length_append, List.length_replicate]
      omega
    · simp [fractionSigns, writtenExponent, hcons]
  · -- one digit in front of the point and an exponent that makes up for the others
    subst hcons
    refine ⟨⟨[d], ds, some (exponent + (d :: ds).length - 1), by simp, ?_, ?_, by simpa using hvalue, ?_⟩, ?_⟩
    · simpa using hall d (by simp)
    · exact fun c hc => hall c (List.mem_cons_of_mem _ hc)
    · simp
      omega
    · cases ds <;> simp [fractionSigns, writtenExponent]

/-! ## Characters of texts -/

theorem isPlain_exponentText {c : Char} {e : ℤ} (h : c ∈ exponentText e) : IsPlain c := by
  rw [exponentText, List.mem_cons, List.mem_cons] at h
  rcases h with rfl | rfl | h
  · exact ⟨by decide, by decide, by decide⟩
  · split_ifs <;> exact ⟨by decide, by decide, by decide⟩
  · exact isPlain_of_isDigit (isDigit_of_mem_toDigits h)

theorem isPlain_sign {c : Char} {negative : Bool} (h : c ∈ text.sign negative) : IsPlain c := by
  cases negative
  · simp [text.sign] at h
  · rw [List.mem_singleton.1 h]
    exact ⟨by decide, by decide, by decide⟩

theorem isPlain_finiteText {c : Char} {coefficient : ℕ} {exponent : ℤ} (h : c ∈ finiteText coefficient exponent) :
    IsPlain c := by
  obtain ⟨p, hp⟩ := finiteText_parts coefficient exponent
  rw [hp, List.mem_append, List.mem_append] at h
  -- a character of the digits in front of the point, of the fraction or of the exponent
  rcases h with h | h | h
  · exact isPlain_of_isDigit (p.whole_digits c h)
  · unfold fractionSigns at h
    split_ifs at h
    · simp at h
    · rcases List.mem_cons.1 h with rfl | h
      · exact ⟨by decide, by decide, by decide⟩
      · exact isPlain_of_isDigit (p.fraction_digits c h)
  · cases hscale : p.scale with
    | none => simp [hscale, writtenExponent] at h
    | some e =>
      rw [hscale] at h
      exact isPlain_exponentText h

/-- The text of a decimal is plain throughout. -/
theorem isPlain_text {c : Char} {d : Decimal} (h : c ∈ d.text) : IsPlain c := by
  cases d with
  | finite negative coefficient exponent => exact (List.mem_append.1 h).elim isPlain_sign isPlain_finiteText
  | infinite negative =>
    refine (List.mem_append.1 h).elim isPlain_sign fun h => ?_
    have hname : ∀ c ∈ "Infinity".toList, IsPlain c := by simp [IsPlain, Text.isBlank]
    exact hname c h
  | nan negative signaling payload =>
    rw [text, List.append_assoc] at h
    refine (List.mem_append.1 h).elim isPlain_sign fun h => (List.mem_append.1 h).elim (fun h => ?_) fun h => ?_
    · have hname : ∀ c ∈ (if signaling then "sNaN".toList else "NaN".toList), IsPlain c := by
        cases signaling <;> simp [IsPlain, Text.isBlank]
      exact hname c h
    · split_ifs at h
      · simp at h
      · exact isPlain_of_isDigit (isDigit_of_mem_toDigits h)

/-! ## Whole texts -/

theorem map_toLower_writtenExponent (e : Option ℤ) : (writtenExponent e).map Char.toLower = plainExponent e := by
  cases e with
  | none => rfl
  | some e =>
    have hdigits := map_toLower_of_isDigit fun c hc => isDigit_of_mem_toDigits (n := e.natAbs) hc
    by_cases he : e < 0 <;> simp [writtenExponent, exponentText, plainExponent, he, hdigits]

theorem takeSign_sign (negative : Bool) {d : Char} (rest : List Char) (hd : d.isDigit = true) :
    Text.takeSign (text.sign negative ++ d :: rest) = (negative, d :: rest) := by
  cases negative with
  | true => rfl
  | false =>
    have hval := toNat_of_isDigit hd
    rw [text.sign, if_neg Bool.false_ne_true, List.nil_append, Text.takeSign]
    · rintro _ ⟨rfl, -⟩
      simp [Char.isDigit] at hd
    · rintro _ ⟨rfl, -⟩
      simp [Char.isDigit] at hd

/-- A text that starts with a digit is no name. -/
theorem readUnsigned?_of_isDigit (negative : Bool) {d : Char} (rest : List Char) (hd : d.isDigit = true) :
    readUnsigned? negative (d :: rest) = readFinite? negative (d :: rest) := by
  rw [readUnsigned?]
  all_goals
    rintro _ h
    obtain ⟨rfl, -⟩ := List.cons.inj h
    simp [Char.isDigit] at hd

/-- A finite decimal reads back with its digits and its exponent. -/
theorem ofText?_finite (negative : Bool) {coefficient : ℕ} {exponent : ℤ}
    (h : (finite negative coefficient exponent).InRange) :
    ofText? (finite negative coefficient exponent).text = some (.finite negative coefficient exponent) := by
  obtain ⟨p, hp⟩ := finiteText_parts coefficient exponent
  have hwhole := map_toLower_of_isDigit p.whole_digits
  have hfraction : (fractionSigns p.fraction).map Char.toLower = fractionSigns p.fraction := by
    unfold fractionSigns
    split_ifs
    · rfl
    · rw [List.map_cons, map_toLower_of_isDigit p.fraction_digits]
      rfl
  have hplain : ∀ c ∈ text.sign negative ++ finiteText coefficient exponent, IsPlain c := fun c hc =>
    (List.mem_append.1 hc).elim isPlain_sign isPlain_finiteText
  have hsign : (text.sign negative).map Char.toLower = text.sign negative := by
    cases negative <;> rfl
  obtain ⟨d, ds, hcons⟩ := List.exists_cons_of_ne_nil p.whole_ne
  have hd : d.isDigit = true := p.whole_digits d (by simp [hcons])
  have hread := readFinite?_parts negative p.scale p.whole_ne p.whole_digits p.fraction_digits
  have hbounds : topExponent coefficient exponent ≤ maxExponent ∧ minExponent ≤ exponent := h
  rw [p.value_eq, p.exponent_eq, bounded?, if_pos hbounds, hcons, List.cons_append] at hread
  -- lowering the case changes only the letter of the exponent
  rw [ofText?, text, plainText?_of_isPlain hplain, hp]
  simp only [List.map_append, hwhole, hfraction, hsign, map_toLower_writtenExponent, Option.bind_some]
  rw [hcons, List.cons_append, takeSign_sign negative _ hd]
  simp only
  rw [readUnsigned?_of_isDigit negative _ hd, hread]

theorem ofText?_nan (negative signaling : Bool) (payload : ℕ) :
    ofText? (nan negative signaling payload).text = some (.nan negative signaling payload) := by
  -- a payload of zero is written with no digits, which read as zero again
  set digits := if payload = 0 then [] else Nat.toDigits 10 payload with hdigits
  have hall : ∀ c ∈ digits, c.isDigit = true := by
    intro c hc
    rw [hdigits] at hc
    split_ifs at hc
    · simp at hc
    · exact isDigit_of_mem_toDigits hc
  have hvalue : ofDigitValues 10 (digits.map fun c => c.toNat - 48) = payload := by
    rw [hdigits]
    split_ifs with h
    · exact h.symm
    · exact ofDigitValues_toDigits payload
  let name := if signaling then ['s', 'N', 'a', 'N'] else ['N', 'a', 'N']
  have htext : (nan negative signaling payload).text = text.sign negative ++ (name ++ digits) := by
    rw [text, ← hdigits, List.append_assoc]
    cases signaling <;> rfl
  have hplain : ∀ c ∈ text.sign negative ++ (name ++ digits), IsPlain c := fun c hc => isPlain_text (htext ▸ hc)
  have hsign : Text.takeSign ((text.sign negative ++ (name ++ digits)).map Char.toLower) =
      (negative, (if signaling then ['s', 'n', 'a', 'n'] else ['n', 'a', 'n']) ++ digits) := by
    rw [List.map_append, List.map_append, map_toLower_of_isDigit hall]
    cases negative <;> cases signaling <;> rfl
  rw [htext, ofText?, plainText?_of_isPlain hplain, Option.bind_some, hsign]
  cases signaling <;> simp [readUnsigned?, digits?_of_isDigit hall, hvalue]

/-- A decimal in range reads back as itself. -/
theorem ofText?_text {d : Decimal} (h : d.InRange) : ofText? d.text = some d := by
  cases d with
  | finite negative coefficient exponent => exact ofText?_finite negative h
  | infinite negative => cases negative <;> rfl
  | nan negative signaling payload => exact ofText?_nan negative signaling payload

end DocBrowser.Decimal

namespace DocBrowser.Double

/-- The names of the doubles that are not finite read back. -/
theorem ofText?_nan : ofText? "NaN".toList = some .nan := by rfl

theorem ofText?_infinite (negative : Bool) :
    ofText? (if negative then "-Infinity".toList else "Infinity".toList) = some (.infinite negative) := by
  cases negative <;> rfl

end DocBrowser.Double
