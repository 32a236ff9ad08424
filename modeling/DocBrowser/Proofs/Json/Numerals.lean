import Mathlib
import DocBrowser.Json.Token
import DocBrowser.Proofs.Text.Digits
/-!
# Numbers as tokens

A number that is spelled as JSON spells it is read as one token, whatever follows it, as long as
that does not go on as a number.
-/

namespace DocBrowser.Json

open Text (StopsAt stopsAt_cons takeWhile_run takeWhile_of_stopsAt toNat_of_isDigit isDigit_of_mem_toDigits
  fractionSigns)

/-- Whether a number may go on with a character. -/
def continuesNumber (c : Char) : Bool := c.isDigit || c = '.' || c = 'e' || c = 'E'

namespace Numeral

/-- The signs of an exponent; its sign is always written. -/
def exponentSigns : Option (Bool × List Char) → List Char
  | none => []
  | some (negative, digits) => 'e' :: (if negative then '-' else '+') :: digits

/-- The signs of a number. -/
def signs (n : Numeral) : List Char :=
  (if n.negative then ['-'] else []) ++ (n.whole ++ (fractionSigns n.fraction ++ exponentSigns n.exponent))

/-- Whether a number is spelled as JSON wants it: no zeros in front, and digits wherever there must be some. -/
structure Spelled (n : Numeral) : Prop where
  whole_ne : n.whole ≠ []
  whole_digits : ∀ c ∈ n.whole, c.isDigit = true
  whole_zero : n.whole.head? = some '0' → n.whole = ['0']
  fraction_digits : ∀ c ∈ n.fraction, c.isDigit = true
  exponent_digits : ∀ e ∈ n.exponent, e.2 ≠ [] ∧ ∀ c ∈ e.2, c.isDigit = true
  length_eq : n.length = n.signs.length

end Numeral

open Numeral

/-! ## The parts of a number -/

theorem isDigit_of_continuesNumber {c : Char} (h : continuesNumber c = false) : c.isDigit = false := by
  simp only [continuesNumber, Bool.or_eq_false_iff] at h
  exact h.1.1.1

theorem wholeDigits_append {whole rest : List Char} (hdigits : ∀ c ∈ whole, c.isDigit = true)
    (hzero : whole.head? = some '0' → whole = ['0']) (hne : whole ≠ []) (hrest : StopsAt Char.isDigit rest) :
    wholeDigits (whole ++ rest) = whole := by
  cases whole with
  | nil => exact absurd rfl hne
  | cons d ds =>
    by_cases hd : d = '0'
    · -- a zero is read alone, and is written alone
      rw [hzero (by simp [hd])]
      rfl
    · rw [wholeDigits]
      · exact takeWhile_run hdigits hrest
      · simp [hd]

/-- What may follow the whole part never goes on with a digit. -/
theorem stopsAt_fractionSigns {fraction rest : List Char} (hrest : StopsAt Char.isDigit rest) :
    StopsAt Char.isDigit (fractionSigns fraction ++ rest) := by
  unfold fractionSigns
  split_ifs
  · exact hrest
  · exact stopsAt_cons.2 (by decide)

theorem stopsAt_exponentSigns {exponent : Option (Bool × List Char)} {rest : List Char}
    (hrest : StopsAt continuesNumber rest) : StopsAt Char.isDigit (exponentSigns exponent ++ rest) := by
  cases exponent with
  | none => exact hrest.mono fun c => isDigit_of_continuesNumber
  | some e => exact stopsAt_cons.2 (by decide)

theorem fractionDigits_append {fraction : List Char} {exponent : Option (Bool × List Char)} {rest : List Char}
    (hdigits : ∀ c ∈ fraction, c.isDigit = true) (hrest : StopsAt continuesNumber rest) :
    fractionDigits (fractionSigns fraction ++ (exponentSigns exponent ++ rest)) = fraction := by
  unfold fractionSigns
  split_ifs with h
  · -- without a fraction neither an exponent nor the rest starts with a point
    subst h
    cases exponent with
    | some e => rfl
    | none =>
      cases rest with
      | nil => rfl
      | cons c cs =>
        have hc : c ≠ '.' := by
          rintro rfl
          exact absurd (stopsAt_cons.1 hrest) (by decide)
        simp [exponentSigns, fractionDigits, hc]
  · exact takeWhile_run hdigits (stopsAt_exponentSigns hrest)

theorem exponentPart?_exponentSigns {exponent : Option (Bool × List Char)} {rest : List Char}
    (hdigits : ∀ e ∈ exponent, e.2 ≠ [] ∧ ∀ c ∈ e.2, c.isDigit = true) (hrest : StopsAt continuesNumber rest) :
    exponentPart? (exponentSigns exponent ++ rest) =
      exponent.map fun e => (e, (exponentSigns exponent).length) := by
  have hstop : StopsAt Char.isDigit rest := hrest.mono fun c => isDigit_of_continuesNumber
  cases exponent with
  | none =>
    cases rest with
    | nil => rfl
    | cons c cs =>
      -- without an exponent, what follows does not look like one
      have hc := stopsAt_cons.1 hrest
      simp only [continuesNumber, Bool.or_eq_false_iff, decide_eq_false_iff_not] at hc
      simp [exponentSigns, exponentPart?, hc.1.2, hc.2]
  | some e =>
    obtain ⟨negative, digits⟩ := e
    obtain ⟨hne, hds⟩ := hdigits (negative, digits) rfl
    have hrun := takeWhile_run hds hstop
    cases negative <;>
    · simp [exponentSigns, exponentPart?, Text.takeSign, hrun, hne]
      omega

/-! ## The whole number -/

theorem takeMinus_of_isDigit {whole rest : List Char} (h : ∀ c ∈ whole, c.isDigit = true) (hne : whole ≠ []) :
    takeMinus (whole ++ rest) = (false, whole ++ rest) := by
  cases whole with
  | nil => exact absurd rfl hne
  | cons d ds =>
    have hd : d ≠ '-' := by
      rintro rfl
      exact absurd (h '-' (by simp)) (by decide)
    simp [takeMinus, hd]

theorem numeral?_signs {n : Numeral} {rest : List Char} (h : n.Spelled) (hrest : StopsAt continuesNumber rest) :
    numeral? (n.signs ++ rest) = some n := by
  obtain ⟨hne, hwhole, hzero, hfraction, hexponent, hlength⟩ := h
  obtain ⟨negative, whole, fraction, exponent, length⟩ := n
  simp only at hne hwhole hzero hfraction hexponent hlength
  -- what each part of the reader takes, and what it leaves to the next
  set tail := fractionSigns fraction ++ (exponentSigns exponent ++ rest) with htail
  have hdigits : wholeDigits (whole ++ tail) = whole :=
    wholeDigits_append hwhole hzero hne (stopsAt_fractionSigns (stopsAt_exponentSigns hrest))
  have hfrac : fractionDigits tail = fraction := fractionDigits_append hfraction hrest
  have hdrop : tail.drop (if fraction = [] then 0 else fraction.length + 1) = exponentSigns exponent ++ rest := by
    rw [htail, fractionSigns]
    split_ifs <;> simp
  have hexp := exponentPart?_exponentSigns hexponent hrest
  have hminus : takeMinus ((if negative then ['-'] else []) ++ (whole ++ tail)) = (negative, whole ++ tail) := by
    cases negative with
    | true => rfl
    | false =>
      rw [if_neg Bool.false_ne_true, List.nil_append]
      exact takeMinus_of_isDigit hwhole hne
  -- the length is counted part by part
  have hlen : length = (if negative then 1 else 0) + whole.length +
      (if fraction = [] then 0 else fraction.length + 1) + ((exponent.map fun e =>
        (e, (exponentSigns exponent).length)).map (·.2)).getD 0 := by
    rw [hlength]
    cases negative <;> cases exponent <;> by_cases hf : fraction = [] <;>
      simp [signs, fractionSigns, exponentSigns, hf] <;> omega
  have hmap : ((exponent.map fun e => (e, (exponentSigns exponent).length)).map (·.1)) = exponent := by
    cases exponent <;> rfl
  rw [signs, List.append_assoc, List.append_assoc, List.append_assoc, ← htail, numeral?, hminus]
  simp only [hdigits, if_neg hne, List.drop_left, hfrac, hdrop, hexp, hmap, hlen]

/-! ## The value of a number -/

/-- The exponent of ten that a number is written with. -/
def Numeral.scale (n : Numeral) : ℤ :=
  match n.exponent with
  | none => 0
  | some (negative, digits) => Text.signed negative (Text.ofDigitValues 10 (digitValues digits))

/-- A number with a fraction or an exponent stands for the double nearest to it. -/
theorem token_of_ne {n : Numeral} (h : n.fraction ≠ [] ∨ n.exponent ≠ none) :
    n.token = .literal (.float (.ofDecimal n.negative
      (Text.ofDigitValues 10 (digitValues (n.whole ++ n.fraction))) (n.scale - n.fraction.length))) := by
  obtain ⟨negative, whole, fraction, exponent, length⟩ := n
  cases fraction with
  | nil =>
    cases exponent with
    | none => simp at h
    | some e => rfl
  | cons c cs => cases exponent <;> rfl

/-! ## Numbers as tokens -/

/-- The signs of a number start with a digit, behind a minus where there is one. -/
theorem signs_eq_cons {n : Numeral} (h : n.Spelled) :
    ∃ d ds, d.isDigit = true ∧ n.signs = if n.negative then '-' :: d :: ds else d :: ds := by
  obtain ⟨d, ds, hwhole⟩ := List.exists_cons_of_ne_nil h.whole_ne
  refine ⟨d, ds ++ (fractionSigns n.fraction ++ exponentSigns n.exponent), ?_, ?_⟩
  · exact h.whole_digits d (by simp [hwhole])
  · rw [signs, hwhole]
    cases n.negative <;> simp

/-- A number is made of digits, signs, a point and the letter of the exponent. -/
theorem mem_signs {n : Numeral} (h : n.Spelled) {c : Char} (hc : c ∈ n.signs) :
    c ∈ ['-', '+', '.', 'e'] ∨ c.isDigit = true := by
  simp only [signs, List.mem_append] at hc
  -- the sign, the whole part, the fraction and the exponent
  rcases hc with hc | hc | hc | hc
  · cases hneg : n.negative <;> simp only [hneg, Bool.false_eq_true, if_false, if_true, List.not_mem_nil] at hc
    exact .inl (by simp [List.mem_singleton.1 hc])
  · exact .inr (h.whole_digits c hc)
  · unfold fractionSigns at hc
    split_ifs at hc
    · simp at hc
    · rcases List.mem_cons.1 hc with rfl | hc
      · exact .inl (by simp)
      · exact .inr (h.fraction_digits c hc)
  · cases hexp : n.exponent with
    | none => simp [hexp, exponentSigns] at hc
    | some e =>
      rw [hexp, exponentSigns, List.mem_cons, List.mem_cons] at hc
      rcases hc with rfl | rfl | hc
      · exact .inl (by simp)
      · cases e.1 <;> exact .inl (by simp)
      · exact .inr ((h.exponent_digits e (by rw [hexp]; rfl)).2 c hc)

/-- No word starts with a digit, with or without a minus in front of it. -/
theorem wordTokens_find?_eq_none (strictness : Strictness) {d : Char} (hd : d.isDigit = true) (negative : Bool)
    (cs : List Char) :
    (wordTokens strictness).find? (fun (word, _) =>
      word.isPrefixOf (if negative then '-' :: d :: cs else d :: cs)) = none := by
  have hval := toNat_of_isDigit hd
  have hne (c : Char) (hc : c.isDigit = false) : (c == d) = false := by
    rw [beq_eq_false_iff_ne]
    rintro rfl
    simp [hc] at hd
  cases negative <;> simp [wordTokens, List.isPrefixOf, hne]

/-- Whether a character is a token of its own or opens a string. -/
def isSign (c : Char) : Bool := ['\x7b', '\x7d', '[', ']', ',', ':', '"'].contains c

theorem isSign_of_isDigit {c : Char} (h : c.isDigit = true) : isSign c = false := by
  simp only [isSign, List.contains_eq_mem, decide_eq_false_iff_not, List.mem_cons, List.not_mem_nil, or_false]
  rintro (rfl | rfl | rfl | rfl | rfl | rfl | rfl) <;> simp [Char.isDigit] at h

/-- A text that starts with no sign is a word or a number. -/
theorem readToken_of_stopsAt (strictness : Strictness) (position : ℕ) {cs : List Char} (hne : cs ≠ [])
    (h : StopsAt isSign cs) :
    readToken strictness position cs =
      match (wordTokens strictness).find? fun (word, _) => word.isPrefixOf cs with
      | some (word, token) => (token, word.length)
      | none =>
        match numeral? cs with
        | some n => (n.token, n.length)
        | none => (.stray, 1) := by
  obtain ⟨c, rest, rfl⟩ := List.exists_cons_of_ne_nil hne
  have hc := stopsAt_cons.1 h
  -- no sign stands in front, which leaves the last case of the definition
  have hsign {d : Char} (hd : isSign d = true) (rest' : List Char) : c :: rest ≠ d :: rest' := by
    intro heq
    rw [(List.cons.inj heq).1, hd] at hc
    cases hc
  unfold readToken
  split
  all_goals first
    | rfl
    | rename_i heq; exact absurd heq hne
    | rename_i heq; exact absurd heq (hsign (by decide) _)

/-- A number is read as a token of its own. -/
theorem readToken_signs (strictness : Strictness) (position : ℕ) {n : Numeral} {rest : List Char} (h : n.Spelled)
    (hrest : StopsAt continuesNumber rest) :
    readToken strictness position (n.signs ++ rest) = (n.token, n.length) := by
  have hnum := numeral?_signs h hrest
  obtain ⟨d, ds, hd, hsigns⟩ := signs_eq_cons h
  have hword := wordTokens_find?_eq_none strictness hd n.negative (ds ++ rest)
  have happend : n.signs ++ rest = if n.negative then '-' :: d :: (ds ++ rest) else d :: (ds ++ rest) := by
    rw [hsigns]
    cases n.negative <;> rfl
  rw [happend] at hnum ⊢
  have hsign : ∀ c ∈ (if n.negative then '-' :: d :: (ds ++ rest) else d :: (ds ++ rest)).head?,
      isSign c = false := by
    have hdigit := isSign_of_isDigit hd
    have hminus : isSign '-' = false := by decide
    cases n.negative <;> simp [hdigit, hminus]
  rw [readToken_of_stopsAt strictness position (by cases n.negative <;> simp) hsign, hword]
  simp only [hnum]

/-! ## Whole numbers -/

/-- The number that a whole number is written as. -/
def Numeral.ofInt (n : ℤ) : Numeral :=
  ⟨decide (n < 0), Nat.toDigits 10 n.natAbs, [], none, (Text.intText n).length⟩

theorem signs_ofInt (n : ℤ) : (ofInt n).signs = Text.intText n := by
  by_cases h : n < 0 <;> simp [ofInt, signs, fractionSigns, exponentSigns, Text.intText, h]

theorem spelled_ofInt (n : ℤ) : (ofInt n).Spelled where
  whole_ne := Nat.toDigits_ne_nil
  whole_digits _ hc := isDigit_of_mem_toDigits hc
  whole_zero hhead := by
    by_cases hn : n = 0
    · subst hn
      rfl
    · obtain ⟨d, ds, hcons, hd⟩ := Text.head?_toDigits (Int.natAbs_pos.2 hn)
      simp only [ofInt, hcons, List.head?_cons, Option.some.injEq] at hhead
      exact absurd hhead hd
  fraction_digits := by simp [ofInt]
  exponent_digits := by simp [ofInt]
  length_eq := by rw [signs_ofInt]; rfl

/-- The text of a number with no more digits than a conversion accepts stands for it. -/
theorem token_ofInt {n : ℤ} (h : n.natAbs < 10 ^ Text.digitLimit) : (ofInt n).token = .literal (.int n) := by
  have hlen : (Nat.toDigits 10 n.natAbs).length ≤ Text.digitLimit :=
    (Nat.length_toDigits_le_iff (by norm_num) (by decide)).2 h
  simp only [token, ofInt, digitValues, Text.natOfDigits, List.length_map, if_neg (not_lt.2 hlen),
    Text.ofDigitValues_toDigits, Text.signed_natAbs]

end DocBrowser.Json
