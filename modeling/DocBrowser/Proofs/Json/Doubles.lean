import Mathlib
import DocBrowser.Proofs.Json.Numerals
import DocBrowser.Proofs.Number.Shortest
/-!
# Doubles as tokens

However the digits of a double are laid out, what is written is a number as JSON spells it, and it
stands for the same double.
-/

namespace DocBrowser.Json

open Double (layout exponentText)
open Text (ofDigitValues ofDigitValues_append ofDigitValues_replicate_zero ofDigitValues_toDigits
  isDigit_of_mem_toDigits fractionSigns)

/-- The value of digits as a rational. -/
def digitsValue (digits : List Char) : ℚ := ofDigitValues 10 (digitValues digits)

/-- A number that is written as some signs and has the given value. -/
structure Writes (negative : Bool) (signs : List Char) (value : ℚ) (n : Numeral) : Prop where
  spelled : n.Spelled
  negative_eq : n.negative = negative
  signs_eq : n.signs = (if negative then ['-'] else []) ++ signs
  isDouble : n.fraction ≠ [] ∨ n.exponent ≠ none
  value_eq : digitsValue (n.whole ++ n.fraction) * 10 ^ (n.scale - n.fraction.length) = value

/-- A number that is written reads as the double that its value is nearest to. -/
theorem Writes.token {negative : Bool} {signs : List Char} {value : ℚ} {n : Numeral} {c : ℕ} {s : ℤ}
    {place : Fin Double.places} (h : Writes negative signs value n) (hvalue : value = c * 10 ^ s)
    (hback : Double.ofDecimal false c s = .finite false place) :
    n.token = .literal (.float (.finite negative place)) := by
  rw [token_of_ne h.isDouble, h.negative_eq]
  congr 2
  refine Double.ofDecimal_negative negative ?_
  rw [← hback]
  refine Double.ofDecimal_congr false ?_
  rw [← hvalue, ← h.value_eq]
  rfl

/-! ## The parts of a layout -/

theorem digitsValue_append (xs ys : List Char) :
    digitsValue (xs ++ ys) = digitsValue xs * 10 ^ ys.length + digitsValue ys := by
  simp only [digitsValue, digitValues, List.map_append, ofDigitValues_append, List.length_map]
  push_cast
  rfl

theorem digitsValue_zeros (n : ℕ) : digitsValue (List.replicate n '0') = 0 := by
  have hzero : '0'.toNat - 48 = 0 := by decide
  simp only [digitsValue, digitValues, List.map_replicate, hzero, ofDigitValues_replicate_zero, Nat.cast_zero]

theorem digitsValue_zero_cons (ds : List Char) : digitsValue ('0' :: ds) = digitsValue ds := by
  have h := digitsValue_append ['0'] ds
  have hzero : digitsValue ['0'] = 0 := digitsValue_zeros 1
  rwa [hzero, zero_mul, zero_add] at h

/-- The digits of an exponent, at least two. -/
def exponentDigits (e : ℤ) : List Char :=
  if (Nat.toDigits 10 e.natAbs).length < 2 then '0' :: Nat.toDigits 10 e.natAbs else Nat.toDigits 10 e.natAbs

theorem exponentText_eq (e : ℤ) :
    exponentText e = Numeral.exponentSigns (some (decide (e < 0), exponentDigits e)) := by
  simp [exponentText, Numeral.exponentSigns, exponentDigits]

theorem exponentDigits_spelled (e : ℤ) :
    exponentDigits e ≠ [] ∧ ∀ c ∈ exponentDigits e, c.isDigit = true := by
  unfold exponentDigits
  split_ifs
  · refine ⟨by simp, fun c hc => ?_⟩
    rcases List.mem_cons.1 hc with rfl | hc
    · decide
    · exact isDigit_of_mem_toDigits hc
  · exact ⟨Nat.toDigits_ne_nil, fun c hc => isDigit_of_mem_toDigits hc⟩

theorem scale_exponentDigits (e : ℤ) :
    Text.signed (decide (e < 0)) (ofDigitValues 10 (digitValues (exponentDigits e))) = e := by
  have hvalue : ofDigitValues 10 (digitValues (exponentDigits e)) = e.natAbs := by
    have htoDigits := ofDigitValues_toDigits e.natAbs
    unfold exponentDigits
    split_ifs
    · have h := digitsValue_zero_cons (Nat.toDigits 10 e.natAbs)
      simp only [digitsValue, digitValues, htoDigits] at h
      exact_mod_cast h
    · exact htoDigits
  rw [hvalue, Text.signed_natAbs]

/-! ## The four layouts -/

variable {negative : Bool} {d : Char} {ds : List Char} {top : ℤ}

/-- Digits with an exponent. -/
theorem writes_exponent (hdigits : ∀ c ∈ d :: ds, c.isDigit = true) :
    ∃ n, Writes negative (d :: (fractionSigns ds ++ exponentText top))
      (digitsValue (d :: ds) * 10 ^ (top - ds.length)) n := by
  let signs := (if negative then ['-'] else []) ++ d :: (fractionSigns ds ++ exponentText top)
  let n : Numeral := ⟨negative, [d], ds, some (decide (top < 0), exponentDigits top), signs.length⟩
  have hsigns : n.signs = signs := by simp [n, signs, Numeral.signs, exponentText_eq]
  have hspelled : n.Spelled :=
    { whole_ne := by simp [n]
      whole_digits := by simpa [n] using hdigits d (by simp)
      whole_zero := by simp [n]
      fraction_digits := fun c hc => hdigits c (List.mem_cons_of_mem _ hc)
      exponent_digits := by simpa [n] using exponentDigits_spelled top
      length_eq := by rw [hsigns] }
  refine ⟨n, hspelled, rfl, hsigns, .inr (by simp [n]), ?_⟩
  simp only [n, Numeral.scale, scale_exponentDigits, List.singleton_append]

/-- Digits behind a point and zeros. -/
theorem writes_small (hdigits : ∀ c ∈ d :: ds, c.isDigit = true) (htop : top < 0) :
    ∃ n, Writes negative ('0' :: '.' :: List.replicate (-top - 1).toNat '0' ++ d :: ds)
      (digitsValue (d :: ds) * 10 ^ (top - ds.length)) n := by
  let fraction := List.replicate (-top - 1).toNat '0' ++ d :: ds
  let signs := (if negative then ['-'] else []) ++ '0' :: '.' :: fraction
  let n : Numeral := ⟨negative, ['0'], fraction, none, signs.length⟩
  have hsigns : n.signs = signs := by
    simp [n, signs, Numeral.signs, fractionSigns, Numeral.exponentSigns, fraction]
  have hspelled : n.Spelled :=
    { whole_ne := by simp [n]
      whole_digits := by simp [n]
      whole_zero := by simp [n]
      fraction_digits := by
        intro c hc
        rcases List.mem_append.1 hc with hc | hc
        · rw [List.eq_of_mem_replicate hc]
          decide
        · exact hdigits c hc
      exponent_digits := by simp [n]
      length_eq := by rw [hsigns] }
  refine ⟨n, hspelled, rfl, by simp [hsigns, signs, fraction], .inl (by simp [n, fraction]), ?_⟩
  -- zeros in front do not change the value, but they count for the scale
  have hvalue : digitsValue (n.whole ++ n.fraction) = digitsValue (d :: ds) := by
    simp only [n, List.singleton_append, digitsValue_zero_cons, fraction, digitsValue_append,
      digitsValue_zeros, zero_mul, zero_add]
  have hscale : n.scale - n.fraction.length = top - ds.length := by
    simp only [n, Numeral.scale, fraction, List.length_append, List.length_replicate, List.length_cons]
    omega
  rw [hvalue, hscale]

/-- Digits, zeros that fill up to the point, and one zero behind it. -/
theorem writes_whole (hdigits : ∀ c ∈ d :: ds, c.isDigit = true) (hd : d ≠ '0') {zeros : ℕ}
    (htop : top = ds.length + zeros) :
    ∃ n, Writes negative (d :: ds ++ List.replicate zeros '0' ++ ['.', '0'])
      (digitsValue (d :: ds) * 10 ^ (top - ds.length)) n := by
  let whole := d :: ds ++ List.replicate zeros '0'
  let signs := (if negative then ['-'] else []) ++ (whole ++ ['.', '0'])
  let n : Numeral := ⟨negative, whole, ['0'], none, signs.length⟩
  have hsigns : n.signs = signs := by
    simp [n, signs, Numeral.signs, fractionSigns, Numeral.exponentSigns]
  have hspelled : n.Spelled :=
    { whole_ne := by simp [n, whole]
      whole_digits := by
        intro c hc
        rcases List.mem_append.1 hc with hc | hc
        · exact hdigits c hc
        · rw [List.eq_of_mem_replicate hc]
          decide
      whole_zero := by simp [n, whole, hd]
      fraction_digits := by simp [n]
      exponent_digits := by simp [n]
      length_eq := by rw [hsigns] }
  refine ⟨n, hspelled, rfl, hsigns, .inl (by simp [n]), ?_⟩
  -- each zero that is written is a power of ten more, the one behind the point too
  have hvalue : digitsValue (n.whole ++ n.fraction) = digitsValue (d :: ds) * 10 ^ (zeros + 1) := by
    have hzero : digitsValue ['0'] = 0 := digitsValue_zeros 1
    simp only [n, whole, digitsValue_append, digitsValue_zeros, hzero, add_zero, List.length_replicate,
      List.length_singleton, pow_succ]
    ring
  rw [hvalue, ← zpow_natCast, mul_assoc, ← zpow_add₀ (by norm_num)]
  congr 2
  simp only [n, Numeral.scale, List.length_singleton, htop]
  push_cast
  ring

/-- Digits with a point between them. -/
theorem writes_split (hdigits : ∀ c ∈ d :: ds, c.isDigit = true) (hd : d ≠ '0') {k : ℕ} (hk : k < ds.length)
    (htop : top = k) :
    ∃ n, Writes negative ((d :: ds).take (k + 1) ++ '.' :: (d :: ds).drop (k + 1))
      (digitsValue (d :: ds) * 10 ^ (top - ds.length)) n := by
  let whole := (d :: ds).take (k + 1)
  let fraction := (d :: ds).drop (k + 1)
  have hfraction : fraction ≠ [] := by simp [fraction, hk]
  let signs := (if negative then ['-'] else []) ++ (whole ++ '.' :: fraction)
  let n : Numeral := ⟨negative, whole, fraction, none, signs.length⟩
  have hsigns : n.signs = signs := by
    simp [n, signs, Numeral.signs, fractionSigns, Numeral.exponentSigns, hfraction]
  -- the point falls inside the digits, so neither part is empty and the first digit is no zero
  have hspelled : n.Spelled :=
    { whole_ne := by simp [n, whole]
      whole_digits := fun c hc => hdigits c (List.mem_of_mem_take hc)
      whole_zero := by simp [n, whole, hd]
      fraction_digits := fun c hc => hdigits c (List.mem_of_mem_drop hc)
      exponent_digits := by simp [n]
      length_eq := by rw [hsigns] }
  refine ⟨n, hspelled, rfl, hsigns, .inl hfraction, ?_⟩
  have hvalue : n.whole ++ n.fraction = d :: ds := List.take_append_drop _ _
  have hscale : n.scale - n.fraction.length = top - ds.length := by
    simp only [n, Numeral.scale, fraction, htop, List.drop_succ_cons, List.length_drop]
    omega
  rw [hvalue, hscale]

/-- However digits are laid out, they are written as a number of the same value. -/
theorem writes_layout (negative : Bool) (top : ℤ) (hdigits : ∀ c ∈ d :: ds, c.isDigit = true) (hd : d ≠ '0') :
    ∃ n, Writes negative (layout (d :: ds) top) (digitsValue (d :: ds) * 10 ^ (top - ds.length)) n := by
  simp only [layout]
  split_ifs with hexp hneg hfits
  · cases ds <;> exact writes_exponent hdigits
  · exact writes_small hdigits hneg
  · simp only [List.length_cons] at hfits
    exact writes_whole hdigits hd (by simp only [List.length_cons]; omega)
  · simp only [List.length_cons] at hfits
    exact writes_split hdigits hd (by omega) (by omega)

/-! ## Doubles -/

/-- A finite double is written as a number that stands for it. -/
theorem numeral_of_finite (negative : Bool) (place : Fin Double.places) :
    ∃ n : Numeral, n.Spelled ∧ n.signs = (Double.finite negative place).text ∧
      n.token = .literal (.float (.finite negative place)) := by
  by_cases hp : 0 < place.val
  · obtain ⟨d, ds, hkept, hd⟩ := Double.dropZeros_toDigits (Double.shortest_pos hp)
    set digits := Nat.toDigits 10 (Double.shortest place).1 with hdigits
    have hsplit := Double.dropZeros_append digits
    have hall : ∀ c ∈ d :: ds, c.isDigit = true := by
      intro c hc
      rw [← hkept] at hc
      refine isDigit_of_mem_toDigits (n := (Double.shortest place).1) ?_
      rw [← hdigits, hsplit]
      exact List.mem_append_left _ hc
    obtain ⟨n, hn⟩ := writes_layout negative ((Double.shortest place).2 + digits.length - 1) hall hd
    refine ⟨n, hn.spelled, ?_, hn.token ?_ (Double.ofDecimal_shortest hp)⟩
    · rw [hn.signs_eq]
      simp only [Double.text, Double.finiteText, Double.magnitudeText, if_neg hp.ne', ← hdigits, hkept]
      cases negative <;> rfl
    · -- the zeros that were dropped are the power of ten between the digits and the coefficient
      have hcoefficient := Double.keptValue_toDigits (Double.shortest place).1
      rw [← hdigits, Double.keptValue, hkept] at hcoefficient
      have hlen := congrArg List.length hsplit
      simp only [hkept, List.length_append, List.length_cons, List.length_replicate] at hlen
      have hscale : (Double.shortest place).2 + digits.length - 1 - ds.length =
          (Double.dropZeros digits).2 + (Double.shortest place).2 := by
        omega
      rw [hscale, zpow_add₀ (by norm_num), ← mul_assoc, zpow_natCast]
      congr 1
      conv_rhs => rw [hcoefficient]
      push_cast
      rfl
  · -- zero has a text of its own
    have hzero : place = 0 := Fin.ext (Nat.eq_zero_of_not_pos hp)
    subst hzero
    refine ⟨⟨negative, ['0'], ['0'], none, if negative then 4 else 3⟩, ?_, ?_, ?_⟩
    · exact ⟨by simp, by simp, by simp, by simp, by simp, by cases negative <;> rfl⟩
    · cases negative <;> rfl
    · rfl

end DocBrowser.Json
