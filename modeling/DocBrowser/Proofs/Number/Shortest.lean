import Mathlib
import DocBrowser.Number.Shortest
import DocBrowser.Proofs.Number.Rounding
import DocBrowser.Proofs.Text.Digits
/-!
# Shortest digits read back

Whichever digits are found for a magnitude, they read back as the same double, and the zeros that
are dropped at their end are made up for by the exponent.
-/

namespace DocBrowser.Double

open Text (ofDigitValues ofDigitValues_append ofDigitValues_replicate_zero ofDigitValues_toDigits)

/-! ## The sign of a decimal -/

theorem ofPlace_finite {negative sign : Bool} {n : ℕ} {place : Fin places}
    (h : ofPlace negative n = .finite sign place) : sign = negative := by
  unfold ofPlace at h
  split_ifs at h
  cases h
  rfl

theorem ofRatio_finite {negative sign : Bool} {num den : ℕ} {place : Fin places}
    (h : ofRatio negative num den = .finite sign place) : sign = negative := by
  unfold ofRatio at h
  split_ifs at h
  · cases h
    rfl
  · exact ofPlace_finite h

/-- A decimal reads as a double of its own sign. -/
theorem ofDecimal_finite {negative sign : Bool} {c : ℕ} {s : ℤ} {place : Fin places}
    (h : ofDecimal negative c s = .finite sign place) : sign = negative := by
  rw [ofDecimal_eq_ofRatio] at h
  exact ofRatio_finite h

/-- A decimal is a number. -/
theorem ofDecimal_ne_nan (negative : Bool) (coefficient : ℕ) (scale : ℤ) :
    ofDecimal negative coefficient scale ≠ .nan := by
  have hratio (num den : ℕ) : ofRatio negative num den ≠ .nan := by
    unfold ofRatio ofPlace
    split_ifs <;> simp
  rw [ofDecimal_eq_ofRatio]
  exact hratio _ _

/-! ## The digits found -/

theorem ofDecimal_of_readsBack {place : Fin places} {c : ℕ} {s : ℤ} (h : readsBack place c s = true) :
    ofDecimal false c s = .finite false place := by
  unfold readsBack at h
  split at h
  · rename_i sign p heq
    have hp : p = place := Fin.ext (of_decide_eq_true h)
    rw [heq, hp, ofDecimal_finite heq]
  · exact absurd h Bool.false_ne_true

theorem readsBack_of_onGrid {place : ℕ} {scale : ℤ} {found : ℕ × ℤ} (h : onGrid place scale = some found) :
    readsBack place found.1 found.2 = true := by
  have hfirst (a b : ℕ) (h : (if readsBack place a scale then some (a, scale)
      else if readsBack place b scale then some (b, scale) else none) = some found) :
      readsBack place found.1 found.2 = true := by
    split_ifs at h with ha hb
    · cases h
      exact ha
    · cases h
      exact hb
  exact hfirst _ _ h

/-- The digits found read back; where no grid has any, the exact digits do. -/
theorem ofDecimal_shortest {place : Fin places} (hp : 0 < place.val) :
    ofDecimal false (shortest place).1 (shortest place).2 = .finite false place := by
  set grids : ℕ → Option (ℕ × ℤ) := fun n => onGrid place (floorLog10 (ratio place).1 (ratio place).2 - n)
  have hshortest : shortest place = ((List.range 17).findSome? grids).getD (exactDecimal place) := by
    simp only [shortest, if_neg hp.ne', grids]
  rw [hshortest]
  cases hfound : (List.range 17).findSome? grids with
  | none => exact ofDecimal_exactDecimal place hp
  | some found =>
    obtain ⟨n, -, hn⟩ := List.exists_of_findSome?_eq_some hfound
    exact ofDecimal_of_readsBack (readsBack_of_onGrid hn)

theorem shortest_pos {place : Fin places} (hp : 0 < place.val) : 0 < (shortest place).1 := by
  rcases Nat.eq_zero_or_pos (shortest place).1 with h | h
  · have hback := ofDecimal_shortest hp
    rw [h, ofDecimal, if_pos rfl] at hback
    cases hback
    exact absurd hp (lt_irrefl 0)
  · exact h

/-! ## Zeros at the end -/

/-- What is dropped from digits are zeros. -/
theorem dropZeros_append (digits : List Char) :
    digits = (dropZeros digits).1 ++ List.replicate (dropZeros digits).2 '0' := by
  -- the zeros at the end are a run at the start of the reversed digits
  set zeros := digits.reverse.takeWhile (· == '0') with hz
  have hsplit : digits.reverse = zeros ++ digits.reverse.dropWhile (· == '0') :=
    List.takeWhile_append_dropWhile.symm
  have hzeros : zeros = List.replicate zeros.length '0' := by
    refine List.eq_replicate_of_mem fun c hc => ?_
    simpa using List.mem_takeWhile_imp hc
  have hback : digits = (dropZeros digits).1 ++ zeros.reverse := by
    have := congrArg List.reverse hsplit
    rwa [List.reverse_reverse, List.reverse_append] at this
  have hlen : (dropZeros digits).2 = zeros.length := by
    have := congrArg List.length hback
    simp only [List.length_append, List.length_reverse] at this
    simp only [dropZeros] at this ⊢
    omega
  rw [hlen]
  conv_lhs => rw [hback, hzeros, List.reverse_replicate]

/-- The digits of a positive number keep the first one, which is no zero. -/
theorem dropZeros_toDigits {n : ℕ} (hn : 0 < n) :
    ∃ d ds, (dropZeros (Nat.toDigits 10 n)).1 = d :: ds ∧ d ≠ '0' := by
  obtain ⟨d, ds, hcons, hd⟩ := Text.head?_toDigits hn
  have hsplit := dropZeros_append (Nat.toDigits 10 n)
  cases hkept : (dropZeros (Nat.toDigits 10 n)).1 with
  | cons d' ds' =>
    rw [hkept, hcons] at hsplit
    exact ⟨d', ds', rfl, by rw [← (List.cons.inj hsplit).1]; exact hd⟩
  | nil =>
    -- otherwise all digits were zeros, the first one too
    rw [hkept, hcons, List.nil_append] at hsplit
    have hmem : d ∈ List.replicate (dropZeros (d :: ds)).2 '0' := hsplit ▸ List.mem_cons_self
    exact absurd (List.eq_of_mem_replicate hmem) hd

/-- The value of digits that are kept. -/
def keptValue (digits : List Char) : ℕ := ofDigitValues 10 ((dropZeros digits).1.map fun c => c.toNat - 48)

theorem keptValue_toDigits (n : ℕ) :
    n = keptValue (Nat.toDigits 10 n) * 10 ^ (dropZeros (Nat.toDigits 10 n)).2 := by
  have h := congrArg (fun cs => ofDigitValues 10 (cs.map fun c => c.toNat - 48))
    (dropZeros_append (Nat.toDigits 10 n))
  simp only [ofDigitValues_toDigits, List.map_append, List.map_replicate, ofDigitValues_append,
    List.length_replicate] at h
  have hzero : '0'.toNat - 48 = 0 := by decide
  rw [hzero, ofDigitValues_replicate_zero, add_zero] at h
  exact h

end DocBrowser.Double
