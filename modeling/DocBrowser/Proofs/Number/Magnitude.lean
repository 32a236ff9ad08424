import Mathlib
import DocBrowser.Proofs.Number.Rounding
import DocBrowser.Store.Order
/-!
# Magnitudes and units

A number is compared for equality by its digits without zeros at the end, and is ordered by its count of the
smallest positive double. Both stand for one rational number, so that numbers of which both are known are
equal in one way exactly if they are in the other.
-/

namespace DocBrowser

namespace Decimal

/-! ## The number behind digits -/

/-- The number that digits with a sign and an exponent of ten stand for. -/
def amount (negative : Bool) (coefficient : ℕ) (exponent : ℤ) : ℚ :=
  (if negative then -1 else 1) * (coefficient * 10 ^ exponent)

theorem dropZeros_value (coefficient : ℕ) (exponent : ℤ) :
    ((dropZeros coefficient exponent).1 : ℚ) * 10 ^ (dropZeros coefficient exponent).2 = coefficient * 10 ^ exponent := by
  induction coefficient using Nat.strong_induction_on generalizing exponent with
  | _ coefficient ih =>
    rw [dropZeros]
    split_ifs with h
    · rw [ih _ (by omega), zpow_add_one₀ (by norm_num)]
      have hten : ((coefficient / 10 : ℕ) : ℚ) * 10 = coefficient := by
        exact_mod_cast Nat.div_mul_cancel (Nat.dvd_of_mod_eq_zero h.2)
      rw [← hten]
      ring
    · rfl

/-- No zero is left at the end. -/
theorem not_dvd_dropZeros {coefficient : ℕ} (h : coefficient ≠ 0) (exponent : ℤ) :
    ¬10 ∣ (dropZeros coefficient exponent).1 := by
  induction coefficient using Nat.strong_induction_on generalizing exponent with
  | _ coefficient ih =>
    rw [dropZeros]
    split_ifs with hzero
    · exact ih _ (by omega) (by omega) _
    · intro hdvd
      exact hzero ⟨h, Nat.mod_eq_zero_of_dvd hdvd⟩

/-- Digits without a zero at the end determine the exponent, and with it one another. -/
theorem eq_of_mul_pow_eq {c d : ℕ} {s t : ℤ} (hc : ¬10 ∣ c) (hd : ¬10 ∣ d) (h : (c : ℚ) * 10 ^ s = d * 10 ^ t) :
    c = d ∧ s = t := by
  have hle {c d : ℕ} {s t : ℤ} (hc : ¬10 ∣ c) (h : (c : ℚ) * 10 ^ s = d * 10 ^ t) : t ≤ s := by
    by_contra hlt
    -- a greater exponent on the other side leaves a factor of ten on this one
    obtain ⟨n, hn⟩ := Int.eq_ofNat_of_zero_le (show 0 ≤ t - s - 1 by omega)
    have hpow : (10 : ℚ) ^ t = 10 ^ n * 10 * 10 ^ s := by
      rw [show t = n + 1 + s by omega, zpow_add₀ (by norm_num), zpow_add_one₀ (by norm_num), zpow_natCast]
    rw [hpow, ← mul_assoc, mul_left_inj' (by positivity)] at h
    refine hc ⟨d * 10 ^ n, ?_⟩
    have hnat : c = d * (10 ^ n * 10) := by exact_mod_cast h
    rw [hnat]
    ring
  have hexponent : s = t := le_antisymm (hle hd h.symm) (hle hc h)
  subst hexponent
  rw [mul_left_inj' (by positivity)] at h
  exact ⟨by exact_mod_cast h, rfl⟩

theorem amount_eq_zero_iff {negative : Bool} {coefficient : ℕ} {exponent : ℤ} :
    amount negative coefficient exponent = 0 ↔ coefficient = 0 := by
  have hpow : (10 : ℚ) ^ exponent ≠ 0 := by positivity
  rw [amount]
  cases negative <;> simp [hpow]

/-- Digits of one number have one sign and one absolute value, unless the number is zero. -/
theorem amount_eq_iff {n n' : Bool} {c c' : ℕ} {e e' : ℤ} (hc : c ≠ 0) (hc' : c' ≠ 0) :
    amount n c e = amount n' c' e' ↔ n = n' ∧ (c : ℚ) * 10 ^ e = c' * 10 ^ e' := by
  have hpos : 0 < (c : ℚ) * 10 ^ e := by positivity
  have hpos' : 0 < (c' : ℚ) * 10 ^ e' := by positivity
  rw [amount, amount]
  cases n <;> cases n' <;> simp only [Bool.false_eq_true, if_true, if_false, one_mul, neg_one_mul, neg_inj,
    true_and, false_and, iff_false, reduceCtorEq]
  · intro h
    linarith
  · intro h
    linarith

namespace Magnitude

/-- The number that a magnitude is; an infinity counts as none. -/
def value : Magnitude → ℚ
  | .finite negative coefficient exponent => amount negative coefficient exponent
  | .infinite _ => 0

theorem normal_of_ne_zero {coefficient : ℕ} (h : coefficient ≠ 0) (negative : Bool) (exponent : ℤ) :
    normal negative coefficient exponent =
      .finite negative (dropZeros coefficient exponent).1 (dropZeros coefficient exponent).2 := by
  rw [normal, if_neg h]

theorem normal_ne_infinite (negative : Bool) (coefficient : ℕ) (exponent : ℤ) (sign : Bool) :
    normal negative coefficient exponent ≠ .infinite sign := by
  rw [normal]
  split_ifs <;> simp

theorem value_normal (negative : Bool) (coefficient : ℕ) (exponent : ℤ) :
    (normal negative coefficient exponent).value = amount negative coefficient exponent := by
  by_cases h : coefficient = 0
  · rw [normal, if_pos h, value, amount_eq_zero_iff.2 rfl, amount_eq_zero_iff.2 h]
  · rw [normal_of_ne_zero h, value, amount, amount, dropZeros_value]

/-- Numbers have one magnitude exactly if they are one number. -/
theorem normal_eq_iff {n n' : Bool} {c c' : ℕ} {e e' : ℤ} :
    normal n c e = normal n' c' e' ↔ amount n c e = amount n' c' e' := by
  constructor
  · intro h
    rw [← value_normal, h, value_normal]
  · intro h
    by_cases hc : c = 0
    · have hc' : c' = 0 := amount_eq_zero_iff.1 (h.symm.trans (amount_eq_zero_iff.2 hc))
      rw [normal, normal, if_pos hc, if_pos hc']
    · have hc' : c' ≠ 0 := by
        rintro rfl
        exact hc (amount_eq_zero_iff.1 (h.trans (amount_eq_zero_iff.2 rfl)))
      obtain ⟨hsign, hsize⟩ := (amount_eq_iff hc hc').1 h
      -- the digits that are left on both sides have no zero at the end
      rw [← dropZeros_value c e, ← dropZeros_value c' e'] at hsize
      obtain ⟨hdigits, hexponent⟩ := eq_of_mul_pow_eq (not_dvd_dropZeros hc e) (not_dvd_dropZeros hc' e') hsize
      rw [normal_of_ne_zero hc, normal_of_ne_zero hc', hsign, hdigits, hexponent]

end Magnitude

end Decimal

namespace Double

/-! ## Units -/

theorem exactDecimal_value (place : ℕ) :
    ((exactDecimal place).1 : ℚ) * 10 ^ (exactDecimal place).2 = mantissa place * 2 ^ exponent place := by
  simp only [exactDecimal]
  split_ifs with hq
  · rw [zpow_zero, mul_one, Nat.cast_mul, cast_pow_two, ← zpow_natCast, Int.toNat_of_nonneg hq]
  · obtain ⟨n, hn⟩ := Int.eq_ofNat_of_zero_le (show 0 ≤ -exponent place by omega)
    have hten : (10 : ℚ) ^ n = 5 ^ n * 2 ^ n := by rw [← mul_pow]; norm_num
    have hfive : ((Nat.pow 5 n : ℕ) : ℚ) = 5 ^ n := Nat.cast_pow 5 n
    rw [show exponent place = -(n : ℤ) by omega, neg_neg, Int.toNat_natCast, Nat.cast_mul, hfive, zpow_neg, zpow_neg,
      zpow_natCast, zpow_natCast, hten]
    field_simp

theorem neg_le_exponent (place : ℕ) : -1074 ≤ exponent place := by
  unfold exponent
  split_ifs
  · rfl
  · have hquot : 1 ≤ place / binade := (Nat.one_le_div_iff (by norm_num)).2 (by omega)
    omega

theorem units_value (negative : Bool) (place : ℕ) :
    (units negative place : ℚ) =
      Decimal.amount negative (exactDecimal place).1 (exactDecimal place).2 * 2 ^ 1074 := by
  obtain ⟨n, hn⟩ := Int.eq_ofNat_of_zero_le (show 0 ≤ exponent place + 1074 by linarith [neg_le_exponent place])
  have hpow : (2 : ℚ) ^ exponent place * 2 ^ 1074 = 2 ^ n := by
    rw [← zpow_natCast (2 : ℚ) 1074, ← zpow_add₀ two_ne_zero, ← zpow_natCast (2 : ℚ) n]
    exact congrArg _ hn
  rw [Decimal.amount, exactDecimal_value, units, hn, Int.toNat_natCast, mul_assoc, mul_assoc, hpow, ← cast_pow_two]
  cases negative <;> simp

end Double

/-- Whether a count of the smallest positive double is a magnitude. -/
inductive Units.Counts : Units → Decimal.Magnitude → Prop where
  | infinite (negative : Bool) : Counts (.infinite negative) (.infinite negative)
  | finite {count : ℤ} {negative : Bool} {coefficient : ℕ} {exponent : ℤ}
    (h : (count : ℚ) = Decimal.amount negative coefficient exponent * 2 ^ 1074) :
    Counts (.finite count) (.normal negative coefficient exponent)

namespace Units

/-- Counts are equal exactly if magnitudes are. -/
theorem Counts.eq_iff {u u' : Units} {m m' : Decimal.Magnitude} (h : Counts u m) (h' : Counts u' m') :
    u = u' ↔ m = m' := by
  have hpow : (2 : ℚ) ^ 1074 ≠ 0 := by positivity
  cases h with
  | infinite negative =>
    cases h' with
    | infinite negative' => simp
    | finite => exact iff_of_false (by simp) fun h => Decimal.Magnitude.normal_ne_infinite _ _ _ _ h.symm
  | finite hcount =>
    cases h' with
    | infinite negative' => exact iff_of_false (by simp) (Decimal.Magnitude.normal_ne_infinite _ _ _ _)
    | finite hcount' =>
      rw [Decimal.Magnitude.normal_eq_iff, Units.finite.injEq, ← Int.cast_inj (α := ℚ), hcount, hcount',
        mul_left_inj' hpow]

theorem Counts.ne_nan {u : Units} {m : Decimal.Magnitude} (h : Counts u m) : u ≠ .nan := by
  cases h <;> simp

theorem counts_ofInt (n : ℤ) : Counts (.ofInt n) (.normal (n < 0) n.natAbs 0) := by
  refine .finite ?_
  have hamount : Decimal.amount (n < 0) n.natAbs 0 = n := by
    rw [Decimal.amount, zpow_zero, mul_one]
    by_cases hn : n < 0
    · have habs : (n.natAbs : ℚ) = -n := by rw [Nat.cast_natAbs, abs_of_neg hn, Int.cast_neg]
      simp [hn, habs]
    · have habs : (n.natAbs : ℚ) = n := by rw [Nat.cast_natAbs, abs_of_nonneg (not_lt.1 hn)]
      simp [hn, habs]
  simp only [hamount, Int.cast_mul, Int.cast_natCast, Double.cast_pow_two]

theorem counts_ofDouble {d : Double} (h : d ≠ .nan) : ∃ m, d.magnitude? = some m ∧ Counts (.ofDouble d) m := by
  cases d with
  | nan => exact absurd rfl h
  | infinite negative => exact ⟨_, rfl, .infinite negative⟩
  | finite negative place => exact ⟨_, rfl, .finite (Double.units_value negative place)⟩

end Units

end DocBrowser
