import Mathlib
import DocBrowser.Number.Shortest
/-!
# Rounding to the nearest double

Rounding looks only at the number that a ratio or a decimal stands for, not at how it is written,
and it leaves a number that is a double where it is. Both follow from one description of
`floorLog2`: the power of two below a ratio and the next one enclose it.
-/

namespace DocBrowser.Double

/-! ## The power of two below a ratio -/

theorem pow_pos_two (n : ℕ) : 0 < Nat.pow 2 n := Nat.two_pow_pos n

theorem cast_pow_two (n : ℕ) : ((Nat.pow 2 n : ℕ) : ℚ) = 2 ^ n := Nat.cast_pow 2 n

/-- Scaling by a power of two, on either side of a fraction. -/
theorem zpow_le_ratio_iff (num : ℕ) {den : ℕ} (hd : 0 < den) (k : ℤ) :
    (2 : ℚ) ^ k ≤ num / den ↔
      if 0 ≤ k then den * Nat.pow 2 k.toNat ≤ num else den ≤ num * Nat.pow 2 (-k).toNat := by
  have hd' : (0 : ℚ) < den := by exact_mod_cast hd
  rw [le_div_iff₀ hd']
  split_ifs with hk
  · obtain ⟨n, rfl⟩ := Int.eq_ofNat_of_zero_le hk
    rw [Int.toNat_natCast, zpow_natCast, ← cast_pow_two, ← Nat.cast_mul, Nat.cast_le, Nat.mul_comm]
  · -- a negative power is a power on the other side
    obtain ⟨n, hn⟩ := Int.eq_ofNat_of_zero_le (show 0 ≤ -k by omega)
    have hpow : (0 : ℚ) < Nat.pow 2 n := by exact_mod_cast pow_pos_two n
    rw [show k = -(n : ℤ) by omega, neg_neg, Int.toNat_natCast, zpow_neg, zpow_natCast, ← cast_pow_two,
      inv_mul_le_iff₀ hpow, ← Nat.cast_mul, Nat.cast_le, Nat.mul_comm]

/-- The power of two below a ratio and the next one enclose it. -/
theorem floorLog2_bounds {num den : ℕ} (hn : 0 < num) (hd : 0 < den) :
    (2 : ℚ) ^ floorLog2 num den ≤ num / den ∧ (num : ℚ) / den < 2 ^ (floorLog2 num den + 1) := by
  -- the lengths of numerator and denominator give the power up to one, and one comparison decides
  set a := Nat.log2 num with ha
  set b := Nat.log2 den with hb
  have hd' : (0 : ℚ) < den := by exact_mod_cast hd
  have hnum : (2 : ℚ) ^ a ≤ num ∧ (num : ℚ) < 2 ^ (a + 1) := by
    exact_mod_cast And.intro (Nat.log2_self_le hn.ne') Nat.lt_log2_self
  have hden : (2 : ℚ) ^ b ≤ den ∧ (den : ℚ) < 2 ^ (b + 1) := by
    exact_mod_cast And.intro (Nat.log2_self_le hd.ne') Nat.lt_log2_self
  have hupper : (num : ℚ) / den < 2 ^ ((a : ℤ) - b + 1) := by
    rw [show (a : ℤ) - b + 1 = ((a + 1 : ℕ) : ℤ) - (b : ℕ) by push_cast; ring,
      zpow_sub₀ (by norm_num), zpow_natCast, zpow_natCast]
    exact div_lt_div₀ hnum.2 hden.1 (by positivity) (by positivity)
  have hlower : (2 : ℚ) ^ ((a : ℤ) - b - 1) ≤ num / den := by
    rw [show (a : ℤ) - b - 1 = (a : ℕ) - ((b + 1 : ℕ) : ℤ) by push_cast; ring,
      zpow_sub₀ (by norm_num), zpow_natCast, zpow_natCast]
    exact div_le_div₀ (by positivity) hnum.1 hd' hden.2.le
  have hfits := zpow_le_ratio_iff num hd ((a : ℤ) - b)
  simp only [floorLog2, ← ha, ← hb]
  by_cases h : (2 : ℚ) ^ ((a : ℤ) - b) ≤ num / den
  · rw [if_pos (hfits.1 h)]
    exact ⟨h, hupper⟩
  · rw [if_neg (mt hfits.2 h), sub_add_cancel]
    exact ⟨hlower, not_le.1 h⟩

/-- Only one power of two and the next one enclose a ratio. -/
theorem floorLog2_eq {num den : ℕ} (hn : 0 < num) (hd : 0 < den) {k : ℤ}
    (hlow : (2 : ℚ) ^ k ≤ num / den) (hhigh : (num : ℚ) / den < 2 ^ (k + 1)) : floorLog2 num den = k := by
  obtain ⟨hlow', hhigh'⟩ := floorLog2_bounds hn hd
  have h1 : floorLog2 num den < k + 1 := (zpow_lt_zpow_iff_right₀ one_lt_two).1 (hlow'.trans_lt hhigh)
  have h2 : k < floorLog2 num den + 1 := (zpow_lt_zpow_iff_right₀ one_lt_two).1 (hlow.trans_lt hhigh')
  omega

theorem floorLog2_congr {a b c d : ℕ} (ha : 0 < a) (hb : 0 < b) (hd : 0 < d) (h : a * d = c * b) :
    floorLog2 a b = floorLog2 c d := by
  have hc : 0 < c := Nat.pos_of_mul_pos_right (b := b) (h ▸ Nat.mul_pos ha hd)
  have hb' : (b : ℚ) ≠ 0 := by exact_mod_cast hb.ne'
  have hd' : (d : ℚ) ≠ 0 := by exact_mod_cast hd.ne'
  have hratio : (a : ℚ) / b = c / d := by
    rw [div_eq_div_iff hb' hd']
    exact_mod_cast h
  obtain ⟨hlow, hhigh⟩ := floorLog2_bounds hc hd
  exact floorLog2_eq ha hb (hratio ▸ hlow) (hratio ▸ hhigh)

/-! ## The nearest natural -/

theorem roundRatio_mul_right (a b : ℕ) {k : ℕ} (hk : 0 < k) : roundRatio (a * k) (b * k) = roundRatio a b := by
  have hr : a * k % (b * k) = a % b * k := Nat.mul_mod_mul_right _ _ _
  have h1 : 2 * (a % b * k) < b * k ↔ 2 * (a % b) < b := by
    rw [← Nat.mul_assoc]
    exact Nat.mul_lt_mul_right hk
  have h2 : b * k < 2 * (a % b * k) ↔ b < 2 * (a % b) := by
    rw [← Nat.mul_assoc]
    exact Nat.mul_lt_mul_right hk
  simp only [roundRatio, Nat.mul_div_mul_right _ _ hk, hr, h1, h2]

/-- Rounding depends on the ratio alone. -/
theorem roundRatio_congr {a b c d : ℕ} (hb : 0 < b) (hd : 0 < d) (h : a * d = c * b) :
    roundRatio a b = roundRatio c d := by
  rw [← roundRatio_mul_right a b hd, ← roundRatio_mul_right c d hb, h, Nat.mul_comm b d]

theorem roundRatio_mul_self (m : ℕ) {d : ℕ} (hd : 0 < d) : roundRatio (m * d) d = m := by
  simp [roundRatio, Nat.mul_div_cancel _ hd, hd]

theorem roundRatio_eq_zero {num den : ℕ} (h : 2 * num < den) : roundRatio num den = 0 := by
  have hlt : num < den := by omega
  simp [roundRatio, Nat.div_eq_of_lt hlt, Nat.mod_eq_of_lt hlt, h]

/-! ## The nearest double to a ratio -/

theorem mul_pow_two (m n : ℕ) : m * Nat.pow 2 n * 2 = m * 2 ^ (n + 1) := by
  rw [pow_succ, ← Nat.mul_assoc]
  rfl

theorem nearestPlace_congr {a b c d : ℕ} (ha : 0 < a) (hb : 0 < b) (hd : 0 < d) (h : a * d = c * b) :
    nearestPlace a b = nearestPlace c d := by
  have hlog := floorLog2_congr ha hb hd h
  simp only [nearestPlace, hlog]
  congr 1
  split_ifs
  · refine roundRatio_congr (Nat.mul_pos hb (pow_pos_two _)) (Nat.mul_pos hd (pow_pos_two _)) ?_
    rw [← Nat.mul_assoc, ← Nat.mul_assoc, h]
  · refine roundRatio_congr hb hd ?_
    rw [Nat.mul_right_comm, h, Nat.mul_right_comm]

theorem ofRatio_congr {a b c d : ℕ} (negative : Bool) (hb : 0 < b) (hd : 0 < d) (h : a * d = c * b) :
    ofRatio negative a b = ofRatio negative c d := by
  by_cases ha : a = 0
  · have hc : c = 0 := by
      rw [ha, Nat.zero_mul] at h
      exact (Nat.mul_eq_zero.1 h.symm).resolve_right hb.ne'
    simp [ofRatio, ha, hc]
  · have hc : c ≠ 0 := by
      rintro rfl
      rw [Nat.zero_mul] at h
      exact ha ((Nat.mul_eq_zero.1 h).resolve_right hd.ne')
    rw [ofRatio, ofRatio, if_neg ha, if_neg hc, nearestPlace_congr (Nat.pos_of_ne_zero ha) hb hd h]

/-! ## The ratios of doubles -/

theorem mantissa_pos {place : ℕ} (hp : 0 < place) : 0 < mantissa place := by
  unfold mantissa
  split_ifs
  · exact hp
  · exact Nat.add_pos_left (by norm_num) _

/-- From the first full power of two on, a mantissa has 53 bits. -/
theorem mantissa_bounds {place : ℕ} (h : binade ≤ place) :
    (2 : ℚ) ^ 52 ≤ mantissa place ∧ (mantissa place : ℚ) < 2 ^ 53 := by
  have hmod : place % binade < binade := Nat.mod_lt place (by norm_num)
  have hlow : 2 ^ 52 ≤ mantissa place := by
    rw [mantissa, if_neg (not_lt.2 h)]
    exact Nat.le_add_right _ _
  have hhigh : mantissa place < 2 ^ 53 := by
    rw [mantissa, if_neg (not_lt.2 h)]
    simp only [binade] at hmod ⊢
    omega
  exact ⟨by exact_mod_cast hlow, by exact_mod_cast hhigh⟩

/-- A place counts the powers of two below it and the mantissa beside them. -/
theorem place_eq (place : ℕ) : (exponent place + 1074).toNat * binade + mantissa place = place := by
  unfold exponent mantissa
  by_cases hsub : place < binade
  · rw [if_pos hsub, if_pos hsub]
    exact Nat.zero_add place
  · have hquot : 1 ≤ place / binade := (Nat.one_le_div_iff (by norm_num)).2 (not_lt.1 hsub)
    have hle : binade ≤ binade * (place / binade) := Nat.le_mul_of_pos_right _ hquot
    have hdiv := Nat.div_add_mod place binade
    have hnat : (((place / binade : ℕ) : ℤ) - 1075 + 1074).toNat = place / binade - 1 := by omega
    rw [if_neg hsub, if_neg hsub, hnat, Nat.sub_mul, Nat.one_mul, Nat.mul_comm]
    omega

theorem ratio_pos {place : ℕ} (hp : 0 < place) : 0 < (ratio place).1 ∧ 0 < (ratio place).2 := by
  have hm := mantissa_pos hp
  simp only [ratio]
  split_ifs
  · exact ⟨Nat.mul_pos hm (pow_pos_two _), one_pos⟩
  · exact ⟨hm, pow_pos_two _⟩

/-- The ratio of a magnitude is its mantissa, scaled by its exponent. -/
theorem ratio_value (place : ℕ) :
    ((ratio place).1 : ℚ) / (ratio place).2 = mantissa place * 2 ^ exponent place := by
  simp only [ratio]
  split_ifs with hq
  · have hcast : (2 : ℚ) ^ exponent place = 2 ^ (exponent place).toNat := by
      rw [← zpow_natCast, Int.toNat_of_nonneg hq]
    rw [Nat.cast_mul, cast_pow_two, hcast, Nat.cast_one, div_one]
  · have hcast : (2 : ℚ) ^ exponent place = (2 ^ (-exponent place).toNat)⁻¹ := by
      rw [← zpow_natCast, Int.toNat_of_nonneg (by omega), zpow_neg, inv_inv]
    rw [cast_pow_two, hcast, div_eq_mul_inv]

/-- The power of two below a magnitude tells its exponent. -/
theorem max_floorLog2_ratio {place : ℕ} (hp : 0 < place) :
    max (floorLog2 (ratio place).1 (ratio place).2 - 52) (-1074) = exponent place := by
  obtain ⟨hn, hd⟩ := ratio_pos hp
  have hvalue := ratio_value place
  by_cases hsub : place < binade
  · -- below the first full power of two all magnitudes have the smallest exponent
    have hexp : exponent place = -1074 := if_pos hsub
    have hmant : mantissa place = place := if_pos hsub
    have hplace : (place : ℚ) < 2 ^ 52 := by exact_mod_cast hsub
    have hhigh : ((ratio place).1 : ℚ) / (ratio place).2 < 2 ^ (-1022 : ℤ) := by
      rw [hvalue, hexp, hmant]
      calc (place : ℚ) * 2 ^ (-1074 : ℤ) < 2 ^ 52 * 2 ^ (-1074 : ℤ) := by gcongr
        _ = 2 ^ (-1022 : ℤ) := by
          rw [← zpow_natCast (2 : ℚ) 52, ← zpow_add₀ (by norm_num)]
          norm_num
    have hlow := (floorLog2_bounds hn hd).1
    have hlog := (zpow_lt_zpow_iff_right₀ (one_lt_two (α := ℚ))).1 (hlow.trans_lt hhigh)
    rw [hexp]
    omega
  · -- above it the mantissa has 53 bits
    obtain ⟨hmlow, hmhigh⟩ := mantissa_bounds (not_lt.1 hsub)
    have hlog : floorLog2 (ratio place).1 (ratio place).2 = 52 + exponent place := by
      apply floorLog2_eq hn hd
      · rw [hvalue, zpow_add₀ (by norm_num)]
        gcongr
        exact_mod_cast hmlow
      · rw [hvalue, show (52 : ℤ) + exponent place + 1 = 53 + exponent place by ring, zpow_add₀ (by norm_num)]
        gcongr
        exact_mod_cast hmhigh
    have hexp : -1074 ≤ exponent place := by
      have hquot : 1 ≤ place / binade := (Nat.one_le_div_iff (by norm_num)).2 (not_lt.1 hsub)
      rw [exponent, if_neg hsub]
      omega
    omega

/-- A magnitude is nearest to itself. -/
theorem nearestPlace_ratio {place : ℕ} (hp : 0 < place) :
    nearestPlace (ratio place).1 (ratio place).2 = place := by
  simp only [nearestPlace, max_floorLog2_ratio hp]
  -- the power of two that is divided out is the one that the mantissa was scaled by
  simp only [ratio]
  split_ifs
  · rw [Nat.one_mul, roundRatio_mul_self _ (pow_pos_two _)]
    exact place_eq place
  · rw [roundRatio_mul_self _ (pow_pos_two _)]
    exact place_eq place

/-- A positive magnitude is what its ratio rounds to. -/
theorem ofRatio_ratio (negative : Bool) (place : Fin places) (hp : 0 < place.val) :
    ofRatio negative (ratio place).1 (ratio place).2 = .finite negative place := by
  rw [ofRatio, if_neg (ratio_pos hp).1.ne', nearestPlace_ratio hp, ofPlace, dif_pos place.isLt]

/-! ## The nearest double to a decimal -/

/-- A decimal as a ratio. -/
def decimalRatio (coefficient : ℕ) (scale : ℤ) : ℕ × ℕ :=
  (coefficient * 10 ^ scale.toNat, 10 ^ (-scale).toNat)

theorem decimalRatio_den_pos (coefficient : ℕ) (scale : ℤ) : 0 < (decimalRatio coefficient scale).2 :=
  Nat.pow_pos (by norm_num)

/-- Decimals of one value are one ratio. -/
theorem decimalRatio_congr {c d : ℕ} {s t : ℤ} (h : (c : ℚ) * 10 ^ s = d * 10 ^ t) :
    (decimalRatio c s).1 * (decimalRatio d t).2 = (decimalRatio d t).1 * (decimalRatio c s).2 := by
  have hten (z : ℤ) : (10 : ℚ) ^ z = 10 ^ z.toNat / 10 ^ (-z).toNat := by
    rw [← zpow_natCast, ← zpow_natCast, ← zpow_sub₀ (by norm_num)]
    congr 1
    omega
  rw [hten s, hten t, ← mul_div_assoc, ← mul_div_assoc, div_eq_div_iff (by positivity) (by positivity)] at h
  simp only [decimalRatio]
  exact_mod_cast h

/-- Powers of ten grow faster than the third powers of two. -/
theorem two_pow_le_ten_pow (n : ℕ) : 2 ^ (3 * n) ≤ 10 ^ n := by
  rw [pow_mul]
  exact Nat.pow_le_pow_left (by norm_num) n

/-- Above all exponents that are tried, a decimal exceeds every double. -/
theorem places_le_nearestPlace {num : ℕ} (h : 2 ^ 1203 ≤ num) : places ≤ nearestPlace num 1 := by
  have hlog : 1151 ≤ floorLog2 num 1 - 52 := by
    have hn : 0 < num := Nat.lt_of_lt_of_le (Nat.two_pow_pos _) h
    obtain ⟨-, hhigh⟩ := floorLog2_bounds hn one_pos
    have hlow : (2 : ℚ) ^ (1203 : ℤ) ≤ (num : ℚ) / (1 : ℕ) := by
      rw [Nat.cast_one, div_one]
      exact_mod_cast h
    have := (zpow_lt_zpow_iff_right₀ one_lt_two).1 (hlow.trans_lt hhigh)
    omega
  simp only [nearestPlace]
  have hq : 2225 ≤ (max (floorLog2 num 1 - 52) (-1074) + 1074).toNat := by omega
  calc places ≤ 2225 * binade := by norm_num
    _ ≤ (max (floorLog2 num 1 - 52) (-1074) + 1074).toNat * binade := Nat.mul_le_mul_right _ hq
    _ ≤ _ := Nat.le_add_right _ _

/-- Below half of the smallest double, a ratio rounds to zero. -/
theorem nearestPlace_eq_zero {num den : ℕ} (hn : 0 < num) (hd : 0 < den) (h : num * 2 ^ 1075 < den) :
    nearestPlace num den = 0 := by
  have hlog : floorLog2 num den < -1075 := by
    obtain ⟨hlow, -⟩ := floorLog2_bounds hn hd
    have hhigh : (num : ℚ) / den < 2 ^ (-1075 : ℤ) := by
      have hd' : (0 : ℚ) < den := by exact_mod_cast hd
      have h' : (num : ℚ) * 2 ^ 1075 < den := by exact_mod_cast h
      rw [div_lt_iff₀ hd', zpow_neg, inv_mul_eq_div, lt_div_iff₀ (by positivity)]
      exact_mod_cast h'
    exact (zpow_lt_zpow_iff_right₀ one_lt_two).1 (hlow.trans_lt hhigh)
  -- the place is the lowest one, where anything below half a unit is rounded to zero
  have hq : max (floorLog2 num den - 52) (-1074) = -1074 := by omega
  have hround : roundRatio (num * Nat.pow 2 1074) den = 0 := by
    refine roundRatio_eq_zero ?_
    rw [Nat.mul_comm, mul_pow_two]
    exact h
  simp only [nearestPlace, hq]
  simpa using hround

/-- The exponents that are answered at once are answered as rounding would. -/
theorem ofDecimal_eq_ofRatio (negative : Bool) (coefficient : ℕ) (scale : ℤ) :
    ofDecimal negative coefficient scale =
      ofRatio negative (decimalRatio coefficient scale).1 (decimalRatio coefficient scale).2 := by
  by_cases hc : coefficient = 0
  · simp [ofDecimal, ofRatio, decimalRatio, hc]
  have hpos : 0 < coefficient := Nat.pos_of_ne_zero hc
  have hnum : (decimalRatio coefficient scale).1 ≠ 0 := Nat.mul_ne_zero hc (by positivity)
  rw [ofDecimal, if_neg hc]
  split_ifs with hlarge hsmall hsign
  · -- the power of ten alone exceeds every double
    have hden : (decimalRatio coefficient scale).2 = 1 := by
      simp [decimalRatio, show (-scale).toNat = 0 by omega]
    have hbig : 2 ^ 1203 ≤ (decimalRatio coefficient scale).1 := by
      calc 2 ^ 1203 ≤ 2 ^ (3 * scale.toNat) := Nat.pow_le_pow_right (by norm_num) (by omega)
        _ ≤ 10 ^ scale.toNat := two_pow_le_ten_pow _
        _ ≤ coefficient * 10 ^ scale.toNat := Nat.le_mul_of_pos_left _ hpos
    rw [ofRatio, if_neg hnum, hden, ofPlace, dif_neg (not_lt.2 (places_le_nearestPlace hbig))]
  · -- the coefficient is less than a power of two that the power of ten outgrows
    have htiny : (decimalRatio coefficient scale).1 * 2 ^ 1075 < (decimalRatio coefficient scale).2 := by
      have hzero : scale.toNat = 0 := by omega
      have hexp : Nat.log2 coefficient + 1 + 1075 ≤ 3 * (-scale).toNat := by omega
      simp only [decimalRatio, hzero, pow_zero, mul_one]
      calc coefficient * 2 ^ 1075
          < 2 ^ (Nat.log2 coefficient + 1) * 2 ^ 1075 :=
            Nat.mul_lt_mul_of_pos_right Nat.lt_log2_self (by positivity)
        _ = 2 ^ (Nat.log2 coefficient + 1 + 1075) := (Nat.pow_add _ _ _).symm
        _ ≤ 2 ^ (3 * (-scale).toNat) := Nat.pow_le_pow_right (by norm_num) hexp
        _ ≤ 10 ^ (-scale).toNat := two_pow_le_ten_pow _
    have hplace := nearestPlace_eq_zero (Nat.pos_of_ne_zero hnum) (decimalRatio_den_pos _ _) htiny
    rw [ofRatio, if_neg hnum, hplace]
    rfl
  · have hden : (-scale).toNat = 0 := by omega
    simp only [decimalRatio, hden, pow_zero]
    rfl
  · have hzero : scale.toNat = 0 := by omega
    simp only [decimalRatio, hzero, pow_zero, mul_one]
    rfl

/-- Decimals of one value read as one double. -/
theorem ofDecimal_congr (negative : Bool) {c d : ℕ} {s t : ℤ} (h : (c : ℚ) * 10 ^ s = d * 10 ^ t) :
    ofDecimal negative c s = ofDecimal negative d t := by
  rw [ofDecimal_eq_ofRatio, ofDecimal_eq_ofRatio]
  exact ofRatio_congr negative (decimalRatio_den_pos _ _) (decimalRatio_den_pos _ _) (decimalRatio_congr h)

/-- A sign is carried along. -/
theorem ofDecimal_negative {c : ℕ} {s : ℤ} {place : Fin places} (negative : Bool)
    (h : ofDecimal false c s = .finite false place) : ofDecimal negative c s = .finite negative place := by
  simp only [ofDecimal, ofRatio, ofPlace] at h ⊢
  split_ifs at h ⊢ <;> simp_all

/-- The exact decimal of a double reads back. -/
theorem ofDecimal_exactDecimal (place : Fin places) (hp : 0 < place.val) :
    ofDecimal false (exactDecimal place).1 (exactDecimal place).2 = .finite false place := by
  rw [ofDecimal_eq_ofRatio, ← ofRatio_ratio false place hp]
  refine ofRatio_congr false (decimalRatio_den_pos _ _) (ratio_pos hp).2 ?_
  simp only [exactDecimal, ratio, decimalRatio]
  split_ifs with hq
  · simp
  · have hzero : (exponent place).toNat = 0 := by omega
    have hten : 10 ^ (-exponent place).toNat = 5 ^ (-exponent place).toNat * 2 ^ (-exponent place).toNat := by
      rw [← Nat.mul_pow]
    have hfive : Nat.pow 5 (-exponent place).toNat = 5 ^ (-exponent place).toNat := rfl
    have htwo : Nat.pow 2 (-exponent place).toNat = 2 ^ (-exponent place).toNat := rfl
    rw [hzero, hten, hfive, htwo, pow_zero, mul_one, Nat.mul_assoc]

end DocBrowser.Double
