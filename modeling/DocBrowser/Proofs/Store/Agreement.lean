import Mathlib
import DocBrowser.Proofs.ExtendedJson.Injective
import DocBrowser.Proofs.Filter.Trials
import DocBrowser.Proofs.Number.Magnitude
import DocBrowser.Proofs.Store.Answers
import DocBrowser.Proofs.Store.SortKeys
import DocBrowser.Proofs.Value.Widths
/-!
# Order and equality

Two values are ordered alike if neither is below the other. Whole numbers and doubles are ordered alike exactly
where they are equal, as are all values without parts. A decimal is ordered by the nearest double and compared
for equality as it is, and arrays and documents are ordered by texts that show the order of keys, the widths
of numbers and the zeros at their ends, which equality passes over.
-/

namespace DocBrowser

namespace Value

/-! ## Numbers -/

/-- A number as it is ordered: a decimal counts as the nearest double. -/
def rounded : Value → Value
  | .decimal d => match d.toDouble? with
    | some nearest => .double nearest
    | none => .decimal d
  | value => value

theorem magnitude?_double (d : Double) : (Value.double d).magnitude? = d.magnitude? := by
  cases d <;> rfl

/-- A number is ordered by a count of units that is its magnitude once it is rounded. -/
theorem exists_counts {value : Value} (hnumber : value.isNumber = true) (hnan : value.NaNFree) :
    ∃ units magnitude, value.sortKey = .ok ⟨2, .number units⟩ ∧ value.rounded.magnitude? = some magnitude ∧
      Units.Counts units magnitude := by
  have hdouble {d : Double} (hd : d ≠ .nan) : ∃ magnitude, (Value.double d).magnitude? = some magnitude ∧
      Units.Counts (.ofDouble d) magnitude := by
    rw [magnitude?_double]
    exact Units.counts_ofDouble hd
  cases value with
  | int32 n => exact ⟨_, _, rfl, rfl, Units.counts_ofInt n.value⟩
  | int64 n => exact ⟨_, _, rfl, rfl, Units.counts_ofInt n.value⟩
  | double d =>
    obtain ⟨magnitude, hmagnitude, hcounts⟩ := hdouble hnan
    exact ⟨_, magnitude, rfl, hmagnitude, hcounts⟩
  | decimal d =>
    cases d with
    | nan => cases hnan
    | infinite negative => exact ⟨_, _, rfl, rfl, .infinite negative⟩
    | finite negative coefficient exponent =>
      -- the nearest double, which is infinite where the decimal is too great, but no NaN
      obtain ⟨magnitude, hmagnitude, hcounts⟩ := hdouble (Double.ofDecimal_ne_nan negative coefficient exponent)
      exact ⟨_, magnitude, rfl, hmagnitude, hcounts⟩
  | _ => cases hnumber

/-- Numbers have one key exactly if they are equal once they are rounded. -/
theorem sortKey_eq_iff_of_isNumber {a b : Value} (ha : a.isNumber = true) (hb : b.isNumber = true) (hna : a.NaNFree)
    (hnb : b.NaNFree) {ka kb : SortKey} (hka : a.sortKey = .ok ka) (hkb : b.sortKey = .ok kb) :
    ka = kb ↔ a.rounded.equal b.rounded = .ok true := by
  -- both keys count the magnitudes of the numbers as the order rounds them
  obtain ⟨units, magnitude, hkey, hmagnitude, hcounts⟩ := exists_counts ha hna
  obtain ⟨units', magnitude', hkey', hmagnitude', hcounts'⟩ := exists_counts hb hnb
  cases hka.symm.trans hkey
  cases hkb.symm.trans hkey'
  have hnumber := isNumber_of_magnitude? hmagnitude
  rw [equal_eq_ok_true, hmagnitude, hmagnitude', hnumber]
  constructor
  · intro h
    cases h
    exact .inl ⟨magnitude, rfl, by rw [(hcounts.eq_iff hcounts').1 rfl]⟩
  · rintro (⟨common, h, h'⟩ | ⟨h, -⟩)
    · cases h
      cases h'
      rw [(hcounts.eq_iff hcounts').2 rfl]
    · cases h

/-! ## Other values -/

theorem units_ofInt_inj {m n : ℤ} : Units.ofInt m = Units.ofInt n ↔ m = n := by
  have hinj (k : ℕ) : m * (Nat.pow 2 k : ℕ) = n * (Nat.pow 2 k : ℕ) ↔ m = n :=
    mul_left_inj' (Int.natCast_ne_zero.2 (Double.pow_pos_two k).ne')
  simp only [Units.ofInt, Units.finite.injEq, hinj]

theorem objectId_bytes_inj {a b : ObjectId} : a.bytes = b.bytes ↔ a = b := by
  cases a
  cases b
  simp

/-- Each kind without parts has a rank of its own, and keys that show all of a value. -/
theorem eq_of_sortKey_eq_bare {a b : Value} (hnumber : a.isNumber = false) (hbare : a.isNested = false)
    (hrank : a.rank = b.rank) (hkey : a.sortKey = b.sortKey) : a = b := by
  cases a with
  | int32 | int64 | decimal => cases hnumber
  | double d => cases d <;> cases hnumber
  | array | document => cases hbare
  | _ => cases b <;> simp_all [rank, sortKey, units_ofInt_inj, objectId_bytes_inj]

/-- Arrays and documents have ranks of their own, and keys that show all of a value. -/
theorem eq_of_sortKey_eq_nested {a b : Value} (hnested : a.isNested = true) (ha : a.WellFormed) (hb : b.WellFormed)
    {key : SortKey} (hka : a.sortKey = .ok key) (hkb : b.sortKey = .ok key) : a = b := by
  have hrank : a.rank = b.rank := (rank_of_sortKey hka).symm.trans (rank_of_sortKey hkb)
  have hshown {value : Value} (h : value.isNested = true) (hkey : value.sortKey = .ok key) :
      ∃ text, value.nestedText = .ok text ∧ key.part = .text text := by
    cases value with
    | array | document =>
      obtain ⟨text, htext, rfl⟩ := map_eq_ok.1 hkey
      exact ⟨text, htext, rfl⟩
    | _ => cases h
  -- no other value has the rank of an array or a document
  have hnested' : b.isNested = true := by
    by_contra hbare
    exact rank_ne_of_isNested hnested (by simpa using hbare) hrank
  obtain ⟨text, htext, hpart⟩ := hshown hnested hka
  obtain ⟨text', htext', hpart'⟩ := hshown hnested' hkb
  cases hpart.symm.trans hpart'
  exact eq_of_nestedText ha hb htext htext'

/-- What is no number has the key of no other value. -/
theorem sortKey_eq_iff_of_not_isNumber {a b : Value} (hnumber : a.isNumber = false) (ha : a.WellFormed)
    (hb : b.WellFormed) {ka kb : SortKey} (hka : a.sortKey = .ok ka) (hkb : b.sortKey = .ok kb) : ka = kb ↔ a = b := by
  constructor
  · rintro rfl
    cases hnested : a.isNested with
    | false =>
      exact eq_of_sortKey_eq_bare hnumber hnested ((rank_of_sortKey hka).symm.trans (rank_of_sortKey hkb))
        (hka.trans hkb.symm)
    | true => exact eq_of_sortKey_eq_nested hnested ha hb hka hkb
  · rintro rfl
    exact Except.ok.inj (hka.symm.trans hkb)

/-! ## Order and equality -/

/--
Whether the order of two values keeps to their equality: numbers are equal exactly if they are once they are
rounded as for the order, and other values are equal only to themselves.
-/
def OrderedAsEqual (a b : Value) : Prop :=
  if a.isNumber = true ∧ b.isNumber = true then a.rounded.equal b.rounded = .ok true ↔ a.equal b = .ok true
  else a.equal b = .ok true → a = b

/-- Among values that are no decimals, arrays and documents, the order keeps to equality. -/
theorem orderedAsEqual_of_bare {a b : Value} (ha : ∀ d, a ≠ .decimal d) (hb : ∀ d, b ≠ .decimal d)
    (hbare : a.isNested = false) : OrderedAsEqual a b := by
  have hrounded {value : Value} (h : ∀ d, value ≠ .decimal d) : value.rounded = value := by
    cases value with
    | decimal d => exact absurd rfl (h d)
    | _ => rfl
  rw [OrderedAsEqual]
  split_ifs with hnumbers
  · rw [hrounded ha, hrounded hb]
  · -- two values that are equal without both being numbers are one value, up to zeros and decimals
    intro hequal
    rcases equal_eq_ok_true.1 hequal with ⟨magnitude, hmagnitude, hmagnitude'⟩ | ⟨hnumber, -, hsame⟩
    · exact absurd ⟨isNumber_of_magnitude? hmagnitude, isNumber_of_magnitude? hmagnitude'⟩ hnumbers
    · cases same_eq_ok_true.1 hsame with
      | plain => rfl
      | @double x y => cases x <;> cases hnumber
      | decimal => cases hnumber
      | array | document => cases hbare

/-- Keys are those of equal values exactly if the order keeps to equality. -/
theorem orderedAsEqual_iff {a b : Value} (ha : a.WellFormed) (hb : b.WellFormed) (hna : a.NaNFree) (hnb : b.NaNFree)
    {ka kb : SortKey} (hka : a.sortKey = .ok ka) (hkb : b.sortKey = .ok kb) :
    (ka = kb ↔ a.equal b = .ok true) ↔ OrderedAsEqual a b := by
  rw [OrderedAsEqual]
  split_ifs with hnumbers
  · rw [sortKey_eq_iff_of_isNumber hnumbers.1 hnumbers.2 hna hnb hka hkb]
  · -- one of the two is no number, and it is told from every other value by its key
    have hkeys : ka = kb ↔ a = b := by
      cases hnumber : a.isNumber with
      | false => exact sortKey_eq_iff_of_not_isNumber hnumber ha hb hka hkb
      | true =>
        have hnumber' : b.isNumber = false := by
          by_contra hb'
          exact hnumbers ⟨hnumber, by simpa using hb'⟩
        rw [eq_comm, sortKey_eq_iff_of_not_isNumber hnumber' hb ha hkb hka, eq_comm]
    rw [hkeys]
    refine ⟨Iff.mpr, fun h => ⟨?_, h⟩⟩
    rintro rfl
    exact equal_refl ha hna

theorem ranked_of_nanFree {value : Value} (h : value.NaNFree) {key : SortKey} (hkey : value.sortKey = .ok key) :
    key.Ranked := by
  refine ⟨form_of_sortKey hkey, ?_⟩
  cases hnumber : value.isNumber with
  | true =>
    obtain ⟨units, magnitude, hunits, -, hcounts⟩ := exists_counts hnumber h
    cases hkey.symm.trans hunits
    simpa using hcounts.ne_nan
  | false =>
    cases value with
    | int32 | int64 | decimal => cases hnumber
    | double d => cases d <;> cases hnumber
    | array | document =>
      obtain ⟨text, -, rfl⟩ := map_eq_ok.1 hkey
      simp
    | _ =>
      cases hkey
      intro h
      cases h

end Value

namespace SortKey

/-- Of two keys, neither is below the other exactly if they are one. -/
theorem not_less_iff {a b : SortKey} (ha : a.Ranked) (hb : b.Ranked) :
    a.less b = false ∧ b.less a = false ↔ a = b := by
  constructor
  · rintro ⟨hab, hba⟩
    rcases less_trichotomy ha hb with h | h | h
    · simp [hab] at h
    · exact h
    · simp [hba] at h
  · rintro rfl
    exact ⟨less_irrefl a, less_irrefl a⟩

/-- Keys are below one another in at most one direction, so just one of three holds if the third is equality. -/
theorem count_eq_one_iff {a b : SortKey} (ha : a.Ranked) (hb : b.Ranked) (same : Bool) :
    [a.less b, same, b.less a].count true = 1 ↔ (a = b ↔ same = true) := by
  rw [← not_less_iff ha hb]
  have hasymm : a.less b = true → b.less a = false := less_asymm
  generalize a.less b = below at *
  generalize b.less a = above at *
  cases below <;> cases above <;> cases same <;> simp_all

theorem compare_eq_lt {a b : SortKey} (h : a.less b = true) : a.compare b = .lt := by
  rw [compare, if_pos h]

theorem compare_eq_gt {a b : SortKey} (h : b.less a = true) : a.compare b = .gt := by
  rw [compare, if_neg (by simp [less_asymm h]), if_pos h]

theorem compare_self (a : SortKey) : a.compare a = .eq := by
  rw [compare, if_neg (by simp [less_irrefl]), if_neg (by simp [less_irrefl])]

theorem ne_of_less {a b : SortKey} (h : a.less b = true) : a ≠ b := by
  rintro rfl
  rw [less_irrefl] at h
  cases h

/-- At least as great is greater or equal, and at most as great is less or equal, if equality is that of keys. -/
theorem compare_or_iff {a b : SortKey} (ha : a.Ranked) (hb : b.Ranked) (same : Bool) :
    (decide (a.rank = b.rank) && decide (a.compare b ≠ .lt)) =
          ((decide (a.rank = b.rank) && decide (a.compare b = .gt)) || same) ∧
        (decide (a.rank = b.rank) && decide (a.compare b ≠ .gt)) =
          ((decide (a.rank = b.rank) && decide (a.compare b = .lt)) || same) ↔
      (a = b ↔ same = true) := by
  rcases less_trichotomy ha hb with h | rfl | h
  · rw [compare_eq_lt h, eq_false (ne_of_less h)]
    by_cases hrank : a.rank = b.rank <;> cases same <;> simp [hrank]
  · rw [compare_self]
    cases same <;> simp
  · rw [compare_eq_gt h, eq_false (ne_of_less h).symm]
    by_cases hrank : a.rank = b.rank <;> cases same <;> simp [hrank]

end SortKey

namespace Filter

/-! ## Operators -/

section

variable {value expected : Value}

theorem candidates_of_not_array (h : ∀ items, value ≠ .array items) : candidates (some value) = [value] := by
  cases value with
  | array items => exact absurd rfl (h items)
  | _ => rfl

theorem equals_of_not_array (h : ∀ items, value ≠ .array items) (hregex : ∀ pattern options, expected ≠ .regex pattern options) :
    equals (some value) expected = value.equal expected := by
  have hequals : equals (some value) expected = (candidates (some value)).anyM (Value.equal · expected) := by
    cases expected with
    | regex pattern options => exact absurd rfl (hregex pattern options)
    | _ => rfl
  rw [hequals, candidates_of_not_array h, anyM_singleton]

theorem compares_of_not_array (h : ∀ items, value ≠ .array items) {key bound : SortKey} (hkey : value.sortKey = .ok key)
    (hbound : expected.sortKey = .ok bound) (test : Ordering → Bool) :
    compares (some value) expected test = .ok (key.rank = bound.rank && test (key.compare bound)) := by
  rw [compares, hbound]
  show (candidates (some value)).anyM _ = _
  rw [candidates_of_not_array h, anyM_singleton, hkey]
  rfl

end

/--
Two values without a NaN that can be written have keys and are compared. Neither is below the other exactly if
they are equal, one of two numbers is less, equal or greater than the other, and the operators of order pass
what the strict ones or equality pass, exactly where the order of the two values keeps to their equality.
-/
theorem order_agrees_iff {a b : Value} (ha : ExtendedJson.Writable a) (hb : ExtendedJson.Writable b) (hna : a.NaNFree)
    (hnb : b.NaNFree) :
    ∃ ka kb same, a.sortKey = .ok ka ∧ b.sortKey = .ok kb ∧ a.equal b = .ok same ∧
      ((ka.less kb = false ∧ kb.less ka = false ↔ same = true) ↔ a.OrderedAsEqual b) ∧
      (a.isNumber = true → b.isNumber = true → ([ka.less kb, same, kb.less ka].count true = 1 ↔ a.OrderedAsEqual b)) ∧
      ((∀ items, a ≠ .array items) → (∀ pattern options, b ≠ .regex pattern options) → ∀ options,
        ∃ atLeast greater atMost less,
          applyOperator (some a) options "$eq" b = .ok same ∧
          applyOperator (some a) options "$gte" b = .ok atLeast ∧
          applyOperator (some a) options "$gt" b = .ok greater ∧
          applyOperator (some a) options "$lte" b = .ok atMost ∧
          applyOperator (some a) options "$lt" b = .ok less ∧
          (atLeast = (greater || same) ∧ atMost = (less || same) ↔ a.OrderedAsEqual b)) := by
  obtain ⟨ka, hka⟩ := (Value.Sound.mk ha hna.quiet).sortKey_isOk
  obtain ⟨kb, hkb⟩ := (Value.Sound.mk hb hnb.quiet).sortKey_isOk
  obtain ⟨same, hsame⟩ := Value.equal_isOk hna hnb
  have hranked := Value.ranked_of_nanFree hna hka
  have hranked' := Value.ranked_of_nanFree hnb hkb
  -- all three agreements come down to this one, between the keys and equality
  have hkeys : (ka = kb ↔ same = true) ↔ a.OrderedAsEqual b := by
    rw [← Value.orderedAsEqual_iff ha.wellFormed hb.wellFormed hna hnb hka hkb, hsame, Except.ok.injEq]
  refine ⟨ka, kb, same, hka, hkb, hsame, ?_, fun _ _ => ?_, fun harray hregex options => ?_⟩
  · rw [SortKey.not_less_iff hranked hranked', hkeys]
  · rw [SortKey.count_eq_one_iff hranked hranked', hkeys]
  · have htest := compares_of_not_array harray hka hkb
    refine ⟨_, _, _, _, (equals_of_not_array harray hregex).trans hsame, htest (· ≠ .lt), htest (· = .gt), htest (· ≠ .gt),
      htest (· = .lt), ?_⟩
    rw [SortKey.compare_or_iff hranked hranked', hkeys]

/-- A whole number and a double: just one of less, equal and greater holds. -/
theorem order_agrees_int32_double :
    let three : Value := .int32 ⟨3, by decide, by decide⟩
    let double : Value := .double (.finite false ⟨0x4008000000000000, by decide⟩)
    ExtendedJson.Writable three ∧ ExtendedJson.Writable double ∧ three.NaNFree ∧ double.NaNFree ∧
      ∃ ka kb same, three.sortKey = .ok ka ∧ double.sortKey = .ok kb ∧ three.equal double = .ok same ∧
        [ka.less kb, same, kb.less ka].count true = 1 := by
  intro three double
  have hthree : ExtendedJson.Writable three := ⟨trivial, rfl⟩
  have hdouble : ExtendedJson.Writable double := ⟨trivial, rfl⟩
  have hnan : double.NaNFree := by
    intro h
    cases h
  have hordered : three.OrderedAsEqual double := Value.orderedAsEqual_of_bare (by simp [three]) (by simp [double]) rfl
  obtain ⟨ka, kb, same, hka, hkb, hsame, -, hcount, -⟩ := order_agrees_iff hthree hdouble trivial hnan
  exact ⟨hthree, hdouble, trivial, hnan, ka, kb, same, hka, hkb, hsame, (hcount rfl rfl).2 hordered⟩

/-- A document is equal to the one with its keys turned around, and is ordered below it. -/
theorem order_disagrees_key_order :
    let one : Value := .int32 ⟨1, by decide, by decide⟩
    let two : Value := .int32 ⟨2, by decide, by decide⟩
    let doc : Value := .document [("a", one), ("b", two)]
    let turned : Value := .document [("b", two), ("a", one)]
    doc.equal turned = .ok true ∧
      ∃ key key', doc.sortKey = .ok key ∧ turned.sortKey = .ok key' ∧ key.less key' = true := by
  intro one two doc turned
  exact ⟨by cbv, ⟨4, .text "\x7b\"v\":\x7b\"a\":1,\"b\":2\x7d\x7d"⟩, ⟨4, .text "\x7b\"v\":\x7b\"b\":2,\"a\":1\x7d\x7d"⟩,
    by cbv, by cbv, by cbv⟩

end Filter

end DocBrowser
