import Mathlib
import DocBrowser.Proofs.Failure
import DocBrowser.Store.Order
/-!
# Keys that values are ordered by

Values are compared by keys: the rank of their kind, and behind it a part whose form the rank tells. The
keys of all values but a NaN are therefore totally ordered, whatever kinds of values they come from.
-/

namespace DocBrowser

/-! ## Numbers -/

namespace Units

theorem less_irrefl (a : Units) : a.less a = false := by
  cases a with
  | nan => rfl
  | infinite negative => cases negative <;> rfl
  | finite count => simp [less]

theorem less_trans {a b c : Units} (hab : a.less b = true) (hbc : b.less c = true) : a.less c = true := by
  cases a <;> cases b <;> cases c <;> simp_all [less]
  omega

/-- Of two numbers that are no NaN one is below the other, or they are one. -/
theorem less_trichotomy {a b : Units} (ha : a ≠ .nan) (hb : b ≠ .nan) :
    a.less b = true ∨ a = b ∨ b.less a = true := by
  -- a NaN is neither below a number nor above it, which is why there is none on either side
  cases a with
  | nan => exact absurd rfl ha
  | infinite x =>
    cases b with
    | nan => exact absurd rfl hb
    | infinite y => cases x <;> cases y <;> simp [less]
    | finite n => cases x <;> simp [less]
  | finite m =>
    cases b with
    | nan => exact absurd rfl hb
    | infinite y => cases y <;> simp [less]
    | finite n =>
      simp only [less, decide_eq_true_eq, Units.finite.injEq]
      omega

end Units

/-! ## Parts -/

namespace SortPart

/-- The form that a part has. -/
def form : SortPart → ℕ
  | .nothing => 0
  | .number _ => 1
  | .flag _ => 2
  | .text _ => 3
  | .bytes _ => 4
  | .binary .. => 5
  | .texts .. => 6

theorem less_irrefl (a : SortPart) : a.less a = false := by
  cases a with
  | nothing => rfl
  | number units => exact units.less_irrefl
  | flag value => simp [less]
  | text text => simp [less]
  | bytes bytes => simp [less, List.lt_irrefl]
  | binary length subtype data => simp [less, List.lt_irrefl]
  | texts first second => simp [less]

theorem less_trans {a b c : SortPart} (hab : a.less b = true) (hbc : b.less c = true) : a.less c = true := by
  -- parts of different forms are not below one another
  cases a <;> cases b <;> try cases hab
  all_goals cases c <;> try cases hbc
  case number.number.number => exact Units.less_trans hab hbc
  case flag.flag.flag => simp_all [less]
  case text.text.text =>
    simp only [less, decide_eq_true_eq] at hab hbc ⊢
    exact lt_trans hab hbc
  case bytes.bytes.bytes =>
    simp only [less, decide_eq_true_eq] at hab hbc ⊢
    exact List.lt_trans hab hbc
  case binary.binary.binary n s x m t y k u z =>
    have hdata : x < y → y < z → x < z := List.lt_trans
    simp only [less] at hab hbc ⊢
    grind
  case texts.texts.texts p o q u r w =>
    have hfirst : p < q → q < r → p < r := lt_trans
    have hsecond : o < u → u < w → o < w := lt_trans
    have hne : p < q → q < r → p ≠ r := fun h h' => (lt_trans h h').ne
    simp only [less] at hab hbc ⊢
    grind

/-- Of two parts of one form, neither of them a NaN, one is below the other, or they are one. -/
theorem less_trichotomy {a b : SortPart} (hform : a.form = b.form) (ha : a ≠ .number .nan) (hb : b ≠ .number .nan) :
    a.less b = true ∨ a = b ∨ b.less a = true := by
  -- parts of one form have one constructor, and each is ordered by what it holds
  cases a <;> cases b <;> try cases hform
  case nothing.nothing => exact .inr (.inl rfl)
  case number.number x y =>
    have hx : x ≠ .nan := fun h => ha (by rw [h])
    have hy : y ≠ .nan := fun h => hb (by rw [h])
    simpa [less] using Units.less_trichotomy hx hy
  case flag.flag x y => cases x <;> cases y <;> simp [less]
  case text.text x y => simpa [less] using lt_trichotomy x y
  case bytes.bytes x y =>
    have hdata : ¬x < y → ¬y < x → x = y := fun h h' => List.le_antisymm (List.not_lt.1 h') (List.not_lt.1 h)
    simp only [less, decide_eq_true_eq, SortPart.bytes.injEq]
    tauto
  case binary.binary n s x m t y =>
    have hdata : ¬x < y → ¬y < x → x = y := fun h h' => List.le_antisymm (List.not_lt.1 h') (List.not_lt.1 h)
    simp only [less, SortPart.binary.injEq]
    grind
  case texts.texts p o q u =>
    have hfirst := lt_trichotomy p q
    have hsecond := lt_trichotomy o u
    simp only [less, SortPart.texts.injEq]
    grind

end SortPart

/-! ## Keys -/

/-- The form of the parts at a rank. -/
def formAt (rank : ℕ) : ℕ :=
  match rank with
  | 2 | 9 => 1
  | 8 => 2
  | 3 | 4 | 5 => 3
  | 7 => 4
  | 6 => 5
  | 10 => 6
  | _ => 0

namespace SortKey

/-- Whether a key is that of a NaN. -/
def isNaN (key : SortKey) : Bool := decide (key.part = .number .nan)

/-- Whether a key has the form that its rank tells, and is not that of a NaN. -/
structure Ranked (key : SortKey) : Prop where
  form : key.part.form = formAt key.rank
  number : key.part ≠ .number .nan

theorem less_iff {a b : SortKey} :
    a.less b = true ↔ a.rank < b.rank ∨ a.rank = b.rank ∧ a.part.less b.part = true := by
  rw [less]
  split_ifs with hrank
  · simp [hrank]
  · have heq : a.rank = b.rank := not_not.1 hrank
    simp [heq]

theorem less_irrefl (a : SortKey) : a.less a = false := by
  rw [less, if_neg (by simp)]
  exact a.part.less_irrefl

theorem less_trans {a b c : SortKey} (hab : a.less b = true) (hbc : b.less c = true) : a.less c = true := by
  rw [less_iff] at hab hbc ⊢
  rcases hab with hab | ⟨hab, hpart⟩
  · -- the rank falls once at least
    exact .inl (by omega)
  · rcases hbc with hbc | ⟨hbc, hpart'⟩
    · exact .inl (by omega)
    · exact .inr ⟨hab.trans hbc, SortPart.less_trans hpart hpart'⟩

theorem less_asymm {a b : SortKey} (h : a.less b = true) : b.less a = false := by
  by_contra hba
  have hself := less_trans h (by simpa using hba)
  rw [less_irrefl] at hself
  cases hself

/-- Keys of values other than NaN are totally ordered. -/
theorem less_trichotomy {a b : SortKey} (ha : a.Ranked) (hb : b.Ranked) : a.less b = true ∨ a = b ∨ b.less a = true := by
  rw [less_iff, less_iff]
  by_cases hrank : a.rank = b.rank
  · have hform : a.part.form = b.part.form := by rw [ha.form, hb.form, hrank]
    rcases SortPart.less_trichotomy hform ha.number hb.number with h | h | h
    · exact .inl (.inr ⟨hrank, h⟩)
    · have heq : a = b := by
        cases a
        cases b
        simp_all
      exact .inr (.inl heq)
    · exact .inr (.inr (.inr ⟨hrank.symm, h⟩))
  · omega

/-- A key lies below one of two keys of which one is below the other, or above the other one. -/
theorem less_or_less {a b : SortKey} (ha : a.Ranked) {c : SortKey} (hc : c.Ranked) (h : a.less b = true) :
    a.less c = true ∨ c.less b = true := by
  rcases less_trichotomy ha hc with hac | rfl | hca
  · exact .inl hac
  · exact .inr h
  · exact .inr (less_trans hca h)

end SortKey

/-- The rank of a value tells the form of what it is ordered by. -/
theorem Value.form_of_sortKey {value : Value} {key : SortKey} (h : value.sortKey = .ok key) :
    key.part.form = formAt key.rank := by
  cases value with
  | decimal d =>
    simp only [sortKey] at h
    split at h
    · cases h
      rfl
    · cases h
  | array items | document fields =>
    obtain ⟨text, -, rfl⟩ := map_eq_ok.1 h
    rfl
  | _ =>
    cases h
    rfl

theorem Value.ranked_of_sortKey {value : Value} {key : SortKey} (h : value.sortKey = .ok key)
    (hnan : key.isNaN = false) : key.Ranked := by
  refine ⟨form_of_sortKey h, ?_⟩
  simpa [SortKey.isNaN] using hnan

end DocBrowser
