import Mathlib
import DocBrowser.Proofs.Calendar.Timestamp
/-!
# Counting days

From one date the next one is reached: the next day of the month, the first day of the next month, or the first day
of the next year. Every date is reached in this way from the first of all, and the number that stands for a date is
how many steps it is away from the first day of 1970.
-/

namespace DocBrowser.Calendar

/-- A date as it is written. -/
structure Date where
  year : ℕ
  month : ℕ
  day : ℕ
  deriving DecidableEq

namespace Date

/-- Whether the calendar has a date. -/
structure Valid (date : Date) : Prop where
  year_pos : 1 ≤ date.year
  month_pos : 1 ≤ date.month
  month_le : date.month ≤ 12
  day_pos : 1 ≤ date.day
  day_le : date.day ≤ daysInMonth date.year date.month

/-- The date of the day after. -/
def next (date : Date) : Date :=
  if date.day < daysInMonth date.year date.month then { date with day := date.day + 1 }
  else if date.month < 12 then { year := date.year, month := date.month + 1, day := 1 }
  else { year := date.year + 1, month := 1, day := 1 }

/-- The first date there is. -/
def first : Date := ⟨1, 1, 1⟩

/-- The date from which days are counted. -/
def epoch : Date := ⟨1970, 1, 1⟩

/--
Whether a date is some days after the epoch, or before it if the number is negative: some steps from the epoch
lead where other steps lead from the date.
-/
def IsDay (date : Date) (days : ℤ) : Prop :=
  ∃ after before : ℕ, next^[after] epoch = next^[before] date ∧ days = after - before

/-- The number that stands for a date. -/
def number (date : Date) : ℤ := dayOfDate date.year date.month date.day

end Date

/-! ## The next day -/

theorem daysInMonth_eq_getD {year month : ℕ} (h : 1 ≤ month) :
    daysInMonth year month = (monthLengths year).getD (month - 1) 0 := by
  obtain ⟨m, rfl⟩ := Nat.exists_eq_add_of_le' h
  rfl

theorem one_le_daysInMonth {year month : ℕ} (hpos : 1 ≤ month) (hle : month ≤ 12) : 1 ≤ daysInMonth year month := by
  interval_cases month <;> simp only [daysInMonth, monthLengths] <;> split_ifs <;> decide

/-- The days of a month lie between its first day and that of the next month. -/
theorem daysBeforeMonth_succ {year month : ℕ} (hpos : 1 ≤ month) (hle : month ≤ 12) :
    daysBeforeMonth year (month + 1) = daysBeforeMonth year month + daysInMonth year month := by
  have hlength : month - 1 < (monthLengths year).length := by
    show month - 1 < 12
    omega
  have hmonth : month + 1 - 1 = month - 1 + 1 := by omega
  rw [daysBeforeMonth_eq_sum, daysBeforeMonth_eq_sum, daysInMonth_eq_getD hpos, hmonth, List.sum_take_succ _ _ hlength,
    List.getD_eq_getElem _ _ hlength]

theorem daysBeforeMonth_thirteen (year : ℕ) : daysBeforeMonth year 13 = if isLeap year then 366 else 365 := by
  rw [daysBeforeMonth_eq_sum, ← sum_monthLengths]
  rfl

/-- The days of a year lie between its first day and that of the next year. -/
theorem daysBeforeYear_succ {year : ℕ} (hpos : 1 ≤ year) :
    daysBeforeYear (year + 1) = daysBeforeYear year + if isLeap year then 366 else 365 := by
  obtain ⟨y, rfl⟩ := Nat.exists_eq_add_of_le' hpos
  have hleap : isLeap (y + 1) = true ↔ 4 ∣ y + 1 ∧ (¬ 100 ∣ y + 1 ∨ 400 ∣ y + 1) := by
    simp [isLeap, Nat.dvd_iff_mod_eq_zero]
  -- a multiple of the longer cycle is one of the shorter
  have hcentury : 100 ∣ y + 1 → 4 ∣ y + 1 := Dvd.dvd.trans (by decide)
  have hcycle : 400 ∣ y + 1 → 100 ∣ y + 1 := Dvd.dvd.trans (by decide)
  have hless : y / 100 ≤ y / 4 := Nat.div_le_div_left (by decide) (by decide)
  simp only [daysBeforeYear, Nat.add_sub_cancel, Nat.succ_div, hleap]
  split_ifs <;> omega

namespace Date

variable {date : Date}

/-- Dates count on by one from day to day, over the ends of months and years. -/
theorem Valid.number_next (h : date.Valid) : date.next.number = date.number + 1 := by
  obtain ⟨hyear, hmonth, hmonth', hday, hday'⟩ := h
  unfold next number dayOfDate
  split_ifs with hinside hsame
  · push_cast
    omega
  · -- the last day of a month
    have hbefore : daysBeforeMonth date.year _ = _ := daysBeforeMonth_succ hmonth hmonth'
    dsimp only
    omega
  · -- the last day of December
    have hyears := daysBeforeYear_succ hyear
    have hdecember : daysBeforeMonth date.year _ = _ := daysBeforeMonth_succ hmonth hmonth'
    have hlast : date.month + 1 = 13 := by omega
    rw [hlast, daysBeforeMonth_thirteen] at hdecember
    have hjanuary : daysBeforeMonth (date.year + 1) 1 = 0 := rfl
    dsimp only
    omega

theorem Valid.next (h : date.Valid) : date.next.Valid := by
  obtain ⟨hyear, hmonth, hmonth', hday, hday'⟩ := h
  unfold Date.next
  split_ifs with hinside hsame
  · exact ⟨hyear, hmonth, hmonth', Nat.le_add_left 1 _, hinside⟩
  · exact ⟨hyear, Nat.le_add_left 1 _, hsame, le_rfl, one_le_daysInMonth (Nat.le_add_left 1 _) hsame⟩
  · have hjanuary : 1 ≤ 12 := Nat.one_le_ofNat
    exact ⟨Nat.le_add_left 1 _, le_rfl, hjanuary, le_rfl, one_le_daysInMonth le_rfl hjanuary⟩

theorem Valid.number_iterate (h : date.Valid) (n : ℕ) : (Date.next^[n] date).number = date.number + n := by
  induction n generalizing date with
  | zero => simp
  | succ n ih =>
    rw [Function.iterate_succ_apply, ih h.next, h.number_next]
    push_cast
    omega

/-! ## Every date is reached -/

theorem valid_first : first.Valid := ⟨le_rfl, le_rfl, by decide, le_rfl, by decide⟩

theorem valid_epoch : epoch.Valid := ⟨by decide, le_rfl, by decide, le_rfl, by decide⟩

/-- A date that is not the first has a day before it. -/
theorem Valid.exists_next_eq (h : date.Valid) (hne : date ≠ first) : ∃ before : Date, before.Valid ∧ before.next = date := by
  obtain ⟨hyear, hmonth, hmonth', hday, hday'⟩ := h
  obtain ⟨year, month, day⟩ := date
  dsimp only at hyear hmonth hmonth' hday hday'
  by_cases hinside : 1 < day
  · refine ⟨⟨year, month, day - 1⟩, ⟨hyear, hmonth, hmonth', by dsimp only; omega, by dsimp only; omega⟩, ?_⟩
    rw [Date.next, if_pos (by dsimp only; omega)]
    simp only [Date.mk.injEq, true_and]
    omega
  · obtain rfl : day = 1 := by omega
    by_cases hsame : 1 < month
    · -- the last day of the month before
      have hlast : 1 ≤ daysInMonth year (month - 1) := one_le_daysInMonth (by omega) (by omega)
      refine ⟨⟨year, month - 1, daysInMonth year (month - 1)⟩,
        ⟨hyear, by dsimp only; omega, by dsimp only; omega, hlast, le_rfl⟩, ?_⟩
      rw [Date.next, if_neg (lt_irrefl _), if_pos (by dsimp only; omega)]
      simp only [Date.mk.injEq, true_and, and_true]
      omega
    · obtain rfl : month = 1 := by omega
      have hyear' : 1 < year := by
        by_contra hless
        obtain rfl : year = 1 := by omega
        exact hne rfl
      refine ⟨⟨year - 1, 12, 31⟩, ⟨Nat.le_sub_one_of_lt hyear', Nat.one_le_ofNat, le_rfl, Nat.one_le_ofNat, le_rfl⟩, ?_⟩
      have hnext : Date.next ⟨year - 1, 12, 31⟩ = ⟨year - 1 + 1, 1, 1⟩ := rfl
      rw [hnext, Nat.sub_add_cancel hyear]

theorem Valid.one_le_number (h : date.Valid) : first.number ≤ date.number := by
  obtain ⟨hyear, hmonth, hmonth', hday, hday'⟩ := h
  have hfirst : first.number = -719162 := by decide
  rw [hfirst, number, dayOfDate, epochDay]
  omega

/-- Every date is reached from the first one. -/
theorem Valid.exists_iterate_first (h : date.Valid) : ∃ n, Date.next^[n] first = date := by
  -- on the days from the first date; a date that is not the first is the day after a valid one
  induction hn : (date.number - first.number).toNat generalizing date with
  | zero =>
    refine ⟨0, ?_⟩
    by_contra hne
    obtain ⟨before, hbefore, rfl⟩ := h.exists_next_eq (Ne.symm hne)
    have hless := hbefore.one_le_number
    rw [hbefore.number_next] at hn
    omega
  | succ n ih =>
    have hne : date ≠ first := by
      intro heq
      rw [heq] at hn
      omega
    obtain ⟨before, hbefore, rfl⟩ := h.exists_next_eq hne
    rw [hbefore.number_next] at hn
    obtain ⟨m, rfl⟩ := ih hbefore (by omega)
    exact ⟨m + 1, Function.iterate_succ_apply' ..⟩

/-- The number that stands for a date counts the days from the epoch to it. -/
theorem Valid.isDay_iff (h : date.Valid) {days : ℤ} : date.IsDay days ↔ days = date.number := by
  have hepoch : epoch.number = 0 := by decide
  constructor
  · rintro ⟨after, before, hmeet, rfl⟩
    have hnumber := congrArg number hmeet
    rw [valid_epoch.number_iterate, h.number_iterate, hepoch] at hnumber
    omega
  · rintro rfl
    obtain ⟨after, hafter⟩ := h.exists_iterate_first
    obtain ⟨before, hbefore⟩ := valid_epoch.exists_iterate_first
    refine ⟨after, before, ?_, ?_⟩
    · -- both are reached from the first date by all of the steps
      rw [← hafter, ← hbefore, ← Function.iterate_add_apply, ← Function.iterate_add_apply, Nat.add_comm]
    · have hnumber := valid_first.number_iterate after
      have hnumber' := valid_first.number_iterate before
      rw [hafter] at hnumber
      rw [hbefore, hepoch] at hnumber'
      omega

end Date

end DocBrowser.Calendar
