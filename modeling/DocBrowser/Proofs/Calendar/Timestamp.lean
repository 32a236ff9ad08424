import Mathlib
import DocBrowser.Calendar.Timestamp
import DocBrowser.Proofs.Text.Digits
/-!
# Instants read back

The date of a day is the one date that the day is counted for, and the text of an instant in UTC
reads back as the same instant, in whatever zone other dates are placed.
-/

namespace DocBrowser

namespace Calendar

/-! ## Days of a year -/

/-- A day within the months from one on is a day of one of them. -/
theorem monthAndDay_spec (month : ℕ) (lengths : List ℕ) (day : ℕ) (h : day < lengths.sum) :
    ∃ i, (monthAndDay month lengths day).1 = month + i ∧ i < lengths.length ∧
      1 ≤ (monthAndDay month lengths day).2 ∧ (monthAndDay month lengths day).2 ≤ lengths.getD i 0 ∧
      (lengths.take i).sum + (monthAndDay month lengths day).2 = day + 1 := by
  induction lengths generalizing month day with
  | nil => simp at h
  | cons length rest ih =>
    rw [monthAndDay]
    split_ifs with hlt
    · exact ⟨0, rfl, by simp, by simp, by simpa using hlt, by simp⟩
    · rw [List.sum_cons] at h
      obtain ⟨i, hmonth, hi, hpos, hle, hsum⟩ := ih (month + 1) (day - length) (by omega)
      refine ⟨i + 1, by omega, by simpa using hi, hpos, by simpa using hle, ?_⟩
      rw [List.take_succ_cons, List.sum_cons]
      omega

theorem daysBeforeMonth_eq_sum (year month : ℕ) :
    daysBeforeMonth year month = ((monthLengths year).take (month - 1)).sum := by
  rw [daysBeforeMonth, List.sum_eq_foldl]

theorem sum_monthLengths (year : ℕ) : (monthLengths year).sum = if isLeap year then 366 else 365 := by
  unfold monthLengths
  split_ifs <;> rfl

/-- A year behind cycles of 400, 100, 4 and 1 years, and a day of it: no cycle could be divided out once more. -/
structure Cycles (c400 c100 c4 c1 year day : ℕ) : Prop where
  year_eq : year = c400 * 400 + c100 * 100 + c4 * 4 + c1 + 1
  c100_le : c100 ≤ 3
  c4_le : c4 ≤ 24
  c1_le : c1 ≤ 3
  day_le : day ≤ 365
  last : day = 365 → c1 = 3 ∧ (c4 = 24 → c100 = 3)

/-- Cycles of years are divided out of a number of days. -/
theorem dateOfOrdinal_cycles (n : ℕ) :
    ∃ c400 c100 c4 c1 year day, Cycles c400 c100 c4 c1 year day ∧
      dateOfOrdinal n = (year, monthAndDay 1 (monthLengths year) day) ∧
      n = c400 * 146097 + c100 * 36524 + c4 * 1461 + c1 * 365 + day := by
  have hcycles (r400 c100 r100 c4 r4 c1 day : ℕ) (h100 : c100 = min (r400 / 36524) 3)
      (hr100 : r100 = r400 - c100 * 36524) (h4 : c4 = r100 / 1461) (hr4 : r4 = r100 % 1461)
      (h1 : c1 = min (r4 / 365) 3) (hday : day = r4 - c1 * 365) (hr400 : r400 < 146097) :
      Cycles (n / 146097) c100 c4 c1 (n / 146097 * 400 + c100 * 100 + c4 * 4 + c1 + 1) day ∧
        r400 = c100 * 36524 + c4 * 1461 + c1 * 365 + day := by
    -- each quotient and its rest first, so that the divisions are gone when they are put together
    have hcentury : r400 = c100 * 36524 + r100 ∧ c100 ≤ 3 ∧ (r100 < 36524 ∨ c100 = 3 ∧ r100 = 36524) := by omega
    have hfour : r100 = c4 * 1461 + r4 ∧ r4 < 1461 := by omega
    have hone : r4 = c1 * 365 + day ∧ c1 ≤ 3 ∧ (day < 365 ∨ c1 = 3 ∧ day = 365) := by omega
    clear h100 hr100 h4 hr4 h1 hday
    refine ⟨⟨rfl, ?_, ?_, ?_, ?_, ?_⟩, ?_⟩ <;> omega
  obtain ⟨h, hn⟩ := hcycles _ _ _ _ _ _ _ rfl rfl rfl rfl rfl rfl (Nat.mod_lt n (by norm_num))
  exact ⟨_, _, _, _, _, _, h, rfl, by omega⟩

section

variable {c400 c100 c4 c1 year day : ℕ} (h : Cycles c400 c100 c4 c1 year day)

include h

/-- Before a year lie the days of its cycles. -/
theorem daysBeforeYear_cycles :
    daysBeforeYear year = c400 * 146097 + c100 * 36524 + c4 * 1461 + c1 * 365 := by
  obtain ⟨hyear, h100, h4, h1, -, -⟩ := h
  have hbefore : year - 1 = c400 * 400 + c100 * 100 + c4 * 4 + c1 := by omega
  have hq4 : (year - 1) / 4 = c400 * 100 + c100 * 25 + c4 := by omega
  have hq100 : (year - 1) / 100 = c400 * 4 + c100 := by omega
  have hq400 : (year - 1) / 400 = c400 := by omega
  simp only [daysBeforeYear, hq4, hq100, hq400]
  omega

/-- A year has the day that is left over. -/
theorem lt_sum_monthLengths : day < (monthLengths year).sum := by
  obtain ⟨hyear, -, h4, -, hday, hlast⟩ := h
  rw [sum_monthLengths]
  split_ifs with hleap
  · omega
  · by_contra hcontra
    obtain ⟨rfl, hcentury⟩ := hlast (by omega)
    -- the year is one of every four, and one of every hundred only if it is one of every four hundred
    apply hleap
    simp only [isLeap, Bool.and_eq_true, Bool.or_eq_true, decide_eq_true_eq]
    omega

end

/-- The date of a day is the one that the day is counted for. -/
theorem dateOfOrdinal_spec (n : ℕ) :
    ∃ year month day, dateOfOrdinal n = (year, month, day) ∧ 1 ≤ year ∧ daysBeforeYear year ≤ n ∧
      1 ≤ month ∧ month ≤ 12 ∧ 1 ≤ day ∧ day ≤ daysInMonth year month ∧
      daysBeforeYear year + daysBeforeMonth year month + day = n + 1 := by
  obtain ⟨c400, c100, c4, c1, year, day, h, hdate, hn⟩ := dateOfOrdinal_cycles n
  have hbefore := daysBeforeYear_cycles h
  obtain ⟨i, hmonth, hi, hpos, hle, hsum⟩ := monthAndDay_spec 1 (monthLengths year) day (lt_sum_monthLengths h)
  have hi12 : i < 12 := hi
  have hyear := h.year_eq
  refine ⟨year, (monthAndDay 1 (monthLengths year) day).1, (monthAndDay 1 (monthLengths year) day).2, hdate,
    by omega, by omega, by omega, by omega, hpos, ?_, ?_⟩
  · rw [hmonth, Nat.add_comm, daysInMonth]
    exact hle
  · rw [daysBeforeMonth_eq_sum, hmonth, Nat.add_sub_cancel_left]
    omega

end Calendar

namespace Timestamp

open Text (ofDigitValues ofDigitValues_append ofDigitValues_replicate_zero ofDigitValues_toDigits
  isDigit_of_mem_toDigits isDecimalDigit_of_isDigit)

/-! ## Fields of instants -/

/-- Whether the fields of a timestamp are those of a date and a time. -/
structure Valid (t : Timestamp) : Prop where
  year_pos : 1 ≤ t.year
  year_le : t.year ≤ 9999
  month_pos : 1 ≤ t.month
  month_le : t.month ≤ 12
  day_pos : 1 ≤ t.day
  day_le : t.day ≤ Calendar.daysInMonth t.year t.month
  hour_le : t.hour ≤ 23
  minute_le : t.minute ≤ 59
  second_le : t.second ≤ 59

/-- No month has more than 31 days. -/
theorem Valid.day_le_31 {t : Timestamp} (h : t.Valid) : t.day ≤ 31 := by
  refine h.day_le.trans ?_
  have hmonth := h.month_pos
  have hmonth' := h.month_le
  generalize t.month = month at hmonth hmonth' ⊢
  interval_cases month <;> simp only [Calendar.daysInMonth, Calendar.monthLengths] <;>
    split_ifs <;> simp

/-- The timestamp of an instant is valid, in UTC, counts whole milliseconds, and counts them right. -/
theorem ofMillis?_spec {millis : ℤ} {t : Timestamp} (h : ofMillis? millis = some t) :
    t.Valid ∧ t.offset = 0 ∧ (∃ ms < 1000, t.microsecond = ms * 1000) ∧ t.millis = millis := by
  unfold ofMillis? at h
  split_ifs at h with hrange
  simp only [firstMilli, lastMilli] at hrange
  -- milliseconds are counted from the first day of the year one on
  set n := (millis - firstMilli).toNat with hn
  have hn' : (n : ℤ) = millis + 62135596800000 := by
    simp only [hn, firstMilli]
    omega
  obtain ⟨year, month, day, hdate, hyear, hbefore, hmonth, hmonth', hday, hday', hsum⟩ :=
    Calendar.dateOfOrdinal_spec (n / 86400000)
  simp only [hdate, Option.some.injEq] at h
  subst h
  refine ⟨⟨hyear, ?_, hmonth, hmonth', hday, hday', ?_, ?_, ?_⟩, rfl, ⟨_, Nat.mod_lt _ (by norm_num), rfl⟩, ?_⟩
  · -- the days before the year 10000 are more than the last millisecond lies behind
    simp only [Calendar.daysBeforeYear] at hbefore
    show year ≤ 9999
    omega
  · show n % 86400000 / 3600000 ≤ 23
    omega
  · show n % 86400000 / 60000 % 60 ≤ 59
    omega
  · show n % 86400000 / 1000 % 60 ≤ 59
    omega
  · simp only [Timestamp.millis, localSecond, Calendar.dayOfDate, Calendar.epochDay, hsum]
    omega

/-! ## Padded numbers -/

theorem length_padded {width n : ℕ} (h : n < 10 ^ width) (hw : 0 < width) : (padded width n).length = width := by
  have hlen := (Nat.length_toDigits_le_iff (b := 10) (by norm_num) hw).2 h
  simp only [padded, List.length_append, List.length_replicate]
  omega

theorem isDigit_of_mem_padded {c : Char} {width n : ℕ} (h : c ∈ padded width n) : c.isDigit = true := by
  rcases List.mem_append.1 h with h | h
  · rw [List.eq_of_mem_replicate h]
    decide
  · exact isDigit_of_mem_toDigits h

theorem mapM_decimalValue? {cs : List Char} (h : ∀ c ∈ cs, c.isDigit = true) :
    cs.mapM Text.decimalValue? = some (cs.map fun c => c.toNat - 48) := by
  induction cs with
  | nil => rfl
  | cons c rest ih =>
    rw [List.mapM_cons, Text.decimalValue?_of_isDigit (h c (by simp)),
      ih fun x hx => h x (List.mem_cons_of_mem _ hx)]
    rfl

theorem ofDigitValues_padded (width n : ℕ) :
    ofDigitValues 10 ((padded width n).map fun c => c.toNat - 48) = n := by
  have hzero : '0'.toNat - 48 = 0 := by decide
  rw [padded, List.map_append, List.map_replicate, hzero, ofDigitValues_append, ofDigitValues_replicate_zero,
    zero_mul, zero_add, ofDigitValues_toDigits]

/-- A padded number that fits its width is read back from in front of any text. -/
theorem takeDigits?_padded {width n : ℕ} (rest : List Char) (h : n < 10 ^ width) (hw : 0 < width) :
    takeDigits? width (padded width n ++ rest) = some (n, rest) := by
  have hlen := length_padded h hw
  have hdigits : ∀ c ∈ padded width n, c.isDigit = true := fun c hc => isDigit_of_mem_padded hc
  have hvalues := mapM_decimalValue? hdigits
  have htake : (padded width n ++ rest).take width = padded width n := by
    rw [List.take_append_of_le_length hlen.ge, List.take_of_length_le hlen.le]
  have hdrop : (padded width n ++ rest).drop width = rest := by
    rw [List.drop_append_of_le_length hlen.ge, List.drop_of_length_le hlen.le, List.nil_append]
  simp only [takeDigits?, htake, hvalues, hdrop, Option.bind_eq_bind, Option.bind_some, List.length_map, hlen,
    if_true, ofDigitValues_padded]

/-! ## Texts in UTC -/

/-- The milliseconds behind the seconds, where there are any. -/
def milliText (ms : ℕ) : List Char := if ms = 0 then [] else '.' :: padded 3 ms

theorem takeSeconds?_milliText {second ms : ℕ} (hsecond : second ≤ 59) (hms : ms < 1000) :
    ∃ fraction, takeSeconds? (':' :: padded 2 second ++ (milliText ms ++ ['Z'])) =
        some (second, fraction, ['Z']) ∧ microseconds fraction = ms * 1000 := by
  have hread (rest : List Char) : takeDigits? 2 (padded 2 second ++ rest) = some (second, rest) :=
    takeDigits?_padded rest (by omega) (by norm_num)
  unfold milliText
  split_ifs with h
  · -- no fraction is written, and none is read
    refine ⟨[], ?_, by rw [h]; rfl⟩
    simp [takeSeconds?, hread]
  · -- three digits are written, and the six of a microsecond are filled up with zeros
    have hlen : (padded 3 ms).length = 3 := length_padded hms (by norm_num)
    have hdigits : ∀ c ∈ padded 3 ms, c.isDigit = true := fun c hc => isDigit_of_mem_padded hc
    have hrun : (padded 3 ms ++ ['Z']).takeWhile Text.isDecimalDigit = padded 3 ms :=
      Text.takeWhile_run (fun c hc => isDecimalDigit_of_isDigit (hdigits c hc)) (Text.stopsAt_cons.2 (by decide))
    refine ⟨(padded 3 ms).map fun c => c.toNat - 48, ?_, ?_⟩
    · simp only [List.cons_append, takeSeconds?, hread, Option.bind_eq_bind, Option.bind_some, hrun, hlen,
        mapM_decimalValue? hdigits]
      simp [hlen]
    · have hsplit : ((padded 3 ms).map (fun c : Char => c.toNat - 48) ++ [0, 0, 0, 0, 0, 0]).take 6 =
          (padded 3 ms).map (fun c : Char => c.toNat - 48) ++ [0, 0, 0] := by
        rw [List.take_append, List.take_of_length_le (by simp [hlen])]
        simp [hlen]
      rw [microseconds, hsplit, ofDigitValues_append, ofDigitValues_padded]
      simp [ofDigitValues]

/-- The text of a timestamp to the millisecond. -/
def utcTextOf (t : Timestamp) (ms : ℕ) : List Char := t.plainText ++ (milliText ms ++ ['Z'])

/-- The text of an instant is ASCII. -/
theorem toNat_lt_of_mem_utcText {millis : ℤ} {text : List Char} (h : utcText? millis = some text) {c : Char}
    (hc : c ∈ text) : c.toNat < 128 := by
  unfold utcText? at h
  split_ifs at h
  obtain ⟨t, -, rfl⟩ := Option.map_eq_some_iff.1 h
  have hpadded (width n : ℕ) : (padded width n).all (fun c => c.toNat < 128) = true := by
    simp only [List.all_eq_true, decide_eq_true_eq]
    intro d hd
    have hval := Text.toNat_of_isDigit (isDigit_of_mem_padded hd)
    omega
  have hall : (t.plainText ++ (if t.microsecond = 0 then [] else '.' :: padded 3 (t.microsecond / 1000)) ++ ['Z']).all
      (fun c => c.toNat < 128) = true := by
    split_ifs <;> simp [plainText, hpadded]
  exact of_decide_eq_true (List.all_eq_true.1 hall c hc)

theorem pieces?_utcTextOf {t : Timestamp} {ms : ℕ} (h : t.Valid) (hms : ms < 1000) :
    ∃ fraction, microseconds fraction = ms * 1000 ∧ pieces? (utcTextOf t ms) = some
      { year := t.year, month := t.month, day := t.day, hour := t.hour, minute := t.minute, second := t.second
        fraction, offset := ['Z'] } := by
  obtain ⟨fraction, hseconds, hfraction⟩ := takeSeconds?_milliText h.second_le hms
  have hdays := h.day_le_31
  refine ⟨fraction, hfraction, ?_⟩
  have hfour (rest : List Char) : takeDigits? 4 (padded 4 t.year ++ rest) = some (t.year, rest) :=
    takeDigits?_padded rest (by have := h.year_le; omega) (by norm_num)
  have htwo (n : ℕ) (hn : n ≤ 99) (rest : List Char) : takeDigits? 2 (padded 2 n ++ rest) = some (n, rest) :=
    takeDigits?_padded rest (by omega) (by norm_num)
  have hmonth := htwo t.month (by have := h.month_le; omega)
  have hday := htwo t.day (by omega)
  have hhour := htwo t.hour (by have := h.hour_le; omega)
  have hminute := htwo t.minute (by have := h.minute_le; omega)
  -- the text in the grouping in which its parts are taken off
  have htail : utcTextOf t ms = padded 4 t.year ++ '-' :: (padded 2 t.month ++ '-' :: (padded 2 t.day ++
      'T' :: (padded 2 t.hour ++ ':' :: (padded 2 t.minute ++
        (':' :: padded 2 t.second ++ (milliText ms ++ ['Z'])))))) := by
    simp [utcTextOf, plainText]
  rw [htail]
  simp only [pieces?, takeChar?, hfour, hmonth, hday, hhour, hminute, hseconds, Option.bind_eq_bind,
    Option.bind_some, if_true]
  simp [isOffset]

theorem check_of_valid {t : Timestamp} (h : t.Valid) : t.check = .ok () := by
  obtain ⟨hyear, hyear', hmonth, hmonth', hday, hday', hhour, hminute, hsecond⟩ := h
  rw [check, if_neg (by omega), if_neg (by omega), if_neg (by omega), if_neg (by omega), if_neg (by omega),
    if_neg (by omega)]

theorem valid_of_check {t : Timestamp} (h : t.check = .ok ()) : t.Valid := by
  unfold check at h
  split_ifs at h
  constructor <;> omega

/-- The text of an instant starts with a digit and ends with a letter. -/
theorem trim_utcTextOf {t : Timestamp} {ms : ℕ} : Text.trim (utcTextOf t ms) = utcTextOf t ms := by
  have hfirst : ∃ d ds, d.isDigit = true ∧ padded 4 t.year = d :: ds := by
    obtain ⟨d, ds, hcons⟩ := List.exists_cons_of_ne_nil
      (show padded 4 t.year ≠ [] by simp [padded, Nat.toDigits_ne_nil])
    exact ⟨d, ds, isDigit_of_mem_padded (hcons ▸ List.mem_cons_self), hcons⟩
  obtain ⟨d, ds, hd, hcons⟩ := hfirst
  apply Text.trim_of_stopsAt
  · simp only [utcTextOf, plainText, hcons, List.cons_append]
    exact Text.stopsAt_cons.2 (Text.isBlank_of_isDigit hd)
  · simp only [utcTextOf, List.reverse_append, List.reverse_singleton, List.cons_append]
    exact Text.stopsAt_cons.2 (by decide)

/-- The text of an instant in UTC reads as that instant in every zone. -/
theorem parse_utcText {millis : ℤ} {text : List Char} (zone : Zone) (h : utcText? millis = some text) :
    ∃ t, parse zone (String.ofList text) = .ok t ∧ t.millis = millis := by
  unfold utcText? at h
  split_ifs at h
  obtain ⟨t, ht, rfl⟩ := Option.map_eq_some_iff.1 h
  obtain ⟨hvalid, hoffset, ⟨ms, hms, hmicro⟩, hmillis⟩ := ofMillis?_spec ht
  -- the milliseconds are left out where they are zero, in both ways to write the text
  have htext : t.plainText ++ (if t.microsecond = 0 then [] else '.' :: padded 3 (t.microsecond / 1000)) ++ ['Z'] =
      utcTextOf t ms := by
    by_cases h0 : ms = 0 <;> simp [utcTextOf, milliText, hmicro, h0]
  obtain ⟨fraction, hfraction, hpieces⟩ := pieces?_utcTextOf hvalid hms
  refine ⟨t, ?_, hmillis⟩
  rw [htext, parse, String.toList_ofList, trim_utcTextOf, hpieces]
  obtain ⟨year, month, day, hour, minute, second, microsecond, offset⟩ := t
  simp only at hoffset hmicro
  subst hoffset hmicro
  have hcheck := check_of_valid hvalid
  simp only [hfraction, readOffset, hcheck]
  rfl

end Timestamp

end DocBrowser
