import Mathlib
import DocBrowser.Proofs.Calendar.Dates
import DocBrowser.Proofs.Failure
/-!
# Written timestamps

A timestamp is written as a date, or as a date and a time of day with seconds, a fraction and an offset where these
are given. Exactly what is written so, with fields that the calendar and the clock have, is read, and the point in
time is told by the days from the epoch, the second of the day and the offset.
-/

namespace DocBrowser.Timestamp

/-! ## How timestamps are written -/

/-- Whether characters are decimal digits, of any script, with the given values. -/
def Digits (cs : List Char) (ds : List ℕ) : Prop := List.Forall₂ (fun c d => Text.decimalValue? c = some d) cs ds

/-- Whether a text is a number in so many digits. -/
def Numeral (width : ℕ) (cs : List Char) (n : ℕ) : Prop :=
  ∃ ds, Digits cs ds ∧ ds.length = width ∧ Nat.ofDigits 10 ds.reverse = n

/-- An offset as it is written. -/
structure Shift where
  west : Bool
  hours : ℕ
  minutes : ℕ

/-- The seconds of an offset, east of UTC. -/
def Shift.seconds (shift : Shift) : ℤ :=
  if shift.west then -(shift.hours * 3600 + shift.minutes * 60) else shift.hours * 3600 + shift.minutes * 60

/-- What is written of a point in time. -/
structure Reading where
  date : Calendar.Date
  hour : ℕ
  minute : ℕ
  second : ℕ
  /-- The digits of the fraction of the second. -/
  fraction : List ℕ
  shift : Option Shift

/-- A date is written as its year, its month and its day. -/
inductive DateText : List Char → Calendar.Date → Prop where
  | mk {year month day : List Char} {date : Calendar.Date} (hyear : Numeral 4 year date.year)
    (hmonth : Numeral 2 month date.month) (hday : Numeral 2 day date.day) :
    DateText (year ++ '-' :: (month ++ '-' :: day)) date

/-- Seconds may be missing; behind them there may be up to nine digits of a fraction. -/
inductive SecondsText : List Char → ℕ → List ℕ → Prop where
  | missing : SecondsText [] 0 []
  | whole {digits : List Char} {second : ℕ} (hsecond : Numeral 2 digits second) :
    SecondsText (':' :: digits) second []
  | fraction {digits more : List Char} {second : ℕ} {ds : List ℕ} (hsecond : Numeral 2 digits second)
    (hmore : Digits more ds) (hpos : 1 ≤ ds.length) (hle : ds.length ≤ 9) :
    SecondsText (':' :: (digits ++ '.' :: more)) second ds

/-- An offset may be missing; else it is a letter for UTC, or a sign with hours and minutes. -/
inductive OffsetText : List Char → Option Shift → Prop where
  | missing : OffsetText [] none
  | utc {mark : Char} (hmark : mark = 'Z' ∨ mark = 'z') : OffsetText [mark] (some ⟨false, 0, 0⟩)
  | signed {sign : Char} {west : Bool} {hours colon minutes : List Char} {h m : ℕ}
    (hsign : sign = '+' ∧ west = false ∨ sign = '-' ∧ west = true) (hhours : Numeral 2 hours h)
    (hcolon : colon = [] ∨ colon = [':']) (hminutes : Numeral 2 minutes m) :
    OffsetText (sign :: (hours ++ (colon ++ minutes))) (some ⟨west, h, m⟩)

/-- Whether a text is a timestamp, and of what. -/
inductive Written : List Char → Reading → Prop where
  | date {front : List Char} {date : Calendar.Date} (hdate : DateText front date) :
    Written front ⟨date, 0, 0, 0, [], none⟩
  | time {front hours minutes seconds behind : List Char} {mark : Char} {date : Calendar.Date}
    {hour minute second : ℕ} {fraction : List ℕ} {shift : Option Shift} (hdate : DateText front date)
    (hmark : mark = 'T' ∨ mark = ' ') (hhour : Numeral 2 hours hour) (hminute : Numeral 2 minutes minute)
    (hseconds : SecondsText seconds second fraction) (hshift : OffsetText behind shift) :
    Written (front ++ mark :: (hours ++ ':' :: (minutes ++ (seconds ++ behind))))
      ⟨date, hour, minute, second, fraction, shift⟩

namespace Reading

/-- Whether the calendar has the date and the clock has the time and the offset. -/
structure InRange (r : Reading) : Prop where
  year_le : r.date.year ≤ 9999
  date_valid : r.date.Valid
  hour_le : r.hour ≤ 23
  minute_le : r.minute ≤ 59
  second_le : r.second ≤ 59
  shift_le : ∀ shift ∈ r.shift, shift.hours ≤ 23 ∧ shift.minutes ≤ 59

/-- The seconds since midnight. -/
def secondOfDay (r : Reading) : ℕ := r.hour * 3600 + r.minute * 60 + r.second

/-- The first three digits of the fraction, filled up with zeros. -/
def milli (r : Reading) : ℕ := Nat.ofDigits 10 ((r.fraction ++ [0, 0, 0]).take 3).reverse

/-- The offset, in seconds east of UTC: the one that is written, and that of the zone where none is. -/
def offset (zone : Zone) (days : ℤ) (r : Reading) : ℤ :=
  match r.shift, zone with
  | some shift, _ => shift.seconds
  | none, .utc => 0
  | none, .fixed seconds => seconds
  | none, .region region => region.offsetAt r.date.year (days * 86400 + r.secondOfDay)

end Reading

/-! ## Digits -/

theorem Digits.forall_lt {cs : List Char} {ds : List ℕ} (h : Digits cs ds) : ∀ d ∈ ds, d < 10 := by
  intro d hd
  obtain ⟨c, -, hc⟩ := exists_of_forall₂_of_mem h.flip hd
  exact Text.lt_of_decimalValue? hc

theorem Digits.isDecimalDigit {cs : List Char} {ds : List ℕ} (h : Digits cs ds) :
    ∀ c ∈ cs, Text.isDecimalDigit c = true := by
  intro c hc
  obtain ⟨d, -, hd⟩ := exists_of_forall₂_of_mem h hc
  rw [Text.isDecimalDigit, hd, Option.isSome_some]

theorem mapM_decimalValue?_eq_some_iff {cs : List Char} {ds : List ℕ} :
    cs.mapM Text.decimalValue? = some ds ↔ Digits cs ds := by
  unfold Digits
  induction cs generalizing ds with
  | nil =>
    rw [List.mapM_nil, List.forall₂_nil_left_iff]
    exact ⟨fun h => by cases h; rfl, fun h => by rw [h]; rfl⟩
  | cons c cs ih =>
    rw [List.mapM_cons, List.forall₂_cons_left_iff]
    constructor
    · intro h
      obtain ⟨d, hd, h⟩ := Option.bind_eq_some_iff.1 h
      obtain ⟨rest, hrest, h⟩ := Option.bind_eq_some_iff.1 h
      cases h
      exact ⟨d, rest, hd, ih.1 hrest, rfl⟩
    · rintro ⟨d, rest, hd, hrest, rfl⟩
      rw [hd, ih.2 hrest]
      rfl

/-- Digits of any script have values, one for each. -/
theorem exists_digits {cs : List Char} (h : ∀ c ∈ cs, Text.isDecimalDigit c = true) : ∃ ds, Digits cs ds := by
  induction cs with
  | nil => exact ⟨[], .nil⟩
  | cons c cs ih =>
    rw [List.forall_mem_cons] at h
    obtain ⟨d, hd⟩ := Option.isSome_iff_exists.1 h.1
    obtain ⟨ds, hds⟩ := ih h.2
    exact ⟨d :: ds, .cons hd hds⟩

theorem Numeral.length_eq {width n : ℕ} {cs : List Char} (h : Numeral width cs n) : cs.length = width := by
  obtain ⟨ds, hds, hlen, -⟩ := h
  rw [hds.length_eq, hlen]

theorem Numeral.isDecimalDigit {width n : ℕ} {cs : List Char} (h : Numeral width cs n) :
    ∀ c ∈ cs, Text.isDecimalDigit c = true := by
  obtain ⟨ds, hds, -, -⟩ := h
  exact hds.isDecimalDigit

theorem exists_numeral {cs : List Char} (h : ∀ c ∈ cs, Text.isDecimalDigit c = true) :
    ∃ n, Numeral cs.length cs n := by
  obtain ⟨ds, hds⟩ := exists_digits h
  exact ⟨_, ds, hds, hds.length_eq.symm, rfl⟩

/-! ## Reading the parts -/

/-- Exactly the numbers in so many digits are taken off a text. -/
theorem takeDigits?_eq_some_iff {width n : ℕ} {cs rest : List Char} :
    takeDigits? width cs = some (n, rest) ↔ ∃ digits, Numeral width digits n ∧ cs = digits ++ rest := by
  constructor
  · intro h
    obtain ⟨ds, hds, h⟩ := Option.bind_eq_some_iff.1 h
    rw [mapM_decimalValue?_eq_some_iff] at hds
    split_ifs at h with hlen
    cases h
    exact ⟨cs.take width, ⟨ds, hds, hlen, (Text.ofDigitValues_eq_ofDigits 10 ds).symm⟩, (List.take_append_drop _ _).symm⟩
  · rintro ⟨digits, hdigits, rfl⟩
    have hwidth := hdigits.length_eq
    obtain ⟨ds, hds, hlen, rfl⟩ := hdigits
    rw [takeDigits?, List.take_left' hwidth, List.drop_left' hwidth, mapM_decimalValue?_eq_some_iff.2 hds,
      ← Text.ofDigitValues_eq_ofDigits]
    exact if_pos hlen

theorem Numeral.takeDigits? {width n : ℕ} {digits : List Char} (h : Numeral width digits n) (rest : List Char) :
    takeDigits? width (digits ++ rest) = some (n, rest) := takeDigits?_eq_some_iff.2 ⟨digits, h, rfl⟩

theorem takeChar?_eq_some_iff {c : Char} {cs rest : List Char} : takeChar? c cs = some rest ↔ cs = c :: rest := by
  cases cs with
  | nil => simp [takeChar?]
  | cons d cs => simp [takeChar?]

theorem takeChar?_cons (c : Char) (rest : List Char) : takeChar? c (c :: rest) = some rest :=
  takeChar?_eq_some_iff.2 rfl

/-- What starts an offset goes on with nothing of a time. -/
theorem OffsetText.head_mem {cs : List Char} {shift : Option Shift} (h : OffsetText cs shift) :
    ∀ c ∈ cs.head?, c ∈ ['Z', 'z', '+', '-'] := by
  cases h with
  | missing => simp
  | utc hmark => rcases hmark with rfl | rfl <;> simp
  | signed hsign => rcases hsign with ⟨rfl, -⟩ | ⟨rfl, -⟩ <;> simp

theorem OffsetText.stopsAt {cs : List Char} {shift : Option Shift} (h : OffsetText cs shift) :
    Text.StopsAt Text.isDecimalDigit cs := by
  cases h with
  | missing => exact Text.stopsAt_nil _
  | utc hmark => rcases hmark with rfl | rfl <;> exact Text.stopsAt_cons.2 (by decide)
  | signed hsign => rcases hsign with ⟨rfl, -⟩ | ⟨rfl, -⟩ <;> exact Text.stopsAt_cons.2 (by decide)

theorem OffsetText.ne_cons {cs : List Char} {shift : Option Shift} (h : OffsetText cs shift) {c : Char}
    (hc : c ∉ ['Z', 'z', '+', '-']) (rest : List Char) : cs ≠ c :: rest := by
  rintro rfl
  exact hc (h.head_mem c rfl)

/-- Seconds in front of an offset are taken off, with their fraction. -/
theorem SecondsText.takeSeconds? {cs rest : List Char} {second : ℕ} {fraction : List ℕ} {shift : Option Shift}
    (h : SecondsText cs second fraction) (hrest : OffsetText rest shift) :
    takeSeconds? (cs ++ rest) = some (second, fraction, rest) := by
  cases h with
  | missing =>
    -- the offset is not taken for seconds, nor below for a fraction or more digits of one
    rw [List.nil_append, Timestamp.takeSeconds?]
    intro more
    exact hrest.ne_cons (by decide) more
  | whole hsecond =>
    rw [List.cons_append, Timestamp.takeSeconds?, hsecond.takeDigits?, Option.bind_eq_bind, Option.bind_some]
    dsimp only
    split
    · rename_i more
      exact absurd rfl (hrest.ne_cons (by decide) more)
    · rfl
  | fraction hsecond hmore hpos hle =>
    rename_i digits more
    have hrun : (more ++ rest).takeWhile Text.isDecimalDigit = more :=
      Text.takeWhile_run hmore.isDecimalDigit hrest.stopsAt
    have hlen := hmore.length_eq
    rw [List.cons_append, List.append_assoc, Timestamp.takeSeconds?, hsecond.takeDigits?, Option.bind_eq_bind,
      Option.bind_some, List.cons_append]
    simp only [hrun]
    rw [if_neg (by omega), mapM_decimalValue?_eq_some_iff.2 hmore, List.drop_left]
    rfl

/-- What is taken off as seconds is written so. -/
theorem exists_of_takeSeconds? {cs rest : List Char} {second : ℕ} {fraction : List ℕ}
    (h : takeSeconds? cs = some (second, fraction, rest)) :
    ∃ seconds, SecondsText seconds second fraction ∧ cs = seconds ++ rest := by
  unfold takeSeconds? at h
  split at h
  · obtain ⟨⟨n, behind⟩, hdigits, hbehind⟩ := Option.bind_eq_some_iff.1 h
    obtain ⟨digits, hnumeral, rfl⟩ := takeDigits?_eq_some_iff.1 hdigits
    dsimp only at hbehind
    -- seconds with a fraction, seconds alone, and below no seconds at all
    split at hbehind
    · rename_i more
      split_ifs at hbehind with hcount
      obtain ⟨ds, hds, heq⟩ := Option.bind_eq_some_iff.1 hbehind
      rw [mapM_decimalValue?_eq_some_iff] at hds
      cases heq
      have hlen := hds.length_eq
      refine ⟨_, .fraction hnumeral hds (by omega) (by omega), ?_⟩
      rw [List.cons_append, List.append_assoc, List.cons_append, Text.drop_length_takeWhile,
        List.takeWhile_append_dropWhile]
    · cases hbehind
      exact ⟨_, .whole hnumeral, rfl⟩
  · cases h
    exact ⟨[], .missing, rfl⟩

/-- Exactly what is written as an offset is taken for one. -/
theorem isOffset_iff {cs : List Char} : isOffset cs = true ↔ ∃ shift, OffsetText cs shift := by
  constructor
  · intro h
    unfold isOffset at h
    split at h
    · exact ⟨_, .missing⟩
    · exact ⟨_, .utc (.inl rfl)⟩
    · exact ⟨_, .utc (.inr rfl)⟩
    · rename_i sign a b rest
      simp only [Bool.and_eq_true, Bool.or_eq_true, decide_eq_true_eq] at h
      obtain ⟨⟨hsign, hhours⟩, hminutes⟩ := h
      obtain ⟨hour, hhour⟩ := exists_numeral (List.all_eq_true.1 hhours)
      have hwest : ∃ west, sign = '+' ∧ west = false ∨ sign = '-' ∧ west = true := by
        rcases hsign with rfl | rfl
        · exact ⟨false, .inl ⟨rfl, rfl⟩⟩
        · exact ⟨true, .inr ⟨rfl, rfl⟩⟩
      obtain ⟨west, hwest⟩ := hwest
      -- with a colon between hours and minutes or without one
      split at hminutes
      · obtain ⟨minute, hminute⟩ := exists_numeral (List.all_eq_true.1 hminutes)
        exact ⟨_, .signed hwest hhour (.inr rfl) hminute⟩
      · obtain ⟨minute, hminute⟩ := exists_numeral (List.all_eq_true.1 hminutes)
        exact ⟨_, .signed hwest hhour (.inl rfl) hminute⟩
      · cases hminutes
    · cases h
  · rintro ⟨shift, h⟩
    cases h with
    | missing => rfl
    | utc hmark => rcases hmark with rfl | rfl <;> rfl
    | signed hsign hhours hcolon hminutes =>
      -- the check matches on the characters, so the four digits are spelled out
      obtain ⟨a, b, rfl⟩ := List.length_eq_two.1 hhours.length_eq
      obtain ⟨c, d, rfl⟩ := List.length_eq_two.1 hminutes.length_eq
      have hhours' := List.all_eq_true.2 hhours.isDecimalDigit
      have hminutes' := List.all_eq_true.2 hminutes.isDecimalDigit
      rcases hcolon with rfl | rfl <;> rcases hsign with ⟨rfl, -⟩ | ⟨rfl, -⟩ <;>
        simp only [isOffset, List.cons_append, List.nil_append, hhours', hminutes'] <;> rfl

/-! ## Reading the pieces -/

/-- The pieces of a reading, its offset still as it is written. -/
def Reading.pieces (r : Reading) (behind : List Char) : Pieces :=
  { year := r.date.year, month := r.date.month, day := r.date.day, hour := r.hour, minute := r.minute
    second := r.second, fraction := r.fraction, offset := behind }

theorem Written.exists_pieces {cs : List Char} {r : Reading} (h : Written cs r) :
    ∃ behind, OffsetText behind r.shift ∧ pieces? cs = some (r.pieces behind) := by
  cases h with
  | date hdate =>
    obtain ⟨hyear, hmonth, hday⟩ := hdate
    have hday := hday.takeDigits? []
    -- a date alone ends with its day: the text behind it is empty and says nothing of an offset
    rw [List.append_nil] at hday
    refine ⟨[], .missing, ?_⟩
    simp only [pieces?, hyear.takeDigits?, hmonth.takeDigits?, hday, takeChar?_cons, Option.bind_eq_bind,
      Option.bind_some]
    rfl
  | time hdate hmark hhour hminute hseconds hshift =>
    obtain ⟨hyear, hmonth, hday⟩ := hdate
    have hoffset := isOffset_iff.2 ⟨_, hshift⟩
    refine ⟨_, hshift, ?_⟩
    simp only [pieces?, List.append_assoc, List.cons_append, hyear.takeDigits?, hmonth.takeDigits?, hday.takeDigits?,
      hhour.takeDigits?, hminute.takeDigits?, takeChar?_cons, hseconds.takeSeconds? hshift, hoffset,
      Option.bind_eq_bind, Option.bind_some, if_true]
    rcases hmark with rfl | rfl <;> rfl

theorem exists_written_of_pieces? {cs : List Char} {p : Pieces} (h : pieces? cs = some p) :
    ∃ r behind, Written cs r ∧ OffsetText behind r.shift ∧ p = r.pieces behind := by
  obtain ⟨⟨y, afterYear⟩, hyear, hread⟩ := Option.bind_eq_some_iff.1 h
  obtain ⟨fromMonth, hdash, hread⟩ := Option.bind_eq_some_iff.1 hread
  obtain ⟨⟨m, afterMonth⟩, hmonth, hread⟩ := Option.bind_eq_some_iff.1 hread
  obtain ⟨fromDay, hdash', hread⟩ := Option.bind_eq_some_iff.1 hread
  obtain ⟨⟨d, afterDay⟩, hday, hread⟩ := Option.bind_eq_some_iff.1 hread
  -- the date is what stands in front of what is left
  have hdate : ∃ front, DateText front ⟨y, m, d⟩ ∧ cs = front ++ afterDay := by
    obtain ⟨year, hyearText, rfl⟩ := takeDigits?_eq_some_iff.1 hyear
    obtain rfl := takeChar?_eq_some_iff.1 hdash
    obtain ⟨month, hmonthText, rfl⟩ := takeDigits?_eq_some_iff.1 hmonth
    obtain rfl := takeChar?_eq_some_iff.1 hdash'
    obtain ⟨day, hdayText, rfl⟩ := takeDigits?_eq_some_iff.1 hday
    refine ⟨_, .mk hyearText hmonthText hdayText, ?_⟩
    simp only [List.append_assoc, List.cons_append]
  obtain ⟨front, hdate, rfl⟩ := hdate
  dsimp only at hread
  split at hread
  · cases hread
    rw [List.append_nil]
    exact ⟨_, [], .date hdate, .missing, rfl⟩
  · rename_i mark fromHour
    split_ifs at hread with hmark
    obtain ⟨⟨hour, afterHour⟩, hhour, hread⟩ := Option.bind_eq_some_iff.1 hread
    obtain ⟨fromMinute, hcolon, hread⟩ := Option.bind_eq_some_iff.1 hread
    obtain ⟨⟨minute, afterMinute⟩, hminute, hread⟩ := Option.bind_eq_some_iff.1 hread
    obtain ⟨⟨second, fraction, behind⟩, hseconds, hread⟩ := Option.bind_eq_some_iff.1 hread
    dsimp only at hread
    split_ifs at hread with hoffset
    cases hread
    obtain ⟨hours, hhourText, rfl⟩ := takeDigits?_eq_some_iff.1 hhour
    obtain rfl := takeChar?_eq_some_iff.1 hcolon
    obtain ⟨minutes, hminuteText, rfl⟩ := takeDigits?_eq_some_iff.1 hminute
    obtain ⟨seconds, hsecondsText, rfl⟩ := exists_of_takeSeconds? hseconds
    obtain ⟨shift, hshift⟩ := isOffset_iff.1 hoffset
    rw [not_and_or, not_not, not_not] at hmark
    -- what is left behind the seconds is the offset as it is written
    exact ⟨_, behind, .time hdate hmark hhourText hminuteText hsecondsText hshift, hshift, rfl⟩

/-! ## Offsets -/

theorem Numeral.ofDigitValues_filterMap {width n : ℕ} {cs : List Char} (h : Numeral width cs n) :
    (cs.filterMap Text.decimalValue?).length = width ∧
      Text.ofDigitValues 10 (cs.filterMap Text.decimalValue?) = n := by
  obtain ⟨ds, hds, hlen, hvalue⟩ := h
  have hvalues : cs.filterMap Text.decimalValue? = ds := by
    clear hlen hvalue
    induction hds with
    | nil => rfl
    | cons hc _ ih => rw [List.filterMap_cons_some hc, ih]
  rw [hvalues, Text.ofDigitValues_eq_ofDigits]
  exact ⟨hlen, hvalue⟩

/-- The hours and the minutes of an offset are found with or without a colon between them. -/
theorem offsetParts_append {hours colon minutes : List Char} {h m : ℕ} (hhours : Numeral 2 hours h)
    (hcolon : colon = [] ∨ colon = [':']) (hminutes : Numeral 2 minutes m) :
    offsetParts (hours ++ (colon ++ minutes)) = (h, m) := by
  -- the colon is filtered out before the digits are counted, and no digit goes with it
  have hdigits {cs : List Char} {n : ℕ} (hcs : Numeral 2 cs n) : cs.filter (· ≠ ':') = cs := by
    rw [List.filter_eq_self]
    intro c hc
    rw [decide_eq_true_eq]
    rintro rfl
    have hcolon := hcs.isDecimalDigit _ hc
    rw [show Text.isDecimalDigit ':' = false by decide] at hcolon
    cases hcolon
  have hnone : colon.filter (· ≠ ':') = [] := by
    rcases hcolon with rfl | rfl <;> rfl
  obtain ⟨hlen, hvalue⟩ := hhours.ofDigitValues_filterMap
  obtain ⟨-, hvalue'⟩ := hminutes.ofDigitValues_filterMap
  unfold offsetParts
  rw [List.filter_append, List.filter_append, hdigits hhours, hdigits hminutes, hnone, List.nil_append,
    List.filterMap_append]
  dsimp only
  rw [List.take_left' hlen, List.drop_left' hlen, hvalue, hvalue']

/-- A written offset is read if the clock has its hours and minutes. -/
theorem OffsetText.readOffset_eq_ok_iff {cs : List Char} {shift : Option Shift} (h : OffsetText cs shift)
    {offset : Option ℤ} : readOffset cs = .ok offset ↔
      (∀ s ∈ shift, s.hours ≤ 23 ∧ s.minutes ≤ 59) ∧ offset = shift.map Shift.seconds := by
  cases h with
  | missing => simp [readOffset, eq_comm]
  | utc hmark => rcases hmark with rfl | rfl <;> simp [readOffset, Shift.seconds, eq_comm]
  | signed hsign hhours hcolon hminutes =>
    rename_i sign west hours colon minutes hour minute
    have hparts := offsetParts_append hhours hcolon hminutes
    have hread : readOffset (sign :: (hours ++ (colon ++ minutes))) =
        if 23 < hour ∨ 59 < minute then .error (.offset (String.ofList (sign :: (hours ++ (colon ++ minutes)))))
        else .ok (some (Shift.seconds ⟨west, hour, minute⟩)) := by
      rcases hsign with ⟨rfl, rfl⟩ | ⟨rfl, rfl⟩ <;> rw [readOffset, hparts] <;> simp [Shift.seconds]
    rw [hread]
    split_ifs with hrange
    · -- the clock has no such offset
      simp only [Option.mem_def, Option.some.injEq, forall_eq', false_iff, not_and]
      omega
    · rw [not_or, not_lt, not_lt] at hrange
      simp [hrange, eq_comm]

/-! ## The point in time -/

theorem Written.forall_fraction_lt {cs : List Char} {r : Reading} (h : Written cs r) : ∀ d ∈ r.fraction, d < 10 := by
  cases h with
  | date => exact List.forall_mem_nil _
  | time _ _ _ _ hseconds =>
    cases hseconds with
    | fraction _ hmore => exact hmore.forall_lt
    | _ => exact List.forall_mem_nil _

theorem forall_lt_filled {fraction : List ℕ} (h : ∀ d ∈ fraction, d < 10) :
    ∀ d ∈ fraction ++ [0, 0, 0, 0, 0, 0], d < 10 := by
  intro d hd
  rcases List.mem_append.1 hd with hd | hd
  · exact h d hd
  · rw [List.eq_of_mem_replicate (n := 6) hd]
    decide

/-- Of the digits of a fraction, those behind the third are less than a millisecond. -/
theorem microseconds_div {r : Reading} (h : ∀ d ∈ r.fraction, d < 10) : microseconds r.fraction / 1000 = r.milli := by
  have hsplit : ∃ behind : List ℕ, behind.length = 3 ∧ (∀ d ∈ behind, d < 10) ∧
      (r.fraction ++ [0, 0, 0, 0, 0, 0]).take 6 = (r.fraction ++ [0, 0, 0]).take 3 ++ behind := by
    refine ⟨((r.fraction ++ [0, 0, 0, 0, 0, 0]).drop 3).take 3, by simp, ?_, ?_⟩
    · intro d hd
      exact forall_lt_filled h d (List.mem_of_mem_drop (List.mem_of_mem_take hd))
    · have hthree : (r.fraction ++ [0, 0, 0]).take 3 = ((r.fraction ++ [0, 0, 0]) ++ [0, 0, 0]).take 3 :=
        (List.take_append_of_le_length (by simp)).symm
      rw [hthree, List.append_assoc]
      exact List.take_add (i := 3) (j := 3)
  obtain ⟨behind, hlength, hbehind, hsplit⟩ := hsplit
  have hlt := Text.ofDigitValues_lt hbehind
  rw [hlength] at hlt
  rw [microseconds, hsplit, Text.ofDigitValues_append, hlength, Reading.milli, ← Text.ofDigitValues_eq_ofDigits]
  omega

namespace Reading

/-- The timestamp of a reading, without an offset. -/
def unplaced (r : Reading) : Timestamp :=
  { year := r.date.year, month := r.date.month, day := r.date.day, hour := r.hour, minute := r.minute
    second := r.second, microsecond := microseconds r.fraction, offset := 0 }

/-- The timestamp of a reading at its offset, or in a zone. -/
def placed (r : Reading) (zone : Zone) : Timestamp :=
  { r.unplaced with
    offset := (r.shift.map Shift.seconds).getD (zone.offsetAt r.unplaced.year r.unplaced.localSecond) }

theorem inRange_iff {r : Reading} :
    r.InRange ↔ (∀ shift ∈ r.shift, shift.hours ≤ 23 ∧ shift.minutes ≤ 59) ∧ r.unplaced.Valid := by
  constructor
  · rintro ⟨hyear, hdate, hhour, hminute, hsecond, hshift⟩
    exact ⟨hshift, hdate.year_pos, hyear, hdate.month_pos, hdate.month_le, hdate.day_pos, hdate.day_le, hhour, hminute,
      hsecond⟩
  · rintro ⟨hshift, h⟩
    exact ⟨h.year_le, ⟨h.year_pos, h.month_pos, h.month_le, h.day_pos, h.day_le⟩, h.hour_le, h.minute_le, h.second_le,
      hshift⟩

theorem localSecond_unplaced (r : Reading) : r.unplaced.localSecond = r.date.number * 86400 + r.secondOfDay := by
  have hday : Calendar.dayOfDate r.unplaced.year r.unplaced.month r.unplaced.day = r.date.number := rfl
  rw [localSecond, hday, secondOfDay]
  simp only [unplaced]
  push_cast
  ring

theorem offset_placed (r : Reading) (zone : Zone) : (r.placed zone).offset = r.offset zone r.date.number := by
  unfold placed Reading.offset
  rw [localSecond_unplaced]
  cases r.shift with
  | some shift => rfl
  | none => cases zone <;> rfl

/-- The point in time of a reading is told by the day, the second of the day and the offset. -/
theorem millis_placed {r : Reading} (zone : Zone) (h : ∀ d ∈ r.fraction, d < 10) : (r.placed zone).millis =
    1000 * (r.date.number * 86400 + r.secondOfDay - r.offset zone r.date.number) + r.milli := by
  have hlocal : (r.placed zone).localSecond = r.unplaced.localSecond := rfl
  have hmicro : (r.placed zone).microsecond = microseconds r.fraction := rfl
  rw [millis, hlocal, hmicro, localSecond_unplaced, offset_placed, microseconds_div h]
  ring

theorem parse_of_pieces? {zone : Zone} {text : String} {r : Reading} {behind : List Char} {t : Timestamp}
    (hpieces : pieces? (Text.trim text.toList) = some (r.pieces behind)) (hbehind : OffsetText behind r.shift) :
    parse zone text = .ok t ↔ r.InRange ∧ t = r.placed zone := by
  -- once the pieces are known, an offset and a range check are all that can fail
  have hparse : parse zone text = readOffset behind >>= fun offset => r.unplaced.check >>= fun _ =>
      .ok { r.unplaced with offset := offset.getD (zone.offsetAt r.unplaced.year r.unplaced.localSecond) } := by
    rw [parse, hpieces]
    rfl
  rw [hparse, inRange_iff, bind_eq_ok]
  constructor
  · rintro ⟨offset, hoffset, h⟩
    obtain ⟨⟨⟩, hcheck, h⟩ := bind_eq_ok.1 h
    obtain ⟨hshift, rfl⟩ := hbehind.readOffset_eq_ok_iff.1 hoffset
    cases h
    exact ⟨⟨hshift, valid_of_check hcheck⟩, rfl⟩
  · rintro ⟨⟨hshift, hvalid⟩, rfl⟩
    exact ⟨_, hbehind.readOffset_eq_ok_iff.2 ⟨hshift, rfl⟩, bind_eq_ok.2 ⟨(), check_of_valid hvalid, rfl⟩⟩

end Reading

/-- Exactly what is written as a timestamp with fields in range is read, at its own offset or in the zone. -/
theorem parse_eq_ok_iff {zone : Zone} {text : String} {t : Timestamp} :
    parse zone text = .ok t ↔ ∃ r, Written (Text.trim text.toList) r ∧ r.InRange ∧ t = r.placed zone := by
  constructor
  · intro hparse
    cases hpieces : pieces? (Text.trim text.toList) with
    | none =>
      rw [parse, hpieces] at hparse
      cases hparse
    | some p =>
      obtain ⟨r, behind, hwritten, hbehind, rfl⟩ := exists_written_of_pieces? hpieces
      exact ⟨r, hwritten, (Reading.parse_of_pieces? hpieces hbehind).1 hparse⟩
  · rintro ⟨r, hwritten, hplaced⟩
    obtain ⟨behind, hbehind, hpieces⟩ := hwritten.exists_pieces
    exact (Reading.parse_of_pieces? hpieces hbehind).2 hplaced

/--
A text is read as a timestamp exactly if it is written as one, apart from white space around it, and its fields are
in range. Its milliseconds are counted by the days from the epoch to its date, the second of the day, the offset, and
the first three digits of the fraction.
-/
theorem exists_parse_millis_iff (zone : Zone) (text : String) (millis : ℤ) :
    (∃ t, parse zone text = .ok t ∧ t.millis = millis) ↔
      ∃ r days, Written (Text.trim text.toList) r ∧ r.InRange ∧ r.date.IsDay days ∧
        millis = 1000 * (days * 86400 + r.secondOfDay - r.offset zone days) + r.milli := by
  constructor
  · rintro ⟨t, hparse, rfl⟩
    obtain ⟨r, hwritten, hrange, rfl⟩ := parse_eq_ok_iff.1 hparse
    have hdays := hrange.date_valid.isDay_iff.2 rfl
    exact ⟨r, r.date.number, hwritten, hrange, hdays, r.millis_placed zone hwritten.forall_fraction_lt⟩
  · rintro ⟨r, days, hwritten, hrange, hdays, rfl⟩
    rw [hrange.date_valid.isDay_iff.1 hdays]
    have hparse : parse zone text = .ok (r.placed zone) := parse_eq_ok_iff.2 ⟨r, hwritten, hrange, rfl⟩
    exact ⟨r.placed zone, hparse, r.millis_placed zone hwritten.forall_fraction_lt⟩

/-- The last second before the epoch, a day but for a minute to the west. -/
example : (parse .utc " 1969-12-31 23:59:59.99999-2359\n").map millis = .ok 86339999 := by cbv

end DocBrowser.Timestamp
