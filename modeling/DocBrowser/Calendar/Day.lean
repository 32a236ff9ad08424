/-!
# Days of the Gregorian calendar

Days are counted from 1970-01-01; the calendar is extended to all years from 1 to 9999.
-/

namespace DocBrowser.Calendar

/-- Whether a year has a 29 February. -/
def isLeap (year : Nat) : Bool := year % 4 = 0 && (year % 100 ≠ 0 || year % 400 = 0)

/-- The days of the months of a year. -/
def monthLengths (year : Nat) : List Nat :=
  [31, if isLeap year then 29 else 28, 31, 30, 31, 30, 31, 31, 30, 31, 30, 31]

/-- The days of a month; none outside months 1 to 12. -/
def daysInMonth (year month : Nat) : Nat :=
  match month with
  | 0 => 0
  | m + 1 => (monthLengths year).getD m 0

/-- The days of all years before a year. -/
def daysBeforeYear (year : Nat) : Nat :=
  let y := year - 1
  y * 365 + y / 4 - y / 100 + y / 400

/-- The days of a year before a month. -/
def daysBeforeMonth (year month : Nat) : Nat := ((monthLengths year).take (month - 1)).foldl (· + ·) 0

/-- The days from 0001-01-01 to 1970-01-01. -/
def epochDay : Nat := 719162

/-- The day of a date, counted from 1970-01-01. -/
def dayOfDate (year month day : Nat) : Int :=
  (daysBeforeYear year + daysBeforeMonth year month + day : Nat) - 1 - (epochDay : Int)

/-- The month and the day of the month of a day in a year, both from one. -/
def monthAndDay (month : Nat) (lengths : List Nat) (day : Nat) : Nat × Nat :=
  match lengths with
  | [] => (month, day + 1)
  | length :: rest => if day < length then (month, day + 1) else monthAndDay (month + 1) rest (day - length)

/-- The date of a day counted from 0001-01-01: cycles of 400, 100, 4 and 1 years are split off. -/
def dateOfOrdinal (n : Nat) : Nat × Nat × Nat :=
  let n100 := min (n % 146097 / 36524) 3
  let r100 := n % 146097 - n100 * 36524
  let n4 := r100 / 1461
  let r4 := r100 % 1461
  let n1 := min (r4 / 365) 3
  let day := r4 - n1 * 365
  let year := n / 146097 * 400 + n100 * 100 + n4 * 4 + n1 + 1
  let (m, d) := monthAndDay 1 (monthLengths year) day
  (year, m, d)

/-- The day of the week, Sunday being 0, of a day counted from 1970-01-01. -/
def weekday (day : Int) : Nat := ((day + 4) % 7).toNat

end DocBrowser.Calendar
