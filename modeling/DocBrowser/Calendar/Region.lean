import DocBrowser.Calendar.Day
/-!
# Regions and their offsets from UTC

A region lists the instants at which its offset changed. After the last of them the offset
alternates by a yearly rule, where the region has one. Local times that a change skips or repeats
are read with the offset from before the change.
-/

namespace DocBrowser.Calendar

/-- The day of a month on which the clocks change, and the local second of that day. -/
structure SeasonChange where
  month : Nat
  /-- Which of the days of the month with the same name, 5 for the last one. -/
  week : Nat
  second : Int
  /-- The day of the week, counted from Sunday. -/
  day : Nat := 0
  deriving DecidableEq, Repr

/-- The yearly alternation between standard and summer time. -/
structure Seasons where
  standard : Int
  summer : Int
  toSummer : SeasonChange
  toStandard : SeasonChange
  deriving DecidableEq, Repr

/-- A region: offsets in seconds east of UTC, changes as an instant and the offset from then on. -/
structure Region where
  key : String
  first : Int
  changes : List (Int × Int)
  seasons : Option Seasons
  deriving DecidableEq, Repr

/-- The local second at which the clocks change in a year, counted from 1970. -/
def SeasonChange.localSecond (change : SeasonChange) (year : Nat) : Int :=
  let firstDay := dayOfDate year change.month 1
  let first := 1 + (change.day + 7 - weekday firstDay) % 7
  let day := first + 7 * (change.week - 1)
  let day := if daysInMonth year change.month < day then day - 7 else day
  (firstDay + day - 1) * 86400 + change.second

/-- The offset of a local second in a year. -/
def Seasons.offsetAt (seasons : Seasons) (year : Nat) (second : Int) : Int :=
  let start := seasons.toSummer.localSecond year + (seasons.summer - seasons.standard)
  let stop := seasons.toStandard.localSecond year
  let summer := if start < stop then start ≤ second && second < stop
    else !(stop ≤ second && second < start)
  if summer then seasons.summer else seasons.standard

/-- The offset of a local second by the listed changes; `none` and the last offset past all of them. -/
def offsetByChanges (offset : Int) (changes : List (Int × Int)) (second : Int) : Option Int × Int :=
  match changes with
  | [] => (none, offset)
  | (instant, next) :: rest =>
    if second < instant + max offset next then (some offset, offset)
    else offsetByChanges next rest second

/-- The offset of a local second in a year. -/
def Region.offsetAt (region : Region) (year : Nat) (second : Int) : Int :=
  match offsetByChanges region.first region.changes second, region.seasons with
  | (some offset, _), _ => offset
  | (none, last), none => last
  | (none, _), some seasons => seasons.offsetAt year second

end DocBrowser.Calendar
