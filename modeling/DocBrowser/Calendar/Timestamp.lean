import DocBrowser.Calendar.Zone
import DocBrowser.Text.Digits
/-!
# Timestamps

A timestamp is a date, a time of day and an offset from UTC. It is read from ISO 8601 text: a date
alone, or a date and a time with optional seconds, fraction and offset. Points in time are counted
in milliseconds from the start of 1970 in UTC.
-/

namespace DocBrowser

/-- A date and a time of day at an offset, in seconds, from UTC. -/
structure Timestamp where
  year : Nat
  month : Nat
  day : Nat
  hour : Nat
  minute : Nat
  second : Nat
  microsecond : Nat
  offset : Int
  deriving DecidableEq, Repr

namespace Timestamp

/-- Why a text is no timestamp. -/
inductive Fault where
  | unrecognised (text : String)
  | offset (text : String)
  | year (year : Nat)
  | month
  | day
  | hour
  | minute
  | second
  deriving DecidableEq, Repr

/-- A fault in words. -/
def Fault.message : Fault → String
  | .unrecognised text => "unrecognised date " ++ Text.quote text
  | .offset text => "invalid UTC offset " ++ Text.quote text
  | .year n => s!"year {n} is out of range"
  | .month => "month must be in 1..12"
  | .day => "day is out of range for month"
  | .hour => "hour must be in 0..23"
  | .minute => "minute must be in 0..59"
  | .second => "second must be in 0..59"

/-! ## Instants -/

/-- The seconds from 1970-01-01 of the date and time as they stand. -/
def localSecond (t : Timestamp) : Int :=
  Calendar.dayOfDate t.year t.month t.day * 86400 + t.hour * 3600 + t.minute * 60 + t.second

/-- The whole milliseconds of a timestamp from the start of 1970 in UTC. -/
def millis (t : Timestamp) : Int := (t.localSecond - t.offset) * 1000 + (t.microsecond / 1000 : Nat)

/-- The first and the last millisecond of the years from 1 to 9999. -/
def firstMilli : Int := -62135596800000

@[inherit_doc firstMilli]
def lastMilli : Int := 253402300799999

/-- The UTC timestamp of an instant in the years from 1 to 9999. -/
def ofMillis? (millis : Int) : Option Timestamp :=
  if firstMilli ≤ millis ∧ millis ≤ lastMilli then
    let n := (millis - firstMilli).toNat
    let (year, month, day) := Calendar.dateOfOrdinal (n / 86400000)
    let rest := n % 86400000
    some
      { year, month, day
        hour := rest / 3600000
        minute := rest / 60000 % 60
        second := rest / 1000 % 60
        microsecond := rest % 1000 * 1000
        offset := 0 }
  else none

/-! ## Writing -/

/-- A number padded with zeros to a width. -/
def padded (width n : Nat) : List Char :=
  let digits := Nat.toDigits 10 n
  List.replicate (width - digits.length) '0' ++ digits

/-- The date and the time of day to the second. -/
def plainText (t : Timestamp) : List Char :=
  padded 4 t.year ++ '-' :: padded 2 t.month ++ '-' :: padded 2 t.day ++ 'T' :: padded 2 t.hour ++
    ':' :: padded 2 t.minute ++ ':' :: padded 2 t.second

/-- An offset as a sign, hours and minutes, and seconds where there are any. -/
def offsetText (offset : Int) : List Char :=
  let n := offset.natAbs
  (if offset < 0 then '-' else '+') :: padded 2 (n / 3600) ++ ':' :: padded 2 (n / 60 % 60) ++
    (if n % 60 = 0 then [] else ':' :: padded 2 (n % 60))

/-- The ISO text: microseconds where there are any, and the offset. -/
def isoText (t : Timestamp) : List Char :=
  t.plainText ++ (if t.microsecond = 0 then [] else '.' :: padded 6 t.microsecond) ++ offsetText t.offset

/--
The text of an instant in UTC to the millisecond. Instants before 1970 or after 9999 have none.
-/
def utcText? (millis : Int) : Option (List Char) :=
  if millis < 0 then none
  else (ofMillis? millis).map fun t =>
    t.plainText ++ (if t.microsecond = 0 then [] else '.' :: padded 3 (t.microsecond / 1000)) ++ ['Z']

/-! ## Reading -/

/-- Reads exactly `count` digits. -/
def takeDigits? (count : Nat) (cs : List Char) : Option (Nat × List Char) := do
  let ds ← (cs.take count).mapM Text.decimalValue?
  if ds.length = count then some (Text.ofDigitValues 10 ds, cs.drop count) else none

/-- Reads one given character. -/
def takeChar? (c : Char) : List Char → Option (List Char)
  | [] => none
  | d :: rest => if d = c then some rest else none

/-- The pieces of a timestamp as they are written. -/
structure Pieces where
  year : Nat
  month : Nat
  day : Nat
  hour : Nat := 0
  minute : Nat := 0
  second : Nat := 0
  fraction : List Nat := []
  offset : List Char := []
  deriving DecidableEq, Repr

/-- Reads seconds and their fraction, where they are written. -/
def takeSeconds? (cs : List Char) : Option (Nat × List Nat × List Char) :=
  match cs with
  | ':' :: rest => do
    let (second, rest) ← takeDigits? 2 rest
    match rest with
    | '.' :: more =>
      let fraction := more.takeWhile Text.isDecimalDigit
      if fraction.length = 0 ∨ 9 < fraction.length then none
      else
        let ds ← fraction.mapM Text.decimalValue?
        some (second, ds, more.drop fraction.length)
    | _ => some (second, [], rest)
  | _ => some (0, [], cs)

/-- Whether a text is an offset: nothing, `Z`, or a sign, two digits, perhaps a colon, and two digits. -/
def isOffset (cs : List Char) : Bool :=
  match cs with
  | [] | ['Z'] | ['z'] => true
  | sign :: a :: b :: rest =>
    (sign = '+' || sign = '-') && [a, b].all Text.isDecimalDigit &&
      match rest with
      | [':', c, d] | [c, d] => [c, d].all Text.isDecimalDigit
      | _ => false
  | _ => false

/-- Reads the pieces of a timestamp. -/
def pieces? (cs : List Char) : Option Pieces := do
  let (year, cs) ← takeDigits? 4 cs
  let cs ← takeChar? '-' cs
  let (month, cs) ← takeDigits? 2 cs
  let cs ← takeChar? '-' cs
  let (day, cs) ← takeDigits? 2 cs
  match cs with
  | [] => some { year, month, day }
  | mark :: cs =>
    if mark ≠ 'T' ∧ mark ≠ ' ' then none
    else
      let (hour, cs) ← takeDigits? 2 cs
      let cs ← takeChar? ':' cs
      let (minute, cs) ← takeDigits? 2 cs
      let (second, fraction, cs) ← takeSeconds? cs
      if isOffset cs then some { year, month, day, hour, minute, second, fraction, offset := cs }
      else none

/-- The hours and minutes of an offset, without its sign. -/
def offsetParts (cs : List Char) : Nat × Nat :=
  let ds := (cs.filter (· ≠ ':')).filterMap Text.decimalValue?
  (Text.ofDigitValues 10 (ds.take 2), Text.ofDigitValues 10 (ds.drop 2))

/-- Reads a written offset; `none` where there is none. -/
def readOffset (cs : List Char) : Except Fault (Option Int) :=
  match cs with
  | [] => .ok none
  | ['Z'] | ['z'] => .ok (some 0)
  | sign :: rest =>
    let (hours, minutes) := offsetParts rest
    if 23 < hours ∨ 59 < minutes then .error (.offset (String.ofList cs))
    else
      let seconds : Int := hours * 3600 + minutes * 60
      .ok (some (if sign = '-' then -seconds else seconds))

/-- The first six digits of a fraction, as microseconds. -/
def microseconds (fraction : List Nat) : Nat :=
  Text.ofDigitValues 10 ((fraction ++ [0, 0, 0, 0, 0, 0]).take 6)

/-- Checks the fields of a timestamp from left to right. -/
def check (t : Timestamp) : Except Fault Unit :=
  if t.year = 0 ∨ 9999 < t.year then .error (.year t.year)
  else if t.month = 0 ∨ 12 < t.month then .error .month
  else if t.day = 0 ∨ Calendar.daysInMonth t.year t.month < t.day then .error .day
  else if 23 < t.hour then .error .hour
  else if 59 < t.minute then .error .minute
  else if 59 < t.second then .error .second
  else .ok ()

/-- Reads a timestamp; one without an offset is placed in the zone. -/
def parse (zone : Zone) (text : String) : Except Fault Timestamp :=
  match pieces? (Text.trim text.toList) with
  | none => .error (.unrecognised text)
  | some p => do
    let offset ← readOffset p.offset
    let t : Timestamp :=
      { year := p.year, month := p.month, day := p.day, hour := p.hour, minute := p.minute
        second := p.second, microsecond := microseconds p.fraction, offset := 0 }
    t.check
    .ok { t with offset := offset.getD (zone.offsetAt t.year t.localSecond) }

end Timestamp

end DocBrowser
