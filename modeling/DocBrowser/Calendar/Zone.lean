import DocBrowser.Calendar.Regions
import DocBrowser.Text.Quoted
/-!
# Time zones

Dates written without an offset are placed in a zone: UTC, a fixed offset, or a region. Which regions
there are is a matter of the zone data that the program is run with.
-/

namespace DocBrowser

/-- Zone data: the regions that are known, by their names. -/
abbrev ZoneData := String → Option Calendar.Region

/-- The zone data of the regions that come with the program. -/
def ZoneData.own : ZoneData := fun name => Calendar.regions.find? (·.key = name)

/-- A time zone. -/
inductive Zone where
  | utc
  | fixed (offset : Int)
  | region (region : Calendar.Region)
  deriving DecidableEq, Repr

namespace Zone

/-- The offset, in seconds east of UTC, of a local second in a year. -/
def offsetAt (zone : Zone) (year : Nat) (second : Int) : Int :=
  match zone with
  | .utc => 0
  | .fixed offset => offset
  | .region place => place.offsetAt year second

/-- The zone of a name; `UTC` and `Z` are UTC itself, in either case. -/
def ofName? (name : String) (zones : ZoneData := .own) : Option Zone :=
  let upper := name.toList.map Char.toUpper
  if upper = "UTC".toList || upper = "Z".toList then some .utc
  else (zones name).map .region

/-- What is said about a name that is no zone. -/
def unknownMessage (name : String) : String := "unknown timezone " ++ Text.quote name

/-- The name of a zone. -/
def key : Zone → String
  | .region place => place.key
  | _ => "UTC"

end Zone

end DocBrowser
