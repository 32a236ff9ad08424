import DocBrowser.Text.CodePoint
import DocBrowser.Text.Lines
/-!
# Saved queries

The queries that have been run are kept in a file, one on each line, the oldest first. Saving a query
again moves it to the end, and the oldest ones drop out when there are too many.
-/

namespace DocBrowser

/-- The file of saved queries, if it is there, and how many it may hold. -/
structure History where
  limit : Int
  file : Option (List Char) := none

namespace History

/-- The entries in the text of a file. -/
def entriesOf (text : List Char) : List (List Char) :=
  (Text.splitLines (Text.universalNewlines text)).filter fun line => Text.trim line ≠ []

/-- The entries, the oldest first. -/
def entries (history : History) : List (List Char) :=
  match history.file with
  | some text => entriesOf text
  | none => []

/-- The entries, the newest first. -/
def newestFirst (history : History) : List (List Char) := history.entries.reverse

/-- The newest entries up to a limit. No entry is dropped for a limit of zero, and for one below zero
as many of the oldest as it says. -/
def newest {α : Type} (limit : Int) (entries : List α) : List α :=
  if 0 < limit then entries.drop (entries.length - limit.toNat)
  else entries.drop (-limit).toNat

/-- The text of a file that holds entries. -/
def fileOf (entries : List (List Char)) : List Char := (entries.map (· ++ ['\n'])).flatten

/-- The text of a file that is to hold entries of any code points. -/
def rawFileOf (entries : List RawText) : RawText := (entries.map (· ++ [.char '\n'])).flatten

/-- The entries with one more at the end, where it stands only once. -/
def record {α : Type} [DecidableEq α] (limit : Int) (entries : List α) (entry : α) : List α :=
  newest limit (entries.filter (· ≠ entry) ++ [entry])

/-- Saves a query with single spaces between its words; blank text is not saved. The query is a text of
characters, which can always be written (`saveRaw` takes any text). -/
def save (history : History) (text : List Char) : List (List Char) × History :=
  match Text.collapse text with
  | [] => (history.entries, history)
  | entry =>
    let entries := record history.limit history.entries entry
    (entries, { history with file := some (fileOf entries) })

/-- Saves a query of any code points. The file is emptied before its new text is encoded, and stays empty
when that fails. -/
def saveRaw (history : History) (text : RawText) : Except Failure (List RawText) × History :=
  let known := history.entries.map RawText.ofChars
  match text.collapse with
  | [] => (.ok known, history)
  | entry =>
    let entries := record history.limit known entry
    match (rawFileOf entries).encoded with
    | .ok file => (.ok entries, { history with file := some file })
    | .error failure => (.error failure, { history with file := some [] })

/-- Forgets all entries. -/
def clear (history : History) : History := { history with file := some [] }

end History

end DocBrowser
