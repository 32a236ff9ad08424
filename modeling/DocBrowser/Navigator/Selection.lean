import DocBrowser.Navigator.Key
import DocBrowser.Navigator.Line
/-!
# Copied text

What is copied is put on one line: white space outside of strings becomes single spaces, and braces
are padded on their inner side. The value alone is the copied text without its key.
-/

namespace DocBrowser

/-- What part of a highlighted value is copied; the raw lines are copied as they are shown. -/
inductive CopyMode where
  | full
  | value
  | raw
  deriving DecidableEq, Repr

/-- The mode of a name; any name other than those of the two parts stands for the raw lines. -/
def CopyMode.ofName (name : String) : CopyMode :=
  if name = "full" then .full else if name = "value" then .value else .raw

namespace Selection

/-- Where a character stands: outside of strings, inside one, or behind a backslash in one. -/
inductive Place where
  | outside
  | inside
  | escaped
  deriving DecidableEq, Repr

/-- Where the next character stands. -/
def Place.next (place : Place) (c : Char) : Place :=
  match place with
  | .outside => if c = '"' then .inside else .outside
  | .inside => if c = '\\' then .escaped else if c = '"' then .outside else .inside
  | .escaped => .inside

/-- What a character outside of strings becomes behind the last character written. -/
def spaced (last : Option Char) (c : Char) : List Char :=
  if Text.isBlank c then
    if last.isSome && last ≠ some ' ' then [' '] else []
  else if c = '\x7d' then
    if last.isSome && last ≠ some ' ' && last ≠ some '\x7b' then [' ', c] else [c]
  else if last = some '\x7b' then [' ', c]
  else [c]

/-- Tidies a text whose first character stands at a place, behind the last character written. -/
def tidyFrom (place : Place) (last : Option Char) : List Char → List Char
  | [] => []
  | c :: rest =>
    let written := if place = .outside then spaced last c else [c]
    written ++ tidyFrom (place.next c) (written.getLast?.or last) rest

/-- Tidies the white space of JSON text. -/
def tidy (text : List Char) : List Char := tidyFrom .outside none text

/-- Drops white space around a text and one comma at its end, with the white space in front of it. -/
def trimComma (text : List Char) : List Char :=
  let trimmed := Text.trim text
  match trimmed.reverse with
  | ',' :: rest => Text.trimEnd rest.reverse
  | _ => trimmed

/-- A text without the key in front. -/
def dropKey (text : List Char) : List Char :=
  match KeyStart.ofLine? text with
  | some start => Text.trimStart start.rest
  | none => text

/-- The text that is copied from highlighted lines. -/
def text (mode : CopyMode) (lines : List Line) : List Char :=
  let joined := Line.join lines
  match mode with
  | .raw => Text.trim joined
  | .full => trimComma (tidy joined)
  | .value => trimComma (dropKey (trimComma (tidy joined)))

end Selection

end DocBrowser
