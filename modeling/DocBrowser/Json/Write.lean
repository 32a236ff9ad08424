import DocBrowser.Json.Basic
/-!
# Writing JSON

Data is written on one line without spaces, on one line with a space behind commas and colons, or
over many lines with two spaces for each level. The layouts differ only in the white space between
signs. Strings escape the quote, the backslash and the control characters, and on request every
character outside printable ASCII.
-/

namespace DocBrowser.Json

/-- How data is laid out: the white space between the signs that are always written. -/
structure Layout where
  /-- What stands between a bracket and its contents at a depth. -/
  gap : Nat → List Char
  /-- What stands behind the comma between two items at a depth. -/
  afterComma : Nat → List Char
  /-- What stands behind the colon of a key. -/
  afterColon : List Char

/-- The start of a line at a depth. -/
def lineStart (depth : Nat) : List Char := '\n' :: List.replicate (2 * depth) ' '

/-- One line without spaces. -/
def Layout.compact : Layout := ⟨fun _ => [], fun _ => [], []⟩

/-- One line with a space behind commas and colons. -/
def Layout.spaced : Layout := ⟨fun _ => [], fun _ => [' '], [' ']⟩

/-- Many lines, two spaces for each level. -/
def Layout.indented : Layout := ⟨lineStart, lineStart, [' ']⟩

/-- How data is written: its layout, and whether everything outside printable ASCII is escaped. -/
structure Style where
  layout : Layout
  ascii : Bool := false

/-- An escape of four hexadecimal digits. -/
def unicodeEscape (n : Nat) : List Char := '\\' :: 'u' :: Text.hexText 4 n

/-- The escape of a character in UTF-16 units. -/
def unitEscape (c : Char) : List Char :=
  let n := c.toNat
  if n < 0x10000 then unicodeEscape n
  else unicodeEscape (0xD800 + (n - 0x10000) / 1024) ++ unicodeEscape (0xDC00 + (n - 0x10000) % 1024)

/-- A character inside a string. -/
def writeChar (ascii : Bool) (c : Char) : List Char :=
  if c = '"' then ['\\', '"']
  else if c = '\\' then ['\\', '\\']
  else if c = '\n' then ['\\', 'n']
  else if c = '\r' then ['\\', 'r']
  else if c = '\t' then ['\\', 't']
  else if c = '\x0c' then ['\\', 'f']
  else if c = '\x08' then ['\\', 'b']
  else if c.toNat < 32 then unicodeEscape c.toNat
  else if ascii && 127 ≤ c.toNat then unitEscape c
  else [c]

/-- A string. -/
def writeText (ascii : Bool) (cs : List Char) : List Char :=
  '"' :: cs.flatMap (writeChar ascii) ++ ['"']

/-- A double; those that are not finite are written by name. -/
def writeDouble : Double → List Char
  | .nan => "NaN".toList
  | .infinite negative => if negative then "-Infinity".toList else "Infinity".toList
  | d => d.text

mutual

/-- Writes data at a depth. -/
def writeAt (style : Style) (depth : Nat) : Json → List Char
  | .null => "null".toList
  | .bool value => if value then "true".toList else "false".toList
  | .int value => Text.intText value
  | .float value => writeDouble value
  | .str value => writeText style.ascii value.toList
  | .arr [] => ['[', ']']
  | .arr (item :: rest) =>
    '[' :: style.layout.gap (depth + 1) ++ writeAt style (depth + 1) item ++
      writeItems style (depth + 1) rest ++ style.layout.gap depth ++ [']']
  | .obj [] => ['\x7b', '\x7d']
  | .obj ((key, value) :: rest) =>
    '\x7b' :: style.layout.gap (depth + 1) ++ writeText style.ascii key.toList ++
      ':' :: style.layout.afterColon ++ writeAt style (depth + 1) value ++
      writeFields style (depth + 1) rest ++ style.layout.gap depth ++ ['\x7d']

/-- Writes items that follow another one. -/
def writeItems (style : Style) (depth : Nat) : List Json → List Char
  | [] => []
  | item :: rest =>
    ',' :: style.layout.afterComma depth ++ writeAt style depth item ++ writeItems style depth rest

/-- Writes fields that follow another one. -/
def writeFields (style : Style) (depth : Nat) : List (String × Json) → List Char
  | [] => []
  | (key, value) :: rest =>
    ',' :: style.layout.afterComma depth ++ writeText style.ascii key.toList ++
      ':' :: style.layout.afterColon ++ writeAt style depth value ++ writeFields style depth rest

end

/-- Writes data. -/
def write (style : Style) (data : Json) : List Char := writeAt style 0 data

/-- Data on one line without spaces. -/
def compactText (data : Json) : List Char := write ⟨.compact, false⟩ data

/-- Data on one line with spaces behind commas and colons. -/
def spacedText (data : Json) : List Char := write ⟨.spaced, false⟩ data

/-- Data over many lines. -/
def indentedText (data : Json) : List Char := write ⟨.indented, false⟩ data

end DocBrowser.Json
