import DocBrowser.Text.Blank
import DocBrowser.Text.Lines
/-!
# Lines on the screen

A text is cut into lines and these are wrapped to the width of the view. The first segment of a line
keeps its indentation; the segments that continue it start at column zero, which tells a wrapped
value apart from the next key.
-/

namespace DocBrowser

/-- One line on the screen. -/
structure Line where
  text : List Char
  /-- The width of the blanks in front, zero for a segment that continues a line. -/
  indent : Nat
  /-- Whether the line continues the one above it. -/
  continuation : Bool := false
  deriving DecidableEq, Repr, Inhabited

namespace Line

/-- Whether a character indents. -/
def isIndent (c : Char) : Bool := c = ' ' || c = '\t'

/-- The number of spaces and tabs in front of a text. -/
def leadingWidth (text : List Char) : Nat := (text.takeWhile isIndent).length

/-- The position of the last occurrence of a character. -/
def lastIndex? (c : Char) : List Char → Option Nat
  | [] => none
  | d :: rest =>
    match lastIndex? c rest with
    | some i => some (i + 1)
    | none => if d = c then some 0 else none

/--
Where a text that is too long breaks: behind the last space that still fits, if it lies beyond the
indentation, and at the width otherwise.
-/
def breakAt (width indent : Nat) (text : List Char) : Nat :=
  match lastIndex? ' ' (text.take (width + 1)) with
  | some i => if indent < i then i + 1 else width
  | none => width

/-- The length of the first segment: a run of spaces stays with what it follows. -/
def segmentLength (width indent : Nat) (text : List Char) : Nat :=
  let cut := breakAt width indent text
  cut + ((text.drop cut).takeWhile (· = ' ')).length

/-- The segments that continue a line; the number bounds how many there are. -/
def continuations (width : Nat) : Nat → List Char → List Line
  | 0, _ => []
  | n + 1, text =>
    if text = [] then []
    else if text.length ≤ width then [⟨text, 0, true⟩]
    else
      let cut := segmentLength width 0 text
      ⟨text.take cut, 0, true⟩ :: continuations width n (text.drop cut)

/-- Wraps one line; a width that is not positive leaves it whole. -/
def wrapOne (width : Int) (text : List Char) : List Line :=
  let indent := leadingWidth text
  if width ≤ 0 || text.length ≤ width then [⟨text, indent, false⟩]
  else
    let cut := segmentLength width.toNat indent text
    let first := text.take cut
    ⟨first, leadingWidth first, false⟩ :: continuations width.toNat text.length (text.drop cut)

/-- The lines of a text, wrapped to a width. -/
def wrap (width : Int) (text : List Char) : List Line :=
  (Text.splitAt '\n' text).flatMap fun line => wrapOne width (Text.dropEndWhile (· = '\r') line)

/-- What comes in front of a line that is not the first: a newline, unless it continues. -/
def separator (line : Line) : List Char := if line.continuation then [] else ['\n']

/-- Puts lines together to the text that they show. -/
def join : List Line → List Char
  | [] => []
  | line :: rest => line.text ++ rest.flatMap fun other => other.separator ++ other.text

end Line

end DocBrowser
