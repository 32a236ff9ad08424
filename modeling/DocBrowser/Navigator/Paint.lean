import DocBrowser.Navigator.Key
import DocBrowser.Navigator.Selection
import DocBrowser.Navigator.Window
import DocBrowser.Text.Width
/-!
# Painting

Every character of a shown line has a role, which a palette gives a colour: keys, values and the
brackets of the structure. Brackets inside strings are part of a value, also where a string goes on
over many lines, so painting carries along where the last line has ended. A marker in front of each
line shows the cursor, and the lines of the highlighted value have a background.
-/

namespace DocBrowser

/-- What a character is painted as. -/
inductive Role where
  /-- Blank space in front of a key, and line ends. -/
  | plain
  | key
  | value
  | bracket
  | marker
  deriving DecidableEq, Repr

/-- A colour. -/
structure Colour where
  red : UInt8
  green : UInt8
  blue : UInt8
  deriving DecidableEq, Repr

/-- The colours of a view. -/
structure Palette where
  key : Colour := ⟨0xF1, 0xFA, 0x8C⟩
  value : Colour := ⟨0xFF, 0xFF, 0xFF⟩
  bracket : Colour := ⟨0xFF, 0xFF, 0xFF⟩
  highlight : Colour := ⟨0x44, 0x47, 0x5A⟩
  marker : Colour := ⟨0x50, 0xFA, 0x7B⟩

/-- The colour of a role. -/
def Palette.colour? (palette : Palette) : Role → Option Colour
  | .plain => none
  | .key => some palette.key
  | .value => some palette.value
  | .bracket => some palette.bracket
  | .marker => some palette.marker

/-- A painted character. -/
structure Cell where
  char : Char
  role : Role
  highlighted : Bool := false
  deriving DecidableEq, Repr

namespace Paint

open Selection (Place)

/-- Whether a character is a bracket. -/
def isBracket (c : Char) : Bool := c = '\x7b' || c = '\x7d' || c = '[' || c = ']'

/-- Paints values and brackets; the first character stands at a place. -/
def values (place : Place) : List Char → List Cell
  | [] => []
  | c :: rest =>
    ⟨c, if place = .outside && isBracket c then .bracket else .value, false⟩ :: values (place.next c) rest

/-- Where the character behind a text stands. -/
def placeAfter (place : Place) (text : List Char) : Place := text.foldl Place.next place

/-- Characters of one role. -/
def cells (role : Role) (text : List Char) : List Cell := text.map fun c => ⟨c, role, false⟩

/-- Paints a line whose first character stands at a place. -/
def lineFrom (place : Place) (line : List Char) : List Cell :=
  match (if place = .outside then KeyStart.ofLine? line else none) with
  | some start =>
    cells .plain start.indent ++ cells .key start.quoted ++ cells .value start.colon ++
      values .outside start.rest
  | none => values place line

/-- Where the first character of the next line stands: behind its key a line starts outside of strings. -/
def placeAfterLine (place : Place) (line : List Char) : Place :=
  match (if place = .outside then KeyStart.ofLine? line else none) with
  | some start => placeAfter .outside start.rest
  | none => placeAfter place line

/-- The cells that the screen shows. -/
def shown (cs : List Cell) : List Cell := cs.filter fun cell => !Text.isDropped cell.char

/-- Paints a single line. -/
def line (text : List Char) : List Cell := shown (lineFrom .outside text)

/-- The marker in front of a line. -/
def markerOf (selected : Bool) : List Char := if selected then ['>', ' '] else [' ', ' ']

/-- Paints a row: the marker, then the line; blank space has the colour of the marker. -/
def row (place : Place) (selected highlighted : Bool) (text : List Char) : List Cell :=
  (cells .marker (markerOf selected) ++ shown (lineFrom place text)).map fun cell =>
    { cell with role := if cell.role = .plain then .marker else cell.role, highlighted }

/-- Paints rows of lines that are counted from a number. -/
def rowsFrom (cursor : Nat) (highlight : Int × Int) (place : Place) : Nat → List (List Char) → List (List Cell)
  | _, [] => []
  | number, text :: rest =>
    row place (number = cursor) (highlight.1 ≤ number && number < highlight.2) text ::
      rowsFrom cursor highlight (placeAfterLine place text) (number + 1) rest

/-- Paints the lines that a window shows. -/
def rows (lines : List (List Char)) (window : Window) (highlight : Int × Int) : List (List Cell) :=
  let place := (lines.take window.scroll).foldl placeAfterLine .outside
  let visible := (lines.drop window.scroll).take window.height
  rowsFrom window.cursor highlight place window.scroll visible

/-- Rows with line ends between them. -/
def joinRows : List (List Cell) → List Cell
  | [] => []
  | [row] => row
  | row :: rest => row ++ ⟨'\n', .plain, false⟩ :: joinRows rest

/-- The text that cells show. -/
def plainText (cs : List Cell) : List Char := cs.map (·.char)

/-- Characters that share their colours. -/
structure Run where
  text : List Char
  colour : Option Colour
  background : Option Colour
  deriving DecidableEq, Repr

/-- Joins neighbouring cells of equal colours. -/
def runs (palette : Palette) : List Cell → List Run
  | [] => []
  | cell :: rest =>
    let colour := palette.colour? cell.role
    let background := if cell.highlighted then some palette.highlight else none
    match runs palette rest with
    | run :: others =>
      if run.colour = colour ∧ run.background = background then
        { run with text := cell.char :: run.text } :: others
      else ⟨[cell.char], colour, background⟩ :: run :: others
    | [] => [⟨[cell.char], colour, background⟩]

end Paint

end DocBrowser
