import DocBrowser.Navigator.Highlight
import DocBrowser.Navigator.Selection
import DocBrowser.Navigator.Window
/-!
# The navigator

A navigator shows one text, wrapped to the width of its view, with a cursor on one of the lines. The
value under the cursor is highlighted and can be copied.
-/

namespace DocBrowser

/-- A text with a cursor. -/
structure Navigator where
  text : List Char
  width : Int
  lines : List Line
  /-- The texts of the lines, which are kept beside them. -/
  lineTexts : List (List Char)
  window : Window

namespace Navigator

/-- A navigator at the top of a text. -/
def make (text : List Char) (width height : Int) : Navigator :=
  let lines := Line.wrap width text
  { text, width, lines, lineTexts := lines.map (·.text)
    window := { total := lines.length, height := Window.heightOf height } }

/-- Shows another text from its top. -/
def openText (nav : Navigator) (text : List Char) : Navigator :=
  let lines := Line.wrap nav.width text
  { nav with
    text, lines, lineTexts := lines.map (·.text)
    window := { nav.window with total := lines.length }.moveToTop }

/-- Wraps the text for a view of another size; the cursor stays where that is possible. -/
def resize (nav : Navigator) (width height : Int) : Navigator :=
  let lines := Line.wrap width nav.text
  let window := { nav.window with total := lines.length, height := Window.heightOf height }
  { nav with width, lines, lineTexts := lines.map (·.text), window := window.clamp }

/-- Moves the cursor. -/
def move (nav : Navigator) (step : Window.Move) : Navigator := { nav with window := nav.window.move step }

/-- The first line of the value under the cursor and the line behind its last one. -/
def highlightRange (nav : Navigator) : Nat × Nat := Highlight.range nav.lineTexts nav.window.cursor

/-- The lines of the value under the cursor. -/
def highlightedLines (nav : Navigator) : List Line :=
  let (first, behind) := nav.highlightRange
  (nav.lines.take behind).drop first

/-- The text that is copied from the value under the cursor. -/
def copyText (nav : Navigator) (mode : CopyMode) : List Char := Selection.text mode nav.highlightedLines

end Navigator

end DocBrowser
