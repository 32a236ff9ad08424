/-!
# The window and its cursor

A window shows some of the lines of a text. One of the lines shown is selected; it is counted from
the top of the window. Moving selects another line and scrolls only where the window ends. The numbers
are natural, but no step lowers one that has not been found to be above zero.
-/

namespace DocBrowser

/-- A window onto lines. -/
structure Window where
  /-- The number of lines of the text. -/
  total : Nat
  /-- The number of lines that fit into the window. -/
  height : Nat
  /-- The first line shown. -/
  scroll : Nat := 0
  /-- The selected line, counted from the first line shown. -/
  selected : Nat := 0
  deriving DecidableEq, Repr, Inhabited

namespace Window

/-- The furthest that the window scrolls. -/
def lastScroll (w : Window) : Nat := w.total - w.height

/-- The number of lines shown. -/
def visibleCount (w : Window) : Nat := min w.height w.total

/-- The selected line, counted from the first line of the text. -/
def cursor (w : Window) : Nat := w.scroll + w.selected

/-- The first line shown, and the line behind the last one. -/
def visibleRange (w : Window) : Nat × Nat := (w.scroll, min (w.scroll + w.height) w.total)

/-- Pulls scrolling and selection back into the text. -/
def clamp (w : Window) : Window :=
  { w with scroll := min w.scroll w.lastScroll, selected := min w.selected (w.visibleCount - 1) }

/-- A window height: at least one line. -/
def heightOf (height : Int) : Nat := (max 1 height).toNat

/-- One line down. -/
def moveDown (w : Window) : Window :=
  if w.selected + 1 < w.visibleCount then { w with selected := w.selected + 1 }
  else if w.scroll < w.lastScroll then { w with scroll := w.scroll + 1 }
  else w

/-- One line up. -/
def moveUp (w : Window) : Window :=
  if 0 < w.selected then { w with selected := w.selected - 1 }
  else if 0 < w.scroll then { w with scroll := w.scroll - 1 }
  else w

/-- To the first line. -/
def moveToTop (w : Window) : Window := { w with scroll := 0, selected := 0 }

/-- To the last line. -/
def moveToBottom (w : Window) : Window :=
  { w with scroll := w.lastScroll, selected := w.visibleCount - 1 }

/-- The number of lines that a page moves by: half the window, but at least one. -/
def pageLength (w : Window) : Nat := max 1 (w.height / 2)

/-- One page down. -/
def pageDown (w : Window) : Window := Nat.repeat moveDown w.pageLength w

/-- One page up. -/
def pageUp (w : Window) : Window := Nat.repeat moveUp w.pageLength w

/-- The movements of the cursor. -/
inductive Move where
  | down
  | up
  | top
  | bottom
  | pageDown
  | pageUp
  deriving DecidableEq, Repr

/-- Moves the cursor. -/
def move (w : Window) : Move → Window
  | .down => w.moveDown
  | .up => w.moveUp
  | .top => w.moveToTop
  | .bottom => w.moveToBottom
  | .pageDown => w.pageDown
  | .pageUp => w.pageUp

end Window

end DocBrowser
