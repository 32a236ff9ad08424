import DocBrowser.Viewer.Action
/-!
# Keys of the viewer

Every key asks for one thing. What it takes to do that, an editor, a clipboard or the answer to a
question, is added when the key has been pressed.
-/

namespace DocBrowser

/-- What a key asks for. -/
inductive Request where
  | quit
  | move (step : Window.Move)
  | copy (mode : CopyMode)
  | write (what : Writing)
  | delete
  | next
  | previous
  deriving DecidableEq, Repr

namespace Request

/-- The keys and what they ask for. -/
def keys : List (String × Request) :=
  [("q", .quit), ("j", .move .down), ("down", .move .down), ("k", .move .up), ("up", .move .up),
    ("g", .move .top), ("G", .move .bottom), ("ctrl+d", .move .pageDown), ("ctrl+u", .move .pageUp),
    ("y", .copy .full), ("Y", .copy .value), ("e", .write .edit), ("i", .write .insert),
    ("D", .write .duplicate), ("d", .delete), ("n", .next), ("p", .previous)]

/-- The keys as the last line of the screen shows them. -/
def legend : String := "j/k move  y/Y copy  e edit  i insert  D dup  d delete  n/p doc  q quit"

/-- What a key asks for, if anything. -/
def ofKey? (key : String) : Option Request := keys.lookup key

/-- The action that does what is asked for; to quit there is none. -/
def action (clipboard : List Char → Except Failure Unit) (editor : Editor) (confirmed : Bool) :
    Request → Option Action
  | .quit => none
  | .move step => some (.move step)
  | .copy mode => some (.copy mode clipboard)
  | .write what => some (.write what editor)
  | .delete => some (.delete confirmed)
  | .next => some .next
  | .previous => some .previous

end Request

end DocBrowser
