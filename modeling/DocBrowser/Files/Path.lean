import DocBrowser.Text.Lines
import DocBrowser.Text.Blank
/-!
# Paths

A path is written in one way only: no name on it is empty or a single dot, and no slash stands at its
end. A path that has no names and does not start at the root is the current directory.
-/

namespace DocBrowser

/-- A path: the slashes in front, which are none unless it starts at the root, and its names. -/
structure Path where
  root : List Char
  names : List (List Char)
  deriving DecidableEq, Repr

namespace Path

/-- The slashes that a path starts with: two count only if there is no third. -/
def rootOf : List Char → List Char
  | '/' :: '/' :: '/' :: _ => ['/']
  | '/' :: '/' :: _ => ['/', '/']
  | '/' :: _ => ['/']
  | _ => []

/-- The path that a text names. -/
def ofText (text : String) : Path where
  root := rootOf text.toList
  names := (Text.splitAt '/' text.toList).filter fun name => name ≠ [] && name ≠ ['.']

/-- The text of a path. -/
def text (path : Path) : String :=
  match path.root ++ Text.joinWith ['/'] path.names with
  | [] => "."
  | cs => String.ofList cs

/-- The path of something inside a directory. -/
def child (directory : Path) (name : String) : Path :=
  { directory with names := directory.names ++ [name.toList] }

/-- The name that leads to the directory around another one. -/
def upwards : List Char := ['.', '.']

/-- Whether a path leads nowhere but upwards. -/
def goesUpOnly (path : Path) : Bool := path.names.all (· = upwards)

/-- The directory around a directory. The root has none around it, and above the current directory
one can only name the way. -/
def above (directory : Path) : Path :=
  if !directory.goesUpOnly then { directory with names := directory.names.dropLast }
  else if directory.root = [] then { directory with names := directory.names ++ [upwards] }
  else directory

/-- Where a name leads from a directory. -/
def enter (directory : Path) (name : List Char) : Path :=
  if name = upwards then directory.above else { directory with names := directory.names ++ [name] }

/-- Where a path starts: at the root, or in the current directory. -/
def start (path : Path) : Path := { path with names := [] }

/-- The path that is left when every step upwards has been taken. -/
def resolved (path : Path) : Path := path.names.foldl enter path.start

end Path

end DocBrowser
