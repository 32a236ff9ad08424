import DocBrowser.Pattern.Basic
import DocBrowser.Pattern.Fault
/-!
# Reading a pattern piece by piece

A pattern is read as characters and escapes, a backslash together with what follows. The next piece
is always known, so a lone backslash at the end is noticed as soon as it comes next.
-/

namespace DocBrowser.Pattern

/-- A piece of a pattern. -/
inductive Piece where
  | char (c : Char)
  | escape (c : Char)
  /-- A backslash with nothing behind it. -/
  | dangling
  deriving DecidableEq, Repr

/-- The text of a piece. -/
def Piece.text : Piece → List Char
  | .char c => [c]
  | .escape c => ['\\', c]
  | .dangling => ['\\']

/-- The pieces of a pattern. -/
def pieces : List Char → List Piece
  | [] => []
  | ['\\'] => [.dangling]
  | '\\' :: c :: rest => .escape c :: pieces rest
  | c :: rest => .char c :: pieces rest

/-- How far a pattern has been read, and what is known about its groups. -/
structure Reader where
  position : Nat
  rest : List Piece
  /-- The modes of the whole pattern. -/
  modes : Modes
  names : List (List Char × Nat) := []
  /-- The widths of the groups, `none` while a group is open; the first entry is the pattern itself. -/
  widths : List (Option Width) := [none]
  /-- The number of groups before the look-behind that is being read. -/
  lookBehind : Option Nat := none
  /-- Groups that conditions name by number, with the positions of the numbers. -/
  conditions : List (Nat × Nat) := []

/-- A step of reading. -/
abbrev Reading := StateT Reader (Except Fault)

/-- Fails at a number of characters before the present position. -/
def failAt {α : Type} (cause : Cause) (back : Nat) : Reading α := do
  throw (.at cause ((← get).position - back))

/-- The next piece. -/
def peek : Reading (Option Piece) := do return (← get).rest.head?

/-- Whether the next piece is a character. -/
def nextIs (c : Char) : Reading Bool := do return (← peek) = some (.char c)

/-- Steps over the next piece. -/
def advance : Reading Unit := do
  match (← get).rest with
  | [] => pure ()
  | piece :: rest =>
    modify fun r => { r with position := r.position + piece.text.length, rest }
    if rest.head? = some .dangling then failAt .danglingEscape 0

/-- Reads the next piece. -/
def take : Reading (Option Piece) := do
  let piece ← peek
  advance
  return piece

/-- Steps over a character if it comes next. -/
def accept (c : Char) : Reading Bool := do
  if ← nextIs c then
    advance
    return true
  else return false

/-- Reads characters of a class, at most a number of them. -/
def takeWhileUpTo (p : Char → Bool) : Nat → Reading (List Char)
  | 0 => return []
  | n + 1 => do
    match ← peek with
    | some (.char c) =>
      if p c then
        advance
        return c :: (← takeWhileUpTo p n)
      else return []
    | _ => return []

/-- Reads up to a terminator, which is stepped over; the text before it must not be empty. -/
def takeUntil (terminator : Char) (what : String) : Reading (List Char) := do
  let rec go : Nat → List Char → Reading (List Char)
    | 0, read => return read.reverse
    | n + 1, read => do
      match ← take with
      | none =>
        if read = [] then failAt (.missing what) 0
        else failAt (.unterminatedName terminator) read.length
      | some piece =>
        if piece = .char terminator then
          if read = [] then failAt (.missing what) 1 else return read.reverse
        else go n (piece.text.reverse ++ read)
  go ((← get).rest.length + 1) []

/-! ## Groups -/

/-- Whether a group has been closed. -/
def isClosed (reader : Reader) (group : Nat) : Bool :=
  ((reader.widths[group]?).getD none).isSome

/-- Checks a group that is referred to inside a look-behind. -/
def checkLookBehind (group : Nat) : Reading Unit := do
  let reader ← get
  match reader.lookBehind with
  | none => pure ()
  | some earlier =>
    if !isClosed reader group then failAt .openGroup 0
    if earlier ≤ group then failAt .groupOfLookBehind 0

/-- Whether a text is a name: letters, digits and underscores, not starting with a digit. -/
def isName : List Char → Bool
  | [] => false
  | c :: rest => starts c && rest.all fun c => starts c || Text.isDecimalDigit c
where
  /-- Whether a name may start with a character. -/
  starts (c : Char) : Bool := Text.isLetter c || c = '_'

/-- Checks the name of a group, which ends a number of characters before the present position. -/
def checkName (name : List Char) (back : Nat) : Reading Unit := do
  if !isName name then failAt (.badName name) (name.length + back)

/-- Opens the next group. -/
def openGroup (name : Option (List Char)) : Reading Nat := do
  let reader ← get
  let group := reader.widths.length
  set { reader with widths := reader.widths ++ [none] }
  match name with
  | none => pure ()
  | some name =>
    match reader.names.find? (·.1 = name) with
    | some (_, earlier) => failAt (.redefinedName name group earlier) (name.length + 1)
    | none => modify fun r => { r with names := (name, group) :: r.names }
  return group

/-- Closes a group around what it matches. -/
def closeGroup (group : Nat) (body : List Node) : Reading Unit :=
  modify fun r => { r with widths := r.widths.set group (some (sequenceWidth r.widths body)) }

end DocBrowser.Pattern
