import DocBrowser.Navigator.Line
/-!
# The lines of a value

Which lines belong to the value on a line is told from indentation alone: deeper lines belong to it,
up to the first line that closes it, and lines at column zero continue it. The first line opens the
whole text.
-/

namespace DocBrowser.Highlight

/-- Whether a line closes the outermost document. -/
def closesAll (line : List Char) : Bool :=
  Line.leadingWidth line = 0 &&
    (Text.trim line = ['\x7d'] || Text.trim line = ['\x7d', ','])

/-- How many of the lines below a nested value that is already entered belong to it. -/
def countNested (indent : Nat) : List (List Char) → Nat
  | [] => 0
  | line :: rest =>
    let next := Line.leadingWidth line
    if closesAll line then 0
    else if 0 < next && next < indent then 0
    else if next = indent then 1
    else countNested indent rest + 1

/-- How many of the lines below a value with an indentation belong to it. -/
def countBelow (indent : Nat) : List (List Char) → Nat
  | [] => 0
  | line :: rest =>
    let next := Line.leadingWidth line
    if closesAll line then 0
    else if next = 0 then countBelow indent rest + 1
    else if indent < next then countNested indent rest + 1
    else 0

/-- The number of lines below a selected one that belong to its value. -/
def linesBelow (lines : List (List Char)) (selected : Nat) : Nat :=
  match lines[selected]? with
  | none => 0
  | some line =>
    if selected = 0 then lines.length - 1
    else
      let indent := Line.leadingWidth line
      if indent = 0 then 0 else countBelow indent (lines.drop (selected + 1))

/-- The first line of a value and the line behind its last one; empty where no line is selected. -/
def range (lines : List (List Char)) (selected : Nat) : Nat × Nat :=
  if selected < lines.length then (selected, selected + linesBelow lines selected + 1)
  else (selected, selected)

end DocBrowser.Highlight
