import DocBrowser.Pattern.Parse
/-!
# From text to patterns

A text is parsed as a whole, then checked: groups that conditions name have to exist, what a
look-behind matches has to be of one width, and template mode knows no repetitions.
-/

namespace DocBrowser.Pattern

mutual

/-- Checks a node. -/
def checkNode (template : Bool) (groups : List (Option Width)) : Node → Except Fault Unit
  | .code _ | .notCode _ | .any | .set .. | .place _ | .reference _ => .ok ()
  | .group _ _ _ body => checkNodes template groups body
  | .atomic body => checkNodes template groups body
  | .repeated greed _ _ body =>
    if template then
      .error (.templateRepetition (match greed with
        | .greedy => "MAX_REPEAT"
        | .lazy => "MIN_REPEAT"
        | .possessive => "POSSESSIVE_REPEAT"))
    else checkNodes template groups body
  | .branches alternatives => checkAlternatives template groups alternatives
  | .look behind _ body =>
    let (low, high) := sequenceWidth groups body
    if behind.isSome && repetitionLimit < low then .error .lookBehindTooWide
    else if behind.isSome && low ≠ high then .error .lookBehindWidth
    else checkNodes template groups body
  | .condition _ yes no => do
    checkNodes template groups yes
    match no with
    | none => .ok ()
    | some no => checkNodes template groups no

/-- Checks the nodes of a sequence. -/
def checkNodes (template : Bool) (groups : List (Option Width)) : List Node → Except Fault Unit
  | [] => .ok ()
  | node :: rest => do
    checkNode template groups node
    checkNodes template groups rest

/-- Checks the nodes of all alternatives. -/
def checkAlternatives (template : Bool) (groups : List (Option Width)) :
    List (List Node) → Except Fault Unit
  | [] => .ok ()
  | nodes :: rest => do
    checkNodes template groups nodes
    checkAlternatives template groups rest

end

/-- Reads the whole of a pattern. -/
def readPattern (length : Nat) : Reading (List Node) := do
  if (← get).rest.head? = some .dangling then failAt .danglingEscape 0
  let alternatives ← readAlternatives (2 * length + 2) true true (← get).modes.verbose
  let reader ← get
  if reader.modes.ascii && reader.modes.unicode then throw .bothAlphabets
  if reader.rest ≠ [] then failAt .unbalanced 0
  match reader.conditions.find? fun (group, _) => reader.widths.length ≤ group with
  | some (group, position) => throw (.at (.invalidReference group) position)
  | none => return joinAlternatives alternatives

/-- Reads a pattern under the given modes. -/
def compile (modes : Modes) (text : List Char) : Except Fault Compiled := do
  let rest := pieces text
  let (nodes, reader) ← (readPattern rest.length).run { position := 0, rest, modes }
  let modes := { reader.modes with unicode := !reader.modes.ascii }
  checkNodes modes.template reader.widths nodes
  return { modes, nodes }

end DocBrowser.Pattern
