import DocBrowser.Text.Case
import DocBrowser.Text.Letter
import DocBrowser.Text.Blank
/-!
# Patterns

A pattern is a sequence of nodes that are matched one after the other. Characters are given by
their code points, and modes change what single nodes accept.
-/

namespace DocBrowser.Pattern

/-- What a pattern is matched under. -/
structure Modes where
  ignoreCase : Bool := false
  multiline : Bool := false
  dotAll : Bool := false
  verbose : Bool := false
  ascii : Bool := false
  unicode : Bool := false
  template : Bool := false
  deriving DecidableEq, Repr, Inhabited

namespace Modes

/-- The modes of either side. -/
def union (a b : Modes) : Modes where
  ignoreCase := a.ignoreCase || b.ignoreCase
  multiline := a.multiline || b.multiline
  dotAll := a.dotAll || b.dotAll
  verbose := a.verbose || b.verbose
  ascii := a.ascii || b.ascii
  unicode := a.unicode || b.unicode
  template := a.template || b.template

/-- The modes of the left side that the right side lacks. -/
def without (a b : Modes) : Modes where
  ignoreCase := a.ignoreCase && !b.ignoreCase
  multiline := a.multiline && !b.multiline
  dotAll := a.dotAll && !b.dotAll
  verbose := a.verbose && !b.verbose
  ascii := a.ascii && !b.ascii
  unicode := a.unicode && !b.unicode
  template := a.template && !b.template

/-- Whether no mode is on. -/
def isEmpty (a : Modes) : Bool := a = {}

/-- Whether some mode is on in both. -/
def meets (a b : Modes) : Bool := !(a.without (a.without b)).isEmpty

/-- Whether a choice of alphabet is among the modes. -/
def choosesAlphabet (a : Modes) : Bool := a.ascii || a.unicode

/-- The modes inside a group that turns some on and some off. -/
def inGroup (outer add del : Modes) : Modes :=
  let outer := if add.choosesAlphabet then { outer with ascii := false, unicode := false } else outer
  (outer.union add).without del

/-- The mode of a letter. -/
def ofLetter? : Char → Option Modes
  | 'i' => some { ignoreCase := true }
  | 'm' => some { multiline := true }
  | 's' => some { dotAll := true }
  | 'x' => some { verbose := true }
  | 'a' => some { ascii := true }
  | 'u' => some { unicode := true }
  | 't' => some { template := true }
  | _ => none

end Modes

/-- Classes of characters with a name of their own. -/
inductive Category where
  | digit
  | blank
  | word
  deriving DecidableEq, Repr

/-- What a set of characters lists. -/
inductive Member where
  | code (code : Nat)
  | range (first last : Nat)
  | category (category : Category) (negated : Bool)
  deriving DecidableEq, Repr

/-- Places between characters. -/
inductive Place where
  /-- The start of the text, or of a line in multiline mode. -/
  | lineStart
  /-- The end of the text, before a newline there too, or of a line in multiline mode. -/
  | lineEnd
  | textStart
  | textEnd
  | wordEdge
  | noWordEdge
  deriving DecidableEq, Repr

/-- How a repetition chooses the number of its rounds. -/
inductive Greed where
  | greedy
  | lazy
  | possessive
  deriving DecidableEq, Repr

/-- A part of a pattern. -/
inductive Node where
  | code (code : Nat)
  | notCode (code : Nat)
  | any
  | set (negated : Bool) (members : List Member)
  | place (place : Place)
  /-- A group that may be numbered, with the modes that it turns on and off. -/
  | group (number : Option Nat) (add del : Modes) (body : List Node)
  /-- A group that is matched once and for all. -/
  | atomic (body : List Node)
  | repeated (greed : Greed) (least : Nat) (most : Option Nat) (body : List Node)
  | branches (alternatives : List (List Node))
  /-- Something that must, or must not, follow, or precede by a number of characters. -/
  | look (behind : Option Nat) (negated : Bool) (body : List Node)
  /-- The text that a group has matched. -/
  | reference (group : Nat)
  /-- One of two continuations, depending on whether a group has matched. -/
  | condition (group : Nat) (yes : List Node) (no : Option (List Node))

/-- Whether two nodes are equal and without parts of their own. -/
def Node.sameLeaf : Node → Node → Bool
  | .code a, .code b | .notCode a, .notCode b | .reference a, .reference b => a = b
  | .any, .any => true
  | .set n a, .set m b => n = m && a = b
  | .place a, .place b => a = b
  | _, _ => false

/-! ## Width -/

/-- The least and the greatest number of characters that something matches. -/
abbrev Width := Nat × Nat

/-- A bound above all widths. -/
def widthLimit : Nat := 0x10000000000000000

/-- The largest number that can bound a repetition. -/
def repetitionLimit : Nat := 0xFFFFFFFF

mutual

/-- The width of a node, given those of the groups. -/
def nodeWidth (groups : List (Option Width)) : Node → Width
  | .code _ | .notCode _ | .any | .set .. => (1, 1)
  | .place _ | .look .. => (0, 0)
  | .group _ _ _ body => sequenceWidth groups body
  | .atomic body => sequenceWidth groups body
  | .repeated _ least most body =>
    let (low, high) := sequenceWidth groups body
    (low * least, match most with
      | some n => high * n
      | none => if high = 0 then 0 else widthLimit)
  | .branches alternatives => alternativesWidth groups alternatives
  | .reference group => ((groups[group]?).getD none).getD (0, 0)
  | .condition _ yes no =>
    let (low, high) := sequenceWidth groups yes
    match no with
    | none => (0, high)
    | some no =>
      let (low', high') := sequenceWidth groups no
      (min low low', max high high')

/-- The width of a sequence: the sum of the widths, up to the limit. -/
def sequenceWidth (groups : List (Option Width)) (nodes : List Node) : Width :=
  let (low, high) := totalWidth groups nodes
  (min low widthLimit, min high widthLimit)

/-- The sum of the widths of nodes. -/
def totalWidth (groups : List (Option Width)) : List Node → Width
  | [] => (0, 0)
  | node :: rest =>
    let (low, high) := nodeWidth groups node
    let (low', high') := totalWidth groups rest
    (low + low', high + high')

/-- The width of the narrowest and of the widest alternative. -/
def alternativesWidth (groups : List (Option Width)) : List (List Node) → Width
  | [] => (widthLimit, 0)
  | nodes :: rest =>
    let (low, high) := sequenceWidth groups nodes
    let (low', high') := alternativesWidth groups rest
    (min low low', max high high')

end

/-- A pattern that can be matched. -/
structure Compiled where
  modes : Modes
  nodes : List Node

end DocBrowser.Pattern
