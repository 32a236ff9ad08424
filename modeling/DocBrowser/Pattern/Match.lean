import DocBrowser.Pattern.Basic
/-!
# Matching patterns

Nodes are tried from left to right with backtracking: a node gets the rest of the match as a
continuation and tries its ways in order until the rest succeeds. A repetition goes on only while
its rounds move forward, so the length of the text bounds the number of its rounds.
-/

namespace DocBrowser.Pattern

/-! ## Characters -/

/-- The lower case of a code point under the modes. -/
def foldCode (modes : Modes) (code : Nat) : Nat :=
  if modes.unicode then Text.lowerCode code
  else if 65 ≤ code && code ≤ 90 then code + 32 else code

/-- Whether a code point has two cases under the modes. -/
def hasCases (modes : Modes) (code : Nat) : Bool :=
  if modes.unicode then Text.isCased code
  else (65 ≤ code && code ≤ 90) || (97 ≤ code && code ≤ 122)

/-- The other lower-case letters that stand for one as well. -/
def foldVariants (modes : Modes) (code : Nat) : List Nat :=
  if modes.unicode then Text.variantsOf code else []

/-- Whether a character is the given one, or another case of it where case does not matter. -/
def acceptsCode (modes : Modes) (code : Nat) (c : Nat) : Bool :=
  if modes.ignoreCase && hasCases modes code then
    let low := foldCode modes code
    let folded := foldCode modes c
    folded = low || (foldVariants modes low).contains folded
  else c = code

/-- Whether a character belongs to a class. -/
def inCategory (modes : Modes) (category : Category) (c : Nat) : Bool :=
  match category with
  | .digit => if modes.unicode then Text.isDecimalDigit (Char.ofNat c) else 48 ≤ c && c ≤ 57
  | .blank =>
    if modes.unicode then Text.isBlank (Char.ofNat c) else c = 32 || (9 ≤ c && c ≤ 13)
  | .word =>
    if modes.unicode then Text.isWordChar (Char.ofNat c)
    else (48 ≤ c && c ≤ 57) || (65 ≤ c && c ≤ 90) || (97 ≤ c && c ≤ 122) || c = 95

/-- Whether a character is one that a member of a set lists, case taken as it is. -/
def memberAccepts (modes : Modes) (c : Nat) : Member → Bool
  | .code code => c = code
  | .range first last => first ≤ c && c ≤ last
  | .category category negated => inCategory modes category c != negated

/-- The last code point of the basic plane. -/
def lastBasic : Nat := 0xFFFF

/-- Whether a range holds a character with two cases. -/
def rangeHasCases (modes : Modes) (first last : Nat) : Bool :=
  if modes.unicode then Text.casedSpans.any fun (low, high) => low ≤ last && first ≤ high
  else (first ≤ 90 && 65 ≤ last) || (first ≤ 122 && 97 ≤ last)

/-- Whether a set has to be compared in lower case. -/
def memberHasCases (modes : Modes) : Member → Bool
  | .code code => lastBasic < code || hasCases modes code
  | .range first last => lastBasic < last || rangeHasCases modes first last
  | .category .. => false

/-- Whether a range holds a character whose lower case is the given one. -/
def rangeFoldsTo (modes : Modes) (first last folded : Nat) : Bool :=
  let holds (code : Nat) : Bool := first ≤ code && code ≤ last
  if modes.unicode then
    (holds folded && foldCode modes folded = folded) || (Text.upperCodes folded).any holds
  else
    (holds folded && foldCode modes folded = folded) || (97 ≤ folded && folded ≤ 122 && holds (folded - 32))

/-- Whether a character in lower case is one that a member lists in any case. -/
def memberAcceptsFolded (modes : Modes) (folded : Nat) : Member → Bool
  | .code code =>
    if lastBasic < code then folded = code
    else
      let low := foldCode modes code
      folded = low || (foldVariants modes low).contains folded
  | .range first last =>
    let basic := min last lastBasic
    rangeFoldsTo modes first basic folded ||
      (foldVariants modes folded).any (rangeFoldsTo modes first basic) ||
      (lastBasic < last && ((first ≤ folded && folded ≤ last) ||
        (Text.upperCodes folded).any fun upper => first ≤ upper && upper ≤ last))
  | .category category negated => inCategory modes category folded != negated

/-- Whether a set holds a character. -/
def setAccepts (modes : Modes) (negated : Bool) (members : List Member) (c : Nat) : Bool :=
  if modes.ignoreCase && members.any (memberHasCases modes) then
    let folded := foldCode modes c
    members.any (memberAcceptsFolded modes folded) != negated
  else members.any (memberAccepts modes c) != negated

/-! ## Places -/

/-- Whether the character before or at a position belongs to a word. -/
def isWordAt (modes : Modes) (text : Array Char) (position : Nat) : Bool :=
  match text[position]? with
  | some c => inCategory modes .word c.toNat
  | none => false

/-- Whether a position is the given place. -/
def isPlace (modes : Modes) (text : Array Char) (position : Nat) : Place → Bool
  | .lineStart =>
    position = 0 || (modes.multiline && text[position - 1]? = some '\n')
  | .lineEnd =>
    position = text.size || (text[position]? = some '\n' &&
      (modes.multiline || position + 1 = text.size))
  | .textStart => position = 0
  | .textEnd => position = text.size
  | .wordEdge =>
    text.size ≠ 0 &&
      (position ≠ 0 && isWordAt modes text (position - 1)) != isWordAt modes text position
  | .noWordEdge =>
    text.size ≠ 0 &&
      (position ≠ 0 && isWordAt modes text (position - 1)) == isWordAt modes text position

/-! ## Nodes -/

/-- How far a match has come, and where groups started and ended, latest first. -/
structure Progress where
  position : Nat
  starts : List (Nat × Nat) := []
  ends : List (Nat × Nat) := []

/-- The rest of a match. -/
abbrev Rest := Progress → Option Progress

/-- The span that a group has matched. -/
def Progress.span? (progress : Progress) (group : Nat) : Option (Nat × Nat) :=
  match progress.starts.lookup group, progress.ends.lookup group with
  | some first, some last => if first ≤ last then some (first, last) else none
  | _, _ => none

/-- Matches one character. -/
def matchOne (text : Array Char) (accepts : Nat → Bool) (rest : Rest) : Rest := fun progress =>
  match text[progress.position]? with
  | some c => if accepts c.toNat then rest { progress with position := progress.position + 1 } else none
  | none => none

/-- Matches a number of rounds. -/
def matchRounds (round : Rest → Rest) : Nat → Rest → Rest
  | 0, rest => rest
  | n + 1, rest => round (matchRounds round n rest)

/-- Whether more rounds are allowed, and how many then. -/
def oneLess : Option Nat → Option (Option Nat)
  | none => some none
  | some 0 => none
  | some (n + 1) => some (some n)

/-- Matches as many more rounds as can be, then the rest. -/
def matchGreedy (round : Rest → Rest) (rest : Rest) : Nat → Option Nat → Option Nat → Rest
  | 0, _, _, progress => rest progress
  | n + 1, allowed, last, progress =>
    match oneLess allowed with
    | none => rest progress
    | some allowed =>
      if last = some progress.position then rest progress
      else match round (matchGreedy round rest n allowed (some progress.position)) progress with
        | some result => some result
        | none => rest progress

/-- Matches the rest, after as few more rounds as can be. -/
def matchLazy (round : Rest → Rest) (rest : Rest) : Nat → Option Nat → Option Nat → Rest
  | 0, _, _, progress => rest progress
  | n + 1, allowed, last, progress =>
    match rest progress with
    | some result => some result
    | none =>
      match oneLess allowed with
      | none => none
      | some allowed =>
        if last = some progress.position then none
        else round (matchLazy round rest n allowed (some progress.position)) progress

/-- Matches as many more rounds as can be, each once and for all. -/
def matchPossessive (round : Rest → Rest) : Nat → Option Nat → Option Nat → Progress → Progress
  | 0, _, _, progress => progress
  | n + 1, allowed, last, progress =>
    match oneLess allowed with
    | none => progress
    | some allowed =>
      if last = some progress.position then progress
      else match round some progress with
        | some next => matchPossessive round n allowed (some progress.position) next
        | none => progress

/-- Matches a first number of rounds, each once and for all. -/
def matchFirstRounds (round : Rest → Rest) : Nat → Progress → Option Progress
  | 0, progress => some progress
  | n + 1, progress => (round some progress).bind (matchFirstRounds round n)

/-- Matches a repetition. -/
def matchRepeated (text : Array Char) (greed : Greed) (least : Nat) (most : Option Nat)
    (round : Rest → Rest) (rest : Rest) : Rest :=
  let more := most.map (· - least)
  let bound := text.size + 2
  match greed with
  | .greedy => matchRounds round least (matchGreedy round rest bound more none)
  | .lazy => matchRounds round least (matchLazy round rest bound more none)
  | .possessive => fun progress =>
    (matchFirstRounds round least progress).bind fun progress =>
      rest (matchPossessive round bound more none progress)

/-- Matches the text that a group has matched once more. -/
def matchAgain (text : Array Char) (modes : Modes) (group : Nat) (rest : Rest) : Rest := fun progress =>
  match progress.span? group with
  | none => none
  | some (first, last) =>
    let length := last - first
    let same (i : Nat) : Bool :=
      match text[first + i]?, text[progress.position + i]? with
      | some a, some b =>
        if modes.ignoreCase then foldCode modes a.toNat = foldCode modes b.toNat else a = b
      | _, _ => false
    if (List.range length).all same then
      rest { progress with position := progress.position + length }
    else none

/-- Tries a look around a position: where it succeeds, the groups that it matched stay matched. -/
def matchLook (behind : Option Nat) (negated : Bool) (body : Rest → Rest) (rest : Rest) : Rest :=
  fun progress =>
    let found : Option Progress :=
      match behind with
      | some width =>
        if progress.position < width then none
        else body some { progress with position := progress.position - width }
      | none => body some progress
    match found, negated with
    | none, true => rest progress
    | some result, false => rest { result with position := progress.position }
    | _, _ => none

mutual

/-- Matches a node, then the rest. -/
def matchNode (text : Array Char) (modes : Modes) : Node → Rest → Rest
  | .code code, rest => matchOne text (acceptsCode modes code) rest
  | .notCode code, rest => matchOne text (fun c => !acceptsCode modes code c) rest
  | .any, rest => matchOne text (fun c => modes.dotAll || c ≠ 10) rest
  | .set negated members, rest => matchOne text (setAccepts modes negated members) rest
  | .place place, rest => fun progress =>
    if isPlace modes text progress.position place then rest progress else none
  | .group number add del body, rest =>
    let inner := matchNodes text (modes.inGroup add del) body
    match number with
    | none => inner rest
    | some group => fun progress =>
      inner (fun p => rest { p with ends := (group, p.position) :: p.ends })
        { progress with starts := (group, progress.position) :: progress.starts }
  | .atomic body, rest => fun progress => (matchNodes text modes body some progress).bind rest
  | .repeated greed least most body, rest =>
    matchRepeated text greed least most (matchNodes text modes body) rest
  | .branches alternatives, rest => matchBranches text modes alternatives rest
  | .look behind negated body, rest =>
    matchLook behind negated (matchNodes text modes body) rest
  | .reference group, rest => matchAgain text modes group rest
  | .condition group yes no, rest => fun progress =>
    if (progress.span? group).isSome then matchNodes text modes yes rest progress
    else match no with
      | none => rest progress
      | some no => matchNodes text modes no rest progress

/-- Matches the nodes of a sequence, then the rest. -/
def matchNodes (text : Array Char) (modes : Modes) : List Node → Rest → Rest
  | [], rest => rest
  | node :: others, rest => matchNode text modes node (matchNodes text modes others rest)

/-- Matches one of the alternatives, tried in order, then the rest. -/
def matchBranches (text : Array Char) (modes : Modes) : List (List Node) → Rest → Rest
  | [], _ => fun _ => none
  | nodes :: others, rest => fun progress =>
    match matchNodes text modes nodes rest progress with
    | some result => some result
    | none => matchBranches text modes others rest progress

end

/-- Whether a pattern matches at the position or at one of a number of later ones. -/
def searchFrom (pattern : Compiled) (text : Array Char) : Nat → Nat → Bool
  | 0, _ => false
  | n + 1, position =>
    (matchNodes text pattern.modes pattern.nodes some { position }).isSome ||
      searchFrom pattern text n (position + 1)

/-- Whether a pattern matches somewhere in a text. -/
def Compiled.matchesIn (pattern : Compiled) (text : List Char) : Bool :=
  searchFrom pattern text.toArray (text.length + 1) 0

end DocBrowser.Pattern
