import DocBrowser.Pattern.Escape
/-!
# Parsing patterns

A pattern is a list of alternatives, an alternative a sequence of nodes, and groups nest. Every
step that nests or goes on has stepped over a piece, so twice the number of pieces bounds the depth.
-/

namespace DocBrowser.Pattern

/-! ## Sets -/

/-- The one member that a set has after equal members have been dropped, if it is a character. -/
def setNode (negated : Bool) (members : List Member) : Node :=
  match negated, members.eraseDups with
  | false, [.code code] => .code code
  | true, [.code code] => .notCode code
  | _, members => .set negated members

/-- Reads one end of a range: a piece that is not the end of the set. -/
def readMember : Piece → Reading Member
  | .char c => return .code c.toNat
  | .escape c => readSetEscape c
  | .dangling => failAt .danglingEscape 0

/-- Reads the members of a set up to its end; the set opened at a position. -/
def readMembers (start : Nat) : Nat → List Member → Reading (List Member)
  | 0, read => return read.reverse
  | n + 1, read => do
    match ← take with
    | none => failAt .unterminatedSet ((← get).position - start)
    | some this =>
      if this = .char ']' ∧ read ≠ [] then return read.reverse
      let first ← readMember this
      if ← accept '-' then
        match ← take with
        | none => failAt .unterminatedSet ((← get).position - start)
        | some that =>
          if that = .char ']' then return (.code 45 :: first :: read).reverse
          let last ← readMember that
          let fault := Cause.badRange this.text that.text
          let back := this.text.length + 1 + that.text.length
          match first, last with
          | .code low, .code high =>
            if high < low then failAt fault back
            readMembers start n (.range low high :: read)
          | _, _ => failAt fault back
      else readMembers start n (first :: read)

/-- Reads a set behind its opening bracket. -/
def readSet : Reading Node := do
  let start := (← get).position - 1
  let negated ← accept '^'
  let members ← readMembers start ((← get).rest.length + 1) []
  return setNode negated members

/-! ## Repetitions -/

/-- The bounds of a repetition, or `none` for a brace that stands for itself. -/
abbrev Bounds := Nat × Option Nat

/-- Reads one bound of a repetition from its digits. -/
def readBound (digits : List Char) : Reading Nat := do
  if Text.digitLimit < digits.length then throw (.longNumber digits.length)
  let n := Text.ofDigitValues 10 (digits.map fun c => c.toNat - 48)
  if repetitionLimit ≤ n then throw .largeNumber
  return n

/-- Reads the bounds between braces behind the opening one; nothing is read if there are none. -/
def readBraces : Reading (Option Bounds) := do
  if ← nextIs '\x7d' then return none
  let reader ← get
  let digits := do takeWhileUpTo Char.isDigit ((← get).rest.length)
  let low ← digits
  let high ← if ← accept ',' then digits else pure low
  if !(← accept '\x7d') then
    set reader
    return none
  let least ← if low = [] then pure 0 else readBound low
  if high = [] then return some (least, none)
  let most ← readBound high
  if most < least then failAt .leastAboveMost ((← get).position - reader.position)
  return some (least, some most)

/-- The bounds that a character behind a node gives, if it repeats the node. -/
def readBoundsOf : Char → Reading (Option Bounds)
  | '*' => return some (0, none)
  | '+' => return some (1, none)
  | '?' => return some (0, some 1)
  | '\x7b' => readBraces
  | _ => return none

/-- Whether a node is a repetition. -/
def Node.isRepeated : Node → Bool
  | .repeated .. => true
  | _ => false

/-- What a repetition repeats: the body of a plain group, or the node itself. -/
def Node.repeatedBody : Node → List Node
  | .group none add del body => if add.isEmpty && del.isEmpty then body else [.group none add del body]
  | node => [node]

/-- Reads how a repetition chooses the number of its rounds. -/
def readGreed : Reading Greed := do
  if ← accept '?' then return .lazy
  if ← accept '+' then return .possessive
  return .greedy

/-- Repeats the last node of a sequence, which is given last node first. -/
def repeatLast (start : Nat) (bounds : Bounds) (sequence : List Node) : Reading (List Node) := do
  let back := (← get).position - start
  match sequence with
  | [] => failAt .nothingToRepeat back
  | node :: before =>
    match node with
    | .place _ => failAt .nothingToRepeat back
    | _ =>
      if node.isRepeated then failAt .multipleRepeat back
      let greed ← readGreed
      return .repeated greed bounds.1 bounds.2 node.repeatedBody :: before

/-! ## Modes -/

/-- The mode of a piece, if it is the letter of one. -/
def modeOf? : Piece → Option Modes
  | .char c => Modes.ofLetter? c
  | _ => none

/-- Fails at a piece that should have been the letter of a mode. -/
def failAtMode {α : Type} (piece : Piece) (what : String) : Reading α :=
  match piece with
  | .char c =>
    failAt (if Text.isLetter c then .unknownMode else .missing what) 1
  | _ => failAt (.missing what) piece.text.length

/-- Reads the letters of the modes that are turned on, and the piece that ends them. -/
def readModesOn : Nat → Piece → Modes → Reading (Modes × Char)
  | 0, _, modes => return (modes, ')')
  | n + 1, piece, modes => do
    if piece = .char 'L' then failAt .localeMode 0
    let mode := (modeOf? piece).getD {}
    let modes := modes.union mode
    if mode.choosesAlphabet && modes.ascii && modes.unicode then failAt .incompatibleModes 0
    match ← take with
    | none => failAt (.missing "-, : or )") 0
    | some (.char ')') => return (modes, ')')
    | some (.char '-') => return (modes, '-')
    | some (.char ':') => return (modes, ':')
    | some next =>
      if (modeOf? next).isSome || next = .char 'L' then readModesOn n next modes
      else failAtMode next "-, : or )"

/-- Reads the letters of the modes that are turned off, up to the colon. -/
def readModesOff : Nat → Piece → Modes → Reading Modes
  | 0, _, modes => return modes
  | n + 1, piece, modes => do
    let mode := (modeOf? piece).getD {}
    if mode.choosesAlphabet || piece = .char 'L' then failAt .alphabetOff 0
    let modes := modes.union mode
    match ← take with
    | none => failAt (.missing ":") 0
    | some (.char ':') => return modes
    | some next =>
      if (modeOf? next).isSome || next = .char 'L' then readModesOff n next modes
      else failAtMode next ":"

/-- Reads modes behind their first piece: those of a group, or `none` for the whole pattern. -/
def readModes (piece : Piece) : Reading (Option (Modes × Modes)) := do
  let bound := (← get).rest.length + 1
  let (add, ending) ← if piece = .char '-' then pure ({}, '-') else readModesOn bound piece {}
  if ending = ')' then
    modify fun r => { r with modes := r.modes.union add }
    return none
  if add.template then failAt .wholeModeOn 1
  let del ← if ending = '-' then do
      match ← take with
      | none => failAt (.missing "flag") 0
      | some next =>
        if (modeOf? next).isSome || next = .char 'L' then readModesOff bound next {}
        else failAtMode next "flag"
    else pure {}
  if del.template then failAt .wholeModeOff 1
  if add.meets del then failAt .modeBothWays 1
  return some (add, del)

/-! ## Alternatives -/

/-- Moves the nodes that all alternatives start with in front of them. -/
def sharedStart : Nat → List (List Node) → List Node × List (List Node)
  | 0, alternatives => ([], alternatives)
  | n + 1, alternatives =>
    match alternatives with
    | (first :: _) :: others =>
      if others.all fun nodes => match nodes with
          | node :: _ => node.sameLeaf first
          | [] => false
      then
        let (shared, rest) := sharedStart n (alternatives.map List.tail)
        (first :: shared, rest)
      else ([], alternatives)
    | _ => ([], alternatives)

/-- The members of an alternative that is a single character or set. -/
def membersOf? : List Node → Option (List Member)
  | [.code code] => some [.code code]
  | [.set false members] => some members
  | _ => none

/-- The nodes of alternatives: a set where each of them is a single character or set. -/
def joinAlternatives (alternatives : List (List Node)) : List Node :=
  match alternatives with
  | [nodes] => nodes
  | _ =>
    let longest := (alternatives.map List.length).foldl max 0
    let (shared, rest) := sharedStart longest alternatives
    match rest.mapM membersOf? with
    | some members => shared ++ [.set false members.flatten.eraseDups]
    | none => shared ++ [.branches rest]

/-- Puts the bodies of plain groups in place of the groups. -/
def inlineGroups (nodes : List Node) : List Node :=
  nodes.flatMap fun node => match node with
    | .group none add del body =>
      if add.isEmpty && del.isEmpty then body else [.group none add del body]
    | node => [node]

/-! ## Sequences and groups -/

/-- Steps over a comment up to the end of its line. -/
def skipLine : Nat → Reading Unit
  | 0 => pure ()
  | n + 1 => do
    match ← take with
    | none => pure ()
    | some piece => if piece = .char '\n' then pure () else skipLine n

/-- Steps over a comment up to its closing parenthesis; its group opened at a position. -/
def skipComment (start : Nat) : Nat → Reading Unit
  | 0 => pure ()
  | n + 1 => do
    if (← peek).isNone then failAt .unterminatedComment ((← get).position - start)
    if (← take) = some (.char ')') then pure () else skipComment start n

/-- Whether verbose mode passes over a piece: white space of ASCII. -/
def isSpacing (piece : Piece) : Bool :=
  match piece with
  | .char c => c = ' ' || (9 ≤ c.toNat && c.toNat ≤ 13)
  | _ => false

/-- The group that a condition names. -/
def readConditionGroup : Reading Nat := do
  let name ← takeUntil ')' "group name"
  if isName name then
    match (← get).names.find? (·.1 = name) with
    | some (_, group) => return group
    | none => failAt (.unknownName name) (name.length + 1)
  else
    match Text.readInt name with
    | .ok n =>
      if n < 0 then failAt (.badName name) (name.length + 1)
      if n = 0 then failAt .zeroGroup (name.length + 1)
      if 1073741823 ≤ n then failAt (.invalidReference n) (name.length + 1)
      let position := (← get).position - name.length - 1
      modify fun r =>
        if r.conditions.any (·.1 = n.toNat) then r
        else { r with conditions := r.conditions ++ [(n.toNat, position)] }
      return n.toNat
    | .error _ => failAt (.badName name) (name.length + 1)

/-- Fails unless a group that opened at a position is closed here. -/
def expectClose (start : Nat) : Reading Unit := do
  if !(← accept ')') then failAt .unterminatedGroup ((← get).position - start)

/-- What a parenthesis opens. -/
inductive Opening where
  | capture (name : Option (List Char))
  | plain
  | atomic
  | modes (add del : Modes)
  | look (behind negated : Bool)
  | condition (group : Nat)
  /-- The opening is complete and has given these nodes. -/
  | complete (nodes : List Node)

/-- Reads what follows `(?P`. -/
def readNamed : Reading Opening := do
  if ← accept '<' then
    let name ← takeUntil '>' "group name"
    checkName name 1
    return .capture (some name)
  else if ← accept '=' then
    let name ← takeUntil ')' "group name"
    checkName name 1
    let reader ← get
    match reader.names.find? (·.1 = name) with
    | none => failAt (.unknownName name) (name.length + 1)
    | some (_, group) =>
      if !isClosed reader group then failAt .openGroup (name.length + 1)
      checkLookBehind group
      return .complete [.reference group]
  else
    match ← take with
    | none => failAt .unexpectedEnd 0
    | some piece => failAt (.unknownExtension ('P' :: piece.text)) (piece.text.length + 2)

/-- Reads what follows `(?` in a group that opened at a position. -/
def readOpening (start : Nat) (atStart : Bool) : Reading Opening := do
  match ← take with
  | none => failAt .unexpectedEnd 0
  | some piece =>
    match piece with
    | .char 'P' => readNamed
    | .char ':' => return .plain
    | .char '>' => return .atomic
    | .char '=' => return .look false false
    | .char '!' => return .look false true
    | .char '#' =>
      skipComment start ((← get).rest.length + 1)
      return .complete []
    | .char '<' =>
      match ← take with
      | none => failAt .unexpectedEnd 0
      | some (.char '=') => return .look true false
      | some (.char '!') => return .look true true
      | some next => failAt (.unknownExtension ('<' :: next.text)) (next.text.length + 2)
    | .char '(' =>
      let group ← readConditionGroup
      checkLookBehind group
      return .condition group
    | _ =>
      if (modeOf? piece).isSome || piece = .char 'L' || piece = .char '-' then
        match ← readModes piece with
        | some (add, del) => return .modes add del
        | none =>
          if !atStart then failAt .lateModes ((← get).position - start)
          return .complete []
      else failAt (.unknownExtension piece.text) (piece.text.length + 1)

mutual

/-- Reads alternatives up to the end of the group or of the pattern. -/
def readAlternatives : Nat → Bool → Bool → Bool → Reading (List (List Node))
  | 0, _, _, _ => return []
  | n + 1, top, atStart, verbose => do
    let nodes ← readSequence n (top && atStart) verbose []
    if ← accept '|' then
      let reader ← get
      let verbose := if top then reader.modes.verbose else verbose
      return nodes :: (← readAlternatives n top false verbose)
    else return [nodes]

/-- Reads the nodes of one alternative; those read so far are given last node first. -/
def readSequence : Nat → Bool → Bool → List Node → Reading (List Node)
  | 0, _, _, sequence => return inlineGroups sequence.reverse
  | n + 1, atStart, verbose, sequence => do
    match ← peek with
    | none | some (.char '|') | some (.char ')') => return inlineGroups sequence.reverse
    | some piece =>
      advance
      if verbose && isSpacing piece then readSequence n atStart verbose sequence
      else if verbose && piece = .char '#' then
        skipLine ((← get).rest.length + 1)
        readSequence n atStart verbose sequence
      else match piece with
        | .escape c =>
          let node ← readEscape c
          readSequence n atStart verbose (node :: sequence)
        | .dangling => failAt .danglingEscape 0
        | .char '[' =>
          let node ← readSet
          readSequence n atStart verbose (node :: sequence)
        | .char '.' => readSequence n atStart verbose (.any :: sequence)
        | .char '^' => readSequence n atStart verbose (.place .lineStart :: sequence)
        | .char '$' => readSequence n atStart verbose (.place .lineEnd :: sequence)
        | .char '(' =>
          let nodes ← readGroup n (atStart && sequence.isEmpty) verbose
          let reader ← get
          let verbose := if atStart then reader.modes.verbose else verbose
          readSequence n atStart verbose (nodes ++ sequence)
        | .char c =>
          let start := (← get).position - 1
          match ← readBoundsOf c with
          | some bounds =>
            let sequence ← repeatLast start bounds sequence
            readSequence n atStart verbose sequence
          | none => readSequence n atStart verbose (.code c.toNat :: sequence)

/-- Reads a group behind its parenthesis; comments and modes of the whole pattern give no node. -/
def readGroup : Nat → Bool → Bool → Reading (List Node)
  | 0, _, _ => return []
  | n + 1, atStart, verbose => do
    let start := (← get).position - 1
    let opening ← if ← accept '?' then readOpening start atStart else pure (.capture none)
    match opening with
    | .complete nodes => return nodes
    | .look behind negated =>
      let outer := (← get).lookBehind
      if behind && outer.isNone then
        modify fun r => { r with lookBehind := some r.widths.length }
      let body := joinAlternatives (← readAlternatives n false false verbose)
      if behind && outer.isNone then modify fun r => { r with lookBehind := none }
      expectClose start
      let reader ← get
      let width := if behind then some (sequenceWidth reader.widths body).1 else none
      return [.look width negated body]
    | .condition group =>
      let yes ← readSequence n false verbose []
      let no ← if ← accept '|' then do
          let no ← readSequence n false verbose []
          if ← nextIs '|' then failAt .tooManyBranches 0
          pure (some no)
        else pure none
      expectClose start
      return [.condition group yes no]
    | .capture name =>
      let group ← openGroup name
      let body := joinAlternatives (← readAlternatives n false false verbose)
      expectClose start
      closeGroup group body
      return [.group (some group) {} {} body]
    | .plain =>
      let body := joinAlternatives (← readAlternatives n false false verbose)
      expectClose start
      return [.group none {} {} body]
    | .atomic =>
      let body := joinAlternatives (← readAlternatives n false false verbose)
      expectClose start
      return [.atomic body]
    | .modes add del =>
      let verbose := (verbose || add.verbose) && !del.verbose
      let body := joinAlternatives (← readAlternatives n false false verbose)
      expectClose start
      return [.group none add del body]

end

end DocBrowser.Pattern
