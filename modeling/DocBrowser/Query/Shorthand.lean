import DocBrowser.ExtendedJson.Decode
/-!
# Shell-style query text

Queries are typed the way the database shell takes them: bare keys, single quotes, regular
expressions between slashes, and calls such as `ObjectId("…")`. Expanding a query turns it into
strict extended JSON. The text is read once from left to right, piece by piece, so that nothing
inside a string is ever taken for structure; a slash opens a regular expression only where a value
may start.
-/

namespace DocBrowser

namespace Shorthand

/-- The calls that stand for typed values. -/
inductive Call where
  | objectId (capital : Bool)
  | date
  | int
  | long
  | decimal
  | binary
  | minKey
  | maxKey
  deriving DecidableEq, Repr

/-- The name of a call. -/
def Call.name : Call → String
  | .objectId capital => if capital then "ObjectID" else "ObjectId"
  | .date => "ISODate"
  | .int => "NumberInt"
  | .long => "NumberLong"
  | .decimal => "NumberDecimal"
  | .binary => "BinData"
  | .minKey => "MinKey"
  | .maxKey => "MaxKey"

/-- All calls. -/
def Call.all : List Call :=
  [.objectId false, .objectId true, .date, .int, .long, .decimal, .binary, .minKey, .maxKey]

/-- Why a piece of query text cannot be expanded. -/
inductive Cause where
  | badString (fault : Json.SyntaxFault)
  | openString
  | character
  | openRegex
  | emptyRegex
  | regexFlag
  | openCall
  | argument
  | separator
  | oneArgument (call : Call)
  | noArguments (call : Call)
  | date (fault : Timestamp.Fault)
  | integer (call : Call) (bits : Nat)
  | decimal
  | binaryArguments
  | subtype
  deriving DecidableEq, Repr

/-- A cause in words. -/
def Cause.message : Cause → String
  | .badString fault => "Invalid string literal: " ++ fault.message
  | .openString => "Unterminated string literal"
  | .character => "Unexpected character"
  | .openRegex => "Unterminated regular expression"
  | .emptyRegex => "Empty regular expression"
  | .regexFlag => "Unknown regular expression flag"
  | .openCall => "Unterminated constructor call"
  | .argument => "Invalid constructor argument"
  | .separator => "Expected ',' or ')' in constructor call"
  | .oneArgument call => call.name ++ "() takes one argument"
  | .noArguments call => call.name ++ "() takes no arguments"
  | .date fault => "Invalid date: " ++ fault.message
  | .integer call bits => s!"{call.name}() needs a {bits}-bit integer"
  | .decimal => "NumberDecimal() needs a decimal number"
  | .binaryArguments => "BinData() takes a subtype and a base64 string"
  | .subtype => "BinData() subtype must be 0-255"

/-- Why query text cannot be expanded. -/
inductive Fault where
  /-- A piece of the text is wrong; the fragment is that piece. -/
  | piece (cause : Cause) (fragment : List Char)
  /-- A whole number has more digits than a conversion accepts. -/
  | longInteger (digits : Nat)
  deriving DecidableEq, Repr

/-- The length of the fragment shown where something else was expected. -/
def excerptLength : Nat := 20

/-! ## Strings -/

/--
Cuts a quoted literal off from behind its opening quote: what stands between the quotes, and its
length with the closing quote. Between single quotes an escaped single quote loses its backslash.
-/
def cutLiteral (quote : Char) : List Char → Option (List Char × Nat)
  | [] => none
  | '\\' :: c :: rest =>
    let piece := if quote = '\'' ∧ c = '\'' then ['\''] else ['\\', c]
    (cutLiteral quote rest).map fun (raw, length) => (piece ++ raw, length + 2)
  | c :: rest =>
    if c = quote then some ([], 1)
    else (cutLiteral quote rest).map fun (raw, length) => (c :: raw, length + 1)

/--
Gives every bare double quote of a finished literal a backslash. A quote is bare if the backslashes
right in front of it, `slashes` of which have been passed, escape each other, so that their number is
even.
-/
def escapeQuotes (slashes : Nat) : List Char → List Char
  | [] => []
  | c :: rest =>
    if c = '"' ∧ slashes % 2 = 0 then '\\' :: '"' :: escapeQuotes 0 rest
    else c :: escapeQuotes (if c = '\\' then slashes + 1 else 0) rest

/--
Reads a quoted literal: the text it stands for, and its length. It is read as the inside of a JSON
string, for which double quotes that are bare between single quotes are escaped.
-/
def readString (quote : Char) (rest : List Char) : Except Fault (List Char × Nat) :=
  match cutLiteral quote rest with
  | none => .error (.piece .openString (quote :: rest))
  | some (literal, length) =>
    let raw := if quote = '\'' then escapeQuotes 0 literal else literal
    match Json.readString 0 1 (raw ++ ['"']) with
    | .ok (value, _) => .ok (value, length + 1)
    | .error (.syntaxAt fault _) => .error (.piece (.badString fault) (quote :: rest.take length))
    | .error _ => .error (.piece .openString (quote :: rest))

/-! ## Calls -/

/-- An argument of a call: a text, or a number as it is written. -/
inductive Argument where
  | text (value : List Char)
  | number (value : List Char)
  deriving DecidableEq, Repr

/-- The length of the number at the start of a text, zero where there is none. -/
def numberLength (cs : List Char) : Nat :=
  let unsigned := (Text.takeSign cs).2
  let whole := unsigned.takeWhile Text.isDecimalDigit
  let rest := unsigned.drop whole.length
  let fraction := match rest with
    | '.' :: more => 1 + (more.takeWhile Text.isDecimalDigit).length
    | _ => 0
  if whole = [] ∧ fraction ≤ 1 then 0
  else
    let rest := rest.drop fraction
    let exponent := match rest with
      | e :: more =>
        if e = 'e' || e = 'E' then
          let digits := (Text.takeSign more).2
          let count := (digits.takeWhile Text.isDecimalDigit).length
          if count = 0 then 0 else 1 + (more.length - digits.length) + count
        else 0
      | [] => 0
    (cs.length - unsigned.length) + whole.length + fraction + exponent

/-- Reads one argument and its length. -/
def readArgument (cs : List Char) : Except Fault (Argument × Nat) :=
  let number : Except Fault (Argument × Nat) :=
    let length := numberLength cs
    if length = 0 then .error (.piece .argument (cs.take excerptLength))
    else .ok (.number (cs.take length), length)
  match cs with
  | [] => number
  | c :: rest =>
    if c = '"' || c = '\'' then (readString c rest).map fun (value, length) => (.text value, length)
    else number

/-- The white space at the start of a text, and what follows it. -/
def skipBlanks (cs : List Char) : List Char := cs.dropWhile Text.isBlank

/--
Reads the arguments of a call from behind its opening parenthesis or a comma: the arguments and
the text behind the call. There are at most as many arguments as characters, which is what `fuel`
counts.
-/
def readArguments (text : List Char) :
    (fuel : Nat) → (isFirst : Bool) → List Char → Except Fault (List Argument × List Char)
  | 0, _, _ => .error (.piece .openCall (text.drop (text.length - excerptLength)))
  | fuel + 1, isFirst, cs =>
    match skipBlanks cs with
    | [] => .error (.piece .openCall (text.drop (text.length - excerptLength)))
    | c :: rest =>
      if c = ')' ∧ isFirst then .ok ([], rest)
      else do
        let (argument, length) ← readArgument (c :: rest)
        match skipBlanks ((c :: rest).drop length) with
        | ',' :: more =>
          let (others, behind) ← readArguments text fuel false more
          .ok (argument :: others, behind)
        | ')' :: behind => .ok ([argument], behind)
        | other => .error (.piece .separator (other.take excerptLength))

/-- The text of a call's only argument. -/
def onlyArgument (call : Call) (numbers : Bool) (fragment : List Char) :
    List Argument → Except Fault (List Char)
  | [.text value] => .ok value
  | [.number value] => if numbers then .ok value else .error (.piece (.oneArgument call) fragment)
  | _ => .error (.piece (.oneArgument call) fragment)

/-- An object of one field whose value is already written. -/
def wrapped (key : String) (written : List Char) : List Char :=
  '\x7b' :: Json.writeText false key.toList ++ ':' :: ' ' :: written ++ ['\x7d']

/-- Reads a whole number of a number of bits. -/
def readBits (call : Call) (bits : Nat) (fragment raw : List Char) : Except Fault Int :=
  let refused : Except Fault Int := .error (.piece (.integer call bits) fragment)
  if Text.isIntegerText raw then
    match Text.readInt raw with
    | .error (.tooManyDigits count) => .error (.longInteger count)
    | .error .notANumber => refused
    | .ok n => if (Bounded.ofInt? bits n).isSome then .ok n else refused
  else refused

/-- Reads a subtype of bytes. -/
def readSubtype (fragment raw : List Char) : Except Fault UInt8 :=
  let refused : Except Fault UInt8 := .error (.piece .subtype fragment)
  if Text.isIntegerText raw then
    match Text.readInt raw with
    | .error (.tooManyDigits count) => .error (.longInteger count)
    | .error .notANumber => refused
    | .ok n =>
      match Binary.subtype? n with
      | some subtype => .ok subtype
      | none => refused
  else refused

/-- The wrapper that a call stands for. -/
def expandCall (zone : Zone) (call : Call) (arguments : List Argument) (fragment : List Char) :
    Except Fault (List Char) :=
  match call with
  | .objectId _ => do
    let value ← onlyArgument call false fragment arguments
    .ok (wrapped "$oid" (Json.writeText true value))
  | .date => do
    let value ← onlyArgument call false fragment arguments
    match Timestamp.parse zone (String.ofList value) with
    | .error fault => .error (.piece (.date fault) fragment)
    | .ok t => .ok (wrapped "$date" (wrapped "$numberLong" (Json.writeText true (Text.intText t.millis))))
  | .int => do
    let value ← onlyArgument call true fragment arguments
    let n ← readBits call 32 fragment (Text.trim value)
    .ok (wrapped "$numberInt" (Json.writeText true (Text.intText n)))
  | .long => do
    let value ← onlyArgument call true fragment arguments
    let n ← readBits call 64 fragment (Text.trim value)
    .ok (wrapped "$numberLong" (Json.writeText true (Text.intText n)))
  | .decimal => do
    let value ← onlyArgument call true fragment arguments
    let raw := Text.trim value
    if (Decimal.ofText? raw).isSome then .ok (wrapped "$numberDecimal" (Json.writeText true raw))
    else .error (.piece .decimal fragment)
  | .binary =>
    match arguments with
    | [.number subtype, .text payload] => do
      let subtype ← readSubtype fragment subtype
      .ok ("\x7b\"$binary\": \x7b\"base64\": ".toList ++ Json.writeText true payload ++
        ", \"subType\": ".toList ++ Json.writeText true (Text.hexText 2 subtype.toNat) ++
        ['\x7d', '\x7d'])
    | _ => .error (.piece .binaryArguments fragment)
  | .minKey =>
    if arguments.isEmpty then .ok (wrapped "$minKey" ['1']) else .error (.piece (.noArguments call) fragment)
  | .maxKey =>
    if arguments.isEmpty then .ok (wrapped "$maxKey" ['1']) else .error (.piece (.noArguments call) fragment)

/-! ## Pieces -/

/-- A piece of the expanded text: what is written, its last sign of structure, and what it took. -/
structure Piece where
  written : List Char
  last : Char
  length : Nat
  deriving DecidableEq, Repr

/-- Whether a character may stand in a bare word. -/
def isBareChar (c : Char) : Bool := Text.isWordChar c || "$.!@#%&*()+-".toList.contains c

/-- The first character behind white space. -/
def nextSign (cs : List Char) : Option Char := (skipBlanks cs).head?

/-- The call whose name and opening parenthesis start a text, and the text behind them. -/
def callAt? (cs : List Char) : Option (Call × List Char) :=
  Call.all.findSome? fun call =>
    let name := call.name.toList
    if name.isPrefixOf cs then
      match skipBlanks (cs.drop name.length) with
      | '(' :: rest => some (call, rest)
      | _ => none
    else none

/-- Whether a character continues the name of a bound. -/
def continuesName (c : Char) : Bool := (c.toNat < 128 && c.isAlphanum) || c = '_' || c = '$'

/-- The bound of all values whose bare name starts a text, unless it is a key. -/
def boundAt? (cs : List Char) : Option (Call × Nat) :=
  [Call.minKey, Call.maxKey].findSome? fun call =>
    let name := call.name.toList
    let rest := cs.drop name.length
    if name.isPrefixOf cs && !(rest.head?.any continuesName) && nextSign rest ≠ some ':' then
      some (call, name.length)
    else none

/-- Reads a call, a bare bound of all values, a bare key, or a bare word, which stays as it is. -/
def readBare (zone : Zone) (text : List Char) (last : Option Char) (cs : List Char) :
    Except Fault Piece :=
  match callAt? cs with
  | some (call, rest) => do
    let (arguments, behind) ← readArguments text (rest.length + 1) true rest
    let length := cs.length - behind.length
    let written ← expandCall zone call arguments (cs.take length)
    .ok ⟨written, '\x7d', length⟩
  | none =>
    match boundAt? cs with
    | some (call, length) => do
      let written ← expandCall zone call [] []
      .ok ⟨written, '\x7d', length⟩
    | none =>
      let word := cs.takeWhile isBareChar
      match word.getLast? with
      | none => .error (.piece .character (cs.take excerptLength))
      | some final =>
        let isKey := (last = some '\x7b' || last = some ',') &&
          nextSign (cs.drop word.length) = some ':'
        if isKey then .ok ⟨Json.writeText true word, '"', word.length⟩
        else .ok ⟨word, final, word.length⟩

/-- The length of a pattern up to its closing slash, and whether there is one. -/
def patternLength (inClass : Bool) : List Char → Nat × Bool
  | [] => (0, false)
  | '\\' :: _ :: rest =>
    let (length, closed) := patternLength inClass rest
    (length + 2, closed)
  | c :: rest =>
    if c = '\n' then (0, false)
    else if c = '/' ∧ !inClass then (0, true)
    else
      let inClass := if c = '[' then true else if c = ']' then false else inClass
      let (length, closed) := patternLength inClass rest
      (length + 1, closed)

/-- The flags that a regular expression may carry. -/
def isFlag (c : Char) : Bool := "gimsux".toList.contains c

/-- Reads a regular expression from behind its opening slash. -/
def readRegex (rest : List Char) : Except Fault Piece :=
  let (length, closed) := patternLength false rest
  let pattern := rest.take length
  if !closed then .error (.piece .openRegex ('/' :: pattern))
  else if pattern = [] then .error (.piece .emptyRegex ['/', '/'])
  else
    let flags := (rest.drop (length + 1)).takeWhile Text.isLetter
    if flags.all isFlag then
      let options := if flags = [] then []
        else ", \"$options\": ".toList ++ Json.writeText true flags
      .ok
        { written := "\x7b\"$regex\": ".toList ++ Json.writeText false pattern ++ options ++ ['\x7d']
          last := '\x7d'
          length := length + 2 + flags.length }
    else .error (.piece .regexFlag ('/' :: pattern ++ '/' :: flags))

/-- Whether a sign of structure stands for itself. -/
def isStructural (c : Char) : Bool := "\x7b\x7d[]:,".toList.contains c

/-- Whether a value may start behind a sign of structure. -/
def opensValue (last : Option Char) : Bool := last = some ':' || last = some '[' || last = some ','

/-- Reads the piece that starts with `c`, which is not white space. -/
def readPiece (zone : Zone) (text : List Char) (last : Option Char) (c : Char) (rest : List Char) :
    Except Fault Piece :=
  if c = '"' || c = '\'' then
    (readString c rest).map fun (value, length) => ⟨Json.writeText false value, '"', length⟩
  else if c = '/' && opensValue last then readRegex rest
  else if isStructural c then .ok ⟨[c], c, 1⟩
  else readBare zone text last (c :: rest)

/-- Expands the rest of a text behind the sign of structure written last. -/
def expandFrom (zone : Zone) (text : List Char) (last : Option Char) :
    List Char → Except Fault (List Char)
  | [] => .ok []
  | c :: rest =>
    if Text.isBlank c then do
      let written ← expandFrom zone text last rest
      .ok (c :: written)
    else do
      let piece ← readPiece zone text last c rest
      let written ← expandFrom zone text (some piece.last) (rest.drop (piece.length - 1))
      .ok (piece.written ++ written)
termination_by cs => cs.length
decreasing_by all_goals simp only [List.length_drop, List.length_cons]; omega

/-- Expands query text into strict extended JSON. -/
def expand (zone : Zone) (text : List Char) : Except Fault (List Char) :=
  expandFrom zone text none text

end Shorthand

end DocBrowser
