import DocBrowser.Json.Basic
import DocBrowser.Text.Bytes
/-!
# JSON tokens

A text is cut into tokens from left to right, each the longest that starts where the last one
ended, white space between them dropped. A piece that starts no token, and a string or a number
that cannot be read, is a token of its own and the last one; what is wrong with the text depends
on what is expected in its place.
-/

namespace DocBrowser.Json

/-- What is wrong with a text, at some position. -/
inductive SyntaxFault where
  | value
  | propertyName
  | colon
  | comma
  | extraData
  | escape
  | unicodeEscape
  | controlCharacter
  | unterminatedString
  | byteOrderMark
  deriving DecidableEq, Repr

/-- A syntax fault in words. -/
def SyntaxFault.message : SyntaxFault → String
  | .value => "Expecting value"
  | .propertyName => "Expecting property name enclosed in double quotes"
  | .colon => "Expecting ':' delimiter"
  | .comma => "Expecting ',' delimiter"
  | .extraData => "Extra data"
  | .escape => "Invalid \\escape"
  | .unicodeEscape => "Invalid \\uXXXX escape"
  | .controlCharacter => "Invalid control character at"
  | .unterminatedString => "Unterminated string starting at"
  | .byteOrderMark => "Unexpected UTF-8 BOM (decode using utf-8-sig)"

/-- Why a text is not JSON. -/
inductive Fault where
  | syntaxAt (fault : SyntaxFault) (position : Nat)
  | constant (name : String)
  | longInteger (digits : Nat)
  deriving DecidableEq, Repr

/-- A token. -/
inductive Token where
  | openBrace
  | closeBrace
  | openBracket
  | closeBracket
  | comma
  | colon
  | literal (value : Json)
  | text (value : String)
  | faulty (fault : Fault)
  | stray

/-- White space between tokens. -/
def isSpace (c : Char) : Bool := c = ' ' || c = '\t' || c = '\n' || c = '\r'

/-! ## Strings -/

/-- The number that four hexadecimal digits spell. -/
def hexQuad? (a b c d : Char) : Option Nat := do
  let w ← Text.hexDigit? a
  let x ← Text.hexDigit? b
  let y ← Text.hexDigit? c
  let z ← Text.hexDigit? d
  some (w * 4096 + x * 256 + y * 16 + z)

/-- The character that a letter names behind a backslash. -/
def namedEscape? : Char → Option Char
  | '"' => some '"'
  | '\\' => some '\\'
  | '/' => some '/'
  | 'b' => some '\x08'
  | 'f' => some '\x0c'
  | 'n' => some '\n'
  | 'r' => some '\r'
  | 't' => some '\t'
  | _ => none

/--
The second half of a surrogate pair, when another escape follows the four digits of the first
half and something follows that.
-/
def lowHalf (position : Nat) : List Char → Except Fault (Option Nat)
  | '\\' :: 'u' :: a :: b :: c :: d :: _ :: _ =>
    match hexQuad? a b c d with
    | none => .error (.syntaxAt .unicodeEscape position)
    | some low => .ok (if 0xDC00 ≤ low ∧ low ≤ 0xDFFF then some low else none)
  | _ => .ok none

/--
Reads the escape behind a backslash at `position`: the character and how many signs it took. Texts have no
place for half of a surrogate pair, so one that stands alone is read as the replacement character, whichever
half it is: strings and keys that differ only there are read as one.
-/
def readEscape (start position : Nat) : List Char → Except Fault (Char × Nat)
  | [] => .error (.syntaxAt .unterminatedString start)
  | 'u' :: a :: b :: c :: d :: next :: rest =>
    match hexQuad? a b c d with
    | none => .error (.syntaxAt .unicodeEscape (position + 1))
    | some high =>
      if 0xD800 ≤ high ∧ high ≤ 0xDBFF then
        (lowHalf (position + 7) (next :: rest)).map fun
          | some low => (Char.ofNat (0x10000 + (high - 0xD800) * 1024 + (low - 0xDC00)), 11)
          | none => (Char.ofNat 0xFFFD, 5)
      else if 0xDC00 ≤ high ∧ high ≤ 0xDFFF then .ok (Char.ofNat 0xFFFD, 5)
      else .ok (Char.ofNat high, 5)
  | 'u' :: _ => .error (.syntaxAt .unicodeEscape (position + 1))
  | c :: _ =>
    match namedEscape? c with
    | some e => .ok (e, 1)
    | none => .error (.syntaxAt .escape position)

/--
Reads a string from behind its opening quote: its characters, and how many signs up to and with
the closing quote.
-/
def readString (start position : Nat) : List Char → Except Fault (List Char × Nat)
  | [] => .error (.syntaxAt .unterminatedString start)
  | '"' :: _ => .ok ([], 1)
  | '\\' :: rest => do
    let (c, count) ← readEscape start position rest
    let (cs, more) ← readString start (position + 1 + count) (rest.drop count)
    .ok (c :: cs, 1 + count + more)
  | c :: rest =>
    if c.toNat < 32 then .error (.syntaxAt .controlCharacter position)
    else do
      let (cs, more) ← readString start (position + 1) rest
      .ok (c :: cs, 1 + more)
termination_by cs => cs.length
decreasing_by all_goals simp only [List.length_drop, List.length_cons]; omega

/-! ## Numbers -/

/-- A number: its sign, its whole digits, and the fraction and the exponent where it has them. -/
structure Numeral where
  negative : Bool
  whole : List Char
  fraction : List Char
  exponent : Option (Bool × List Char)
  length : Nat
  deriving DecidableEq, Repr

/-- The whole part at the start of a text: a zero alone, or digits. -/
def wholeDigits : List Char → List Char
  | '0' :: _ => ['0']
  | cs => cs.takeWhile Char.isDigit

/-- The fraction at the start of a text, without its point; empty where there is none. -/
def fractionDigits : List Char → List Char
  | '.' :: rest => rest.takeWhile Char.isDigit
  | _ => []

/-- The exponent at the start of a text: its sign, its digits, and the length of all of it. -/
def exponentPart? : List Char → Option ((Bool × List Char) × Nat)
  | [] => none
  | e :: rest =>
    if e = 'e' || e = 'E' then
      let (negative, digits) := Text.takeSign rest
      let ds := digits.takeWhile Char.isDigit
      if ds = [] then none
      else some ((negative, ds), 1 + (rest.length - digits.length) + ds.length)
    else none

/-- Splits an optional minus sign off a text. -/
def takeMinus : List Char → Bool × List Char
  | '-' :: rest => (true, rest)
  | cs => (false, cs)

/-- The longest number at the start of a text. -/
def numeral? (cs : List Char) : Option Numeral :=
  let (negative, unsigned) := takeMinus cs
  let whole := wholeDigits unsigned
  if whole = [] then none
  else
    let rest := unsigned.drop whole.length
    let fraction := fractionDigits rest
    let fractionLength := if fraction = [] then 0 else fraction.length + 1
    let exponent := exponentPart? (rest.drop fractionLength)
    some
      { negative, whole, fraction
        exponent := exponent.map (·.1)
        length := (if negative then 1 else 0) + whole.length + fractionLength +
          (exponent.map (·.2)).getD 0 }

/-- The digit values of ASCII digits. -/
def digitValues (cs : List Char) : List Nat := cs.map fun c => c.toNat - 48

/-- The value of a number. -/
def Numeral.token (n : Numeral) : Token :=
  match n.fraction, n.exponent with
  | [], none =>
    match Text.natOfDigits (digitValues n.whole) with
    | .ok value => .literal (.int (Text.signed n.negative value))
    | .error _ => .faulty (.longInteger n.whole.length)
  | fraction, exponent =>
    let coefficient := Text.ofDigitValues 10 (digitValues (n.whole ++ fraction))
    let scale : Int := match exponent with
      | none => 0
      | some (negative, ds) => Text.signed negative (Text.ofDigitValues 10 (digitValues ds))
    .literal (.float (.ofDecimal n.negative coefficient (scale - fraction.length)))

/-! ## Tokens -/

/-- How strictly a text is read: strict JSON has no words for doubles that are not finite. -/
inductive Strictness where
  | strict
  | lenient
  deriving DecidableEq, Repr

/-- The token of a word for a double that is not finite. -/
def Strictness.constant (strictness : Strictness) (name : String) (value : Double) : Token :=
  match strictness with
  | .strict => .faulty (.constant name)
  | .lenient => .literal (.float value)

/-- The words that are tokens. -/
def wordTokens (strictness : Strictness) : List (List Char × Token) :=
  [("null".toList, .literal .null), ("true".toList, .literal (.bool true)),
    ("false".toList, .literal (.bool false)), ("NaN".toList, strictness.constant "NaN" .nan),
    ("Infinity".toList, strictness.constant "Infinity" (.infinite false)),
    ("-Infinity".toList, strictness.constant "-Infinity" (.infinite true))]

/-- The token at the start of a text and its length, at least one. -/
def readToken (strictness : Strictness) (position : Nat) : List Char → Token × Nat
  | [] => (.stray, 1)
  | '\x7b' :: _ => (.openBrace, 1)
  | '\x7d' :: _ => (.closeBrace, 1)
  | '[' :: _ => (.openBracket, 1)
  | ']' :: _ => (.closeBracket, 1)
  | ',' :: _ => (.comma, 1)
  | ':' :: _ => (.colon, 1)
  | '"' :: rest =>
    match readString position (position + 1) rest with
    | .ok (cs, count) => (.text (String.ofList cs), 1 + count)
    | .error fault => (.faulty fault, 1)
  | cs =>
    match (wordTokens strictness).find? fun (word, _) => word.isPrefixOf cs with
    | some (word, token) => (token, word.length)
    | none =>
      match numeral? cs with
      | some n => (n.token, n.length)
      | none => (.stray, 1)

/-- Whether reading stops at a token. -/
def Token.isLast : Token → Bool
  | .faulty _ | .stray => true
  | _ => false

/-- The tokens of a text from a position on, each with the position where it starts. -/
def tokens (strictness : Strictness) (position : Nat) : List Char → List (Nat × Token)
  | [] => []
  | c :: cs =>
    if isSpace c then tokens strictness (position + 1) cs
    else
      let (token, length) := readToken strictness position (c :: cs)
      if token.isLast then [(position, token)]
      else (position, token) :: tokens strictness (position + length) (cs.drop (length - 1))
termination_by cs => cs.length
decreasing_by all_goals simp only [List.length_drop, List.length_cons]; omega

end DocBrowser.Json
