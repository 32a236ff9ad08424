import DocBrowser.Pattern.Source
import DocBrowser.Text.Bytes
/-!
# Escapes in patterns

A backslash gives a character by name or by number, names a class of characters or a place, or
refers to a group. Inside sets only characters and classes can be given.
-/

namespace DocBrowser.Pattern

/-- The character of a one-letter escape. -/
def namedCode? : Char → Option Nat
  | 'a' => some 7
  | 'b' => some 8
  | 'f' => some 12
  | 'n' => some 10
  | 'r' => some 13
  | 't' => some 9
  | 'v' => some 11
  | '\\' => some 92
  | _ => none

/-- The class of a one-letter escape; a capital letter stands for all other characters. -/
def category? : Char → Option Member
  | 'd' => some (.category .digit false)
  | 'D' => some (.category .digit true)
  | 's' => some (.category .blank false)
  | 'S' => some (.category .blank true)
  | 'w' => some (.category .word false)
  | 'W' => some (.category .word true)
  | _ => none

/-- The place of a one-letter escape. -/
def place? : Char → Option Place
  | 'A' => some .textStart
  | 'Z' => some .textEnd
  | 'b' => some .wordEdge
  | 'B' => some .noWordEdge
  | _ => none

/-- Whether a character is an octal digit. -/
def isOctal (c : Char) : Bool := '0' ≤ c && c ≤ '7'

/-- The number that octal digits spell. -/
def octalValue (ds : List Char) : Nat := Text.ofDigitValues 8 (ds.map fun c => c.toNat - 48)

/-- Reads a character given by an exact number of hexadecimal digits. -/
def readHex (letter : Char) (count : Nat) : Reading Nat := do
  let ds ← takeWhileUpTo (fun c => (Text.hexDigit? c).isSome) count
  let text := '\\' :: letter :: ds
  if ds.length ≠ count then failAt (.incompleteEscape text) text.length
  let code := Text.ofDigitValues 16 (ds.filterMap Text.hexDigit?)
  if 0x10FFFF < code then failAt (.badEscape text) text.length
  return code

/--
Reads the escapes that sets and sequences share: numbers, names and plain characters. The names of characters
are not known here, so every one is refused as undefined where it stands, and what comes behind it is not read.
-/
def readPlainEscape (c : Char) : Reading Nat := do
  match c with
  | 'x' => readHex 'x' 2
  | 'u' => readHex 'u' 4
  | 'U' => readHex 'U' 8
  | 'N' =>
    if !(← accept '\x7b') then failAt (.missing "\x7b") 0
    let name ← takeUntil '\x7d' "character name"
    failAt (.undefinedCharacter name) (name.length + 4)
  | _ =>
    if c.isDigit || c.isAlpha then failAt (.badEscape ['\\', c]) 2
    return c.toNat

/-- Reads an octal escape of at most three digits, the first of which is given. -/
def readOctal (first : Char) : Reading Nat := do
  let ds ← takeWhileUpTo isOctal 2
  let code := octalValue (first :: ds)
  if 0o377 < code then failAt (.wideOctal ('\\' :: first :: ds)) (ds.length + 2)
  return code

/-- Reads an escape inside a set. -/
def readSetEscape (c : Char) : Reading Member := do
  match namedCode? c, category? c with
  | some code, _ => return .code code
  | none, some member => return member
  | none, none => if isOctal c then return .code (← readOctal c) else return .code (← readPlainEscape c)

/-- Refers to a group by the digits of its number. -/
def readReference (digits : List Char) : Reading Node := do
  let group := Text.ofDigitValues 10 (digits.map fun c => c.toNat - 48)
  let reader ← get
  if group < reader.widths.length then
    if !isClosed reader group then failAt .openGroup (digits.length + 1)
    checkLookBehind group
    return .reference group
  else failAt (.invalidReference group) digits.length

/-- Reads an escape that starts with a digit other than zero: three octal digits, or a reference. -/
def readNumberEscape (first : Char) : Reading Node := do
  match ← peek with
  | some (.char second) =>
    if second.isDigit then
      advance
      match ← peek with
      | some (.char third) =>
        if isOctal first && isOctal second && isOctal third then
          advance
          let ds := [first, second, third]
          if 0o377 < octalValue ds then failAt (.wideOctal ('\\' :: ds)) 4
          return .code (octalValue ds)
        else readReference [first, second]
      | _ => readReference [first, second]
    else readReference [first]
  | _ => readReference [first]

/-- Reads an escape in a sequence. -/
def readEscape (c : Char) : Reading Node := do
  match place? c, category? c, namedCode? c with
  | some place, _, _ => return .place place
  | none, some member, _ => return .set false [member]
  | none, none, some code => return .code code
  | none, none, none =>
    if c = '0' then return .code (octalValue (c :: (← takeWhileUpTo isOctal 2)))
    else if c.isDigit then readNumberEscape c
    else return .code (← readPlainEscape c)

end DocBrowser.Pattern
