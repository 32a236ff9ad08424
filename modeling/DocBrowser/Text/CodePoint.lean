import DocBrowser.Failure
import DocBrowser.Text.Blank
import DocBrowser.Text.Quoted
/-!
# Text of code points

A text that comes from outside may hold surrogates (code points 0xD800 to 0xDFFF) by themselves, which stand
for no character: an argument of the command line that is no UTF-8 text is read so. A text with surrogates
is handled like any other, but it cannot be encoded, and so it cannot be put into a file.
-/

namespace DocBrowser

/-- What texts are made of. -/
inductive CodePoint where
  | char (c : Char)
  /-- A surrogate, by its distance from the first one. -/
  | surrogate (offset : Fin 0x800)
  deriving DecidableEq

namespace CodePoint

/-- The character at a code point, if there is one. -/
def char? : CodePoint → Option Char
  | .char c => some c
  | .surrogate _ => none

def isChar (point : CodePoint) : Bool := point.char?.isSome

/-- Whether a code point is white space. -/
def isBlank : CodePoint → Bool
  | .char c => Text.isBlank c
  | .surrogate _ => false

def toNat : CodePoint → Nat
  | .char c => c.toNat
  | .surrogate offset => 0xD800 + offset

end CodePoint

/-- A text with any code points in it. -/
abbrev RawText := List CodePoint

namespace RawText

/-- A text of characters. -/
def ofChars (cs : List Char) : RawText := cs.map .char

instance : Coe (List Char) RawText := ⟨ofChars⟩

/-- The characters of a text, if there is nothing else in it. -/
def chars? (text : RawText) : Option (List Char) := text.mapM CodePoint.char?

/-- Why a text is not encoded, with the place of the surrogates that come first. -/
def refusal (text : RawText) : String :=
  let start := (text.takeWhile CodePoint.isChar).length
  match (text.drop start).takeWhile (!·.isChar) with
  | [point] =>
    "'utf-8' codec can't encode character '\\u" ++ String.ofList (Text.hexText 4 point.toNat) ++
      s!"' in position {start}: surrogates not allowed"
  | points =>
    s!"'utf-8' codec can't encode characters in position {start}-{start + points.length - 1}: " ++
      "surrogates not allowed"

/-- The characters that go into a file for a text, or why it cannot be encoded. -/
def encoded (text : RawText) : Except Failure (List Char) :=
  match text.chars? with
  | some cs => .ok cs
  | none => .error (.conversion text.refusal)

/-- The words of a text with one space between neighbours. -/
def collapse (text : RawText) : RawText := Text.joinWith [.char ' '] (Text.wordsBy CodePoint.isBlank text)

end RawText

end DocBrowser
