import DocBrowser.Text.Printable
/-!
# Quoted text

Messages show pieces of text between quotes. Single quotes are used unless the text holds single
quotes and no double quotes. The quote, backslashes and characters without a shape of their own
are escaped, so the quoted form is unambiguous and stays on one line.
-/

namespace DocBrowser.Text

/-- A number in hexadecimal digits, padded with zeros to a width. -/
def hexText (width n : Nat) : List Char :=
  let digits := Nat.toDigits 16 n
  List.replicate (width - digits.length) '0' ++ digits

/-- The quote that surrounds a text. -/
def quoteFor (cs : List Char) : Char :=
  if cs.contains '\'' && !cs.contains '"' then '"' else '\''

/-- The shown form of a character between the given quotes. -/
def showChar (quote c : Char) : List Char :=
  if c = quote || c = '\\' then ['\\', c]
  else if c = '\t' then ['\\', 't']
  else if c = '\n' then ['\\', 'n']
  else if c = '\r' then ['\\', 'r']
  else if isPrintable c then [c]
  else if c.toNat < 256 then '\\' :: 'x' :: hexText 2 c.toNat
  else if c.toNat < 65536 then '\\' :: 'u' :: hexText 4 c.toNat
  else '\\' :: 'U' :: hexText 8 c.toNat

/-- The quoted form of a text. -/
def quoted (cs : List Char) : List Char :=
  let quote := quoteFor cs
  quote :: cs.flatMap (showChar quote) ++ [quote]

/-- The quoted form of a string. -/
def quote (s : String) : String := String.ofList (quoted s.toList)

/-- The quoted form of bytes: a `b` in front, and every byte outside printable ASCII escaped. -/
def quotedBytes (bytes : List UInt8) : List Char :=
  let cs := bytes.map fun b => Char.ofNat b.toNat
  let quote := quoteFor cs
  let shown (c : Char) : List Char :=
    if c.toNat < 128 then showChar quote c else '\\' :: 'x' :: hexText 2 c.toNat
  'b' :: quote :: cs.flatMap shown ++ [quote]

end DocBrowser.Text
