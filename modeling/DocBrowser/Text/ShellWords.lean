/-!
# Words of a command

A command is cut into words the way a shell does it: white space separates words, quotes keep it,
and a backslash keeps the next character. Inside double quotes a backslash stands for itself unless
a double quote or another backslash follows; inside single quotes it always does.
-/

namespace DocBrowser.Text

/-- Why a command cannot be cut into words. -/
inductive ShellFault where
  | openQuote
  | openEscape
  deriving DecidableEq, Repr

/-- A fault in words. -/
def ShellFault.message : ShellFault → String
  | .openQuote => "No closing quotation"
  | .openEscape => "No escaped character"

/-- Where the next character of a command stands. -/
inductive ShellPlace where
  /-- Between words. -/
  | between
  | word
  | quoted (quote : Char)
  /-- Behind a backslash in a word, or inside double quotes. -/
  | escaped (quote : Option Char)
  deriving DecidableEq, Repr

/-- Whether a character separates words. -/
def separatesWords (c : Char) : Bool := c = ' ' || c = '\t' || c = '\r' || c = '\n'

/-- Whether a character is a quote. -/
def isShellQuote (c : Char) : Bool := c = '\'' || c = '"'

/-- Where a character leads that starts a word or goes on with it, and what it adds to the word. -/
def enterWord (c : Char) : ShellPlace × List Char :=
  if isShellQuote c then (.quoted c, [])
  else if c = '\\' then (.escaped none, [])
  else (.word, [c])

/-- Where a character leads that stands inside of quotes, and what it adds to the word. -/
def insideQuotes (quote c : Char) : ShellPlace × List Char :=
  if c = quote then (.word, [])
  else if c = '\\' && quote = '"' then (.escaped (some quote), [])
  else (.quoted quote, [c])

/-- Where a character leads that stands behind a backslash, and what it adds to the word. -/
def behindBackslash (quote : Option Char) (c : Char) : ShellPlace × List Char :=
  match quote with
  | none => (.word, [c])
  | some q => (.quoted q, if c = q || c = '\\' then [c] else ['\\', c])

/-- The words of the rest of a command, with what has been read of the current word. -/
def shellWordsFrom (place : ShellPlace) (word : List Char) :
    List Char → Except ShellFault (List (List Char))
  | [] =>
    match place with
    | .between => .ok []
    | .word => .ok [word]
    | .quoted _ => .error .openQuote
    | .escaped _ => .error .openEscape
  | c :: rest =>
    match place with
    | .between =>
      if separatesWords c then shellWordsFrom .between [] rest
      else
        let (next, added) := enterWord c
        shellWordsFrom next added rest
    | .word =>
      if separatesWords c then (shellWordsFrom .between [] rest).map (word :: ·)
      else
        let (next, added) := enterWord c
        shellWordsFrom next (word ++ added) rest
    | .quoted quote =>
      let (next, added) := insideQuotes quote c
      shellWordsFrom next (word ++ added) rest
    | .escaped quote =>
      let (next, added) := behindBackslash quote c
      shellWordsFrom next (word ++ added) rest

/-- The words of a command. -/
def shellWords (command : List Char) : Except ShellFault (List (List Char)) :=
  shellWordsFrom .between [] command

end DocBrowser.Text
