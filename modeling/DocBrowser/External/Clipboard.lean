import DocBrowser.Failure
import DocBrowser.Text.Bytes
import DocBrowser.Text.Blank
/-!
# The clipboard of the system

The clipboard is reached through one of several programs, which are tried in a fixed order until one
of them works. If none does, a library of the host is asked.
-/

namespace DocBrowser

namespace Clipboard

/-- What becomes of a program that is tried. -/
inductive Run where
  | missing
  | failed
  | timedOut
  | succeeded (output : List UInt8)

/-- Something that is tried, in the order of the attempts. -/
inductive Call where
  /-- A program with its arguments and its input. -/
  | program (arguments : List String) (input : Option (List UInt8))
  /-- The library of the host, with the text to write. -/
  | library (text : Option (List Char))

/-- What a clipboard is reached through. -/
structure Host where
  /-- Runs a program. -/
  run : List String → Run
  /-- The text that the library of the host holds, if it can be used. -/
  library : Option (List Char)

/-- The programs that write. -/
def writers : List (List String) :=
  [["pbcopy"], ["xclip", "-selection", "clipboard"], ["xsel", "--clipboard", "--input"]]

/-- The programs that read. -/
def readers : List (List String) :=
  [["pbpaste"], ["xclip", "-selection", "clipboard", "-o"], ["xsel", "--clipboard", "--output"]]

/-- Tries programs one after the other: those that were tried, and the output of the one that works. -/
def firstThatWorks (host : Host) : List (List String) → List (List String) × Option (List UInt8)
  | [] => ([], none)
  | command :: rest =>
    match host.run command with
    | .succeeded output => ([command], some output)
    | _ =>
      let (tried, output) := firstThatWorks host rest
      (command :: tried, output)

/-- The failure when neither a program nor the library works. -/
def unavailable (first : String) : Failure :=
  .report (.clipboard ("No clipboard tool available (tried " ++ first ++ ", xclip, xsel, pyperclip)"))

/-- Writes a text to the clipboard. -/
def write (host : Host) (text : List Char) : Except Failure Unit × List Call :=
  let (tried, output) := firstThatWorks host writers
  let calls := tried.map (Call.program · (some (Text.encodeUtf8 text)))
  match output with
  | some _ => (.ok (), calls)
  | none =>
    let calls := calls ++ [.library (some text)]
    if host.library.isSome then (.ok (), calls) else (.error (unavailable "pbcopy"), calls)

/-- Reads the clipboard, without the white space around its text. -/
def read (host : Host) : Except Failure (List Char) × List Call :=
  let (tried, output) := firstThatWorks host readers
  let calls := tried.map (Call.program · none)
  match output with
  | some bytes => (.ok (Text.trim (Text.decodeUtf8Lossy bytes)), calls)
  | none =>
    let calls := calls ++ [.library none]
    match host.library with
    | some text => (.ok (Text.trim text), calls)
    | none => (.error (unavailable "pbpaste"), calls)

end Clipboard

end DocBrowser
