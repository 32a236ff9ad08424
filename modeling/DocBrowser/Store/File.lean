import DocBrowser.ExtendedJson.Decode
import DocBrowser.Query.Compile
import DocBrowser.Store.Memory
import DocBrowser.Text.Bytes
import DocBrowser.Text.Lines
/-!
# Files of documents

A file holds one document, an array of documents, or one document on each line, in shell style
throughout except inside an array. The text decides which it is: an array starts with a bracket,
and one document is whatever compiles as a whole.
-/

namespace DocBrowser

namespace DocumentFile

/-- How a file is laid out. -/
inductive Layout where
  | blank
  | array
  | single (doc : Document)
  | lines

/-- A fault of decoded extended JSON or of the JSON text below it, in words. -/
def arrayFault (path : String) (message : String) : Failure :=
  .report (.store ("Invalid document array in " ++ path ++ ": " ++ message) [])

/-- The documents among items, if all of them are. -/
def asDocuments? (items : List Value) : Option (List Document) :=
  items.mapM fun item => match item with
    | .document doc => some doc
    | _ => none

/-- The documents of an array in JSON text. -/
def readArray (path : String) (text : List Char) : Except Failure (List Document) :=
  match Json.parse text with
  | .error fault => .error (arrayFault path (fault.message text))
  | .ok data =>
    match ExtendedJson.decode .utc data with
    | .error fault => .error (arrayFault path fault.message)
    | .ok (.array items) =>
      match asDocuments? items with
      | some docs => .ok docs
      | none => notAnArray
    | .ok _ => notAnArray
where
  /-- The failure for an array that holds something else than documents. -/
  notAnArray : Except Failure (List Document) :=
    .error (.report (.store (path ++ " must contain an array of documents") []))

/-- How a text is laid out. A number that is too long to convert fails at once. -/
def layoutOf (text : List Char) : Except Failure Layout :=
  match Text.trim text with
  | [] => .ok .blank
  | '[' :: _ => .ok .array
  | stripped =>
    match Query.compile .utc (String.ofList stripped) with
    | .ok doc => .ok (.single doc)
    | .error fault => if fault.fragment?.isSome then .ok .lines else .error fault.failure

/-- The documents on lines, which are counted from a number. -/
def readLines (path : String) : Nat → List (List Char) → Except Failure (List Document)
  | _, [] => .ok []
  | number, line :: rest =>
    if Text.trim line = [] then readLines path (number + 1) rest
    else match Query.compile .utc (String.ofList line) with
      | .ok doc => (readLines path (number + 1) rest).map (doc :: ·)
      | .error fault =>
        match fault.failure with
        | .report report =>
          .error (.report (.store s!"Invalid document on line {number} of {path}: {report.text}" []))
        | failure => .error failure

/-- The documents of a text with a known layout. -/
def readAs (path : String) (text : List Char) : Layout → Except Failure (List Document)
  | .blank => .ok []
  | .array => readArray path (Text.trim text)
  | .single doc => .ok [doc]
  | .lines => readLines path 1 (Text.splitLines text)

/-- The documents of a text. -/
def read (path : String) (text : List Char) : Except Failure (List Document) := do
  readAs path text (← layoutOf text)

/-- The text in the bytes of a file; every line ending becomes a newline. -/
def decode (bytes : List UInt8) : Except Failure (List Char) :=
  match Text.decodeUtf8? bytes with
  | some cs => .ok (Text.universalNewlines cs)
  | none => .error .encoding

/-- The failure for a file that cannot be opened, with the reason in words. -/
def unreadable (path reason : String) : Failure :=
  .report (.store ("Cannot read " ++ path ++ ": " ++ reason) [])

/-- The words for a file that is not there. -/
def missing (path : String) : String := "[Errno 2] No such file or directory: " ++ Text.quote path

/-- The words for a path that leads to a directory. -/
def isDirectory (path : String) : String := "[Errno 21] Is a directory: " ++ Text.quote path

/-- The words for a path that leads through a file. -/
def throughFile (path : String) : String := "[Errno 20] Not a directory: " ++ Text.quote path

/-- Loads documents from the bytes of a file, which may not be there. -/
def load (path : String) : Option (List UInt8) → Except Failure (List Document)
  | none => .error (unreadable path (missing path))
  | some bytes => do read path (← decode bytes)

end DocumentFile

end DocBrowser
