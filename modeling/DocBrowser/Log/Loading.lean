import DocBrowser.Log.Compile
import DocBrowser.Store.File
/-!
# What the log says about files of documents

A text that is not a single document is read line by line, which is logged, and so is every text that
does not compile on the way.
-/

namespace DocBrowser.Log

/-- The entries for lines that are read up to the first that does not compile. -/
def ofLines : List (List Char) → List Entry
  | [] => []
  | line :: rest =>
    let text := String.ofList line
    if Text.trim line = [] then ofLines rest
    else
      ofCompiling .utc text ++
        match Query.compile .utc text with
        | .ok _ => ofLines rest
        | .error _ => []

/-- The entries for reading a text of a file. -/
def ofReading (path : String) (text : List Char) : List Entry :=
  match DocumentFile.layoutOf text with
  | .ok .lines =>
    ofCompiling .utc (String.ofList (Text.trim text)) ++
      ⟨.store, .debug, path ++ " is not a single document, reading one per line"⟩ ::
        ofLines (Text.splitLines text)
  | _ => []

/-- The entries for loading the bytes of a file, which may not be there. -/
def ofLoading (path : String) (bytes : Option (List UInt8)) : List Entry :=
  match bytes.map DocumentFile.decode with
  | some (.ok text) => ofReading path text
  | _ => []

end DocBrowser.Log
