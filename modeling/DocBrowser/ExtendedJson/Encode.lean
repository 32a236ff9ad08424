import DocBrowser.Json.Parse
import DocBrowser.Json.Write
import DocBrowser.Report
import DocBrowser.Value.Basic
/-!
# Values as extended JSON

Types that JSON lacks are written as wrappers: objects whose key starts with a dollar sign. A
document that has such a key of its own would read back as something else, so it is refused.
-/

namespace DocBrowser

namespace ExtendedJson

/-- The keys that make an object a wrapper, in alphabetical order. -/
def wrapperKeys : List String :=
  ["$binary", "$date", "$maxKey", "$minKey", "$numberDecimal", "$numberDouble", "$numberInt",
    "$numberLong", "$oid", "$regularExpression"]

/-- Whether a key is one of those of wrappers. -/
def isWrapperKey (key : String) : Bool := wrapperKeys.contains key

/-- Why a value has no written form. -/
inductive Refusal where
  /-- A document has keys of wrappers; they are named in alphabetical order. -/
  | clash (keys : List String)
  /-- The value is of no known kind. -/
  | unknownKind (kind : String)
  /-- Something other than a document was to be written as one. -/
  | notADocument (kind : String)
  /-- The text to lay out is not JSON. -/
  | invalidJson (message : String)
  deriving DecidableEq, Repr

/-- A refusal as a report. -/
def Refusal.report : Refusal → Report
  | .clash keys =>
    .format "Document keys clash with an extended-JSON wrapper" [("keys", .str (", ".intercalate keys))]
  | .unknownKind kind => .format "No extended-JSON form for value" [("value_type", .str kind)]
  | .notADocument kind => .format "Only documents can be formatted" [("value_type", .str kind)]
  | .invalidJson message => .format ("Cannot indent invalid JSON: " ++ message) []

/-- An object of one field. -/
def wrapper (key : String) (payload : Json) : Json := .obj [(key, payload)]

/-- The wrapper of a point in time: its text in UTC, or its milliseconds where it has none. -/
def ofMillis (millis : Int) : Json :=
  match Timestamp.utcText? millis with
  | some text => wrapper "$date" (.str (String.ofList text))
  | none => wrapper "$date" (wrapper "$numberLong" (.str (String.ofList (Text.intText millis))))

/-- The form of a double: a number, or a wrapper for what JSON cannot write. -/
def ofDouble : Double → Json
  | .nan => wrapper "$numberDouble" (.str "NaN")
  | .infinite negative => wrapper "$numberDouble" (.str (if negative then "-Infinity" else "Infinity"))
  | d => .float d

/-- The keys of wrappers among the keys of a document. -/
def clashingKeys (fields : Document) : List String := wrapperKeys.filter (hasField fields)

/-- Fields in the order in which they are written. -/
def ordered {α : Type} (sortKeys : Bool) (fields : List (String × α)) : List (String × α) :=
  if sortKeys then fields.mergeSort (fun a b => decide (a.1 ≤ b.1)) else fields

/-- All fields, or the first refusal among them. -/
def allFields : List (String × Except Refusal Json) → Except Refusal (List (String × Json))
  | [] => .ok []
  | (key, encoded) :: rest => do
    let first ← encoded
    let others ← allFields rest
    .ok ((key, first) :: others)

mutual

/-- The extended JSON of a value. -/
def encode (sortKeys : Bool) : Value → Except Refusal Json
  | .null => .ok .null
  | .bool value => .ok (.bool value)
  | .int32 value => .ok (.int value.value)
  | .int64 value => .ok (wrapper "$numberLong" (.str (String.ofList (Text.intText value.value))))
  | .double value => .ok (ofDouble value)
  | .decimal value => .ok (wrapper "$numberDecimal" (.str (String.ofList value.text)))
  | .string value => .ok (.str value)
  | .objectId id => .ok (wrapper "$oid" (.str (String.ofList id.hex)))
  | .dateTime millis => .ok (ofMillis millis)
  | .binary data subtype =>
    .ok (wrapper "$binary" (.obj
      [("base64", .str (String.ofList (Text.base64OfBytes data))),
        ("subType", .str (String.ofList (Text.hexText 2 subtype.toNat)))]))
  | .regex pattern options =>
    .ok (wrapper "$regularExpression" (.obj [("pattern", .str pattern), ("options", .str options)]))
  | .minKey => .ok (wrapper "$minKey" (.int 1))
  | .maxKey => .ok (wrapper "$maxKey" (.int 1))
  | .array items => (encodeItems sortKeys items).map .arr
  | .document fields =>
    match clashingKeys fields with
    | [] => (allFields (ordered sortKeys (encodeFields sortKeys fields))).map .obj
    | keys => .error (.clash keys)
  | .foreign => .error (.unknownKind "object")

/-- The extended JSON of items. -/
def encodeItems (sortKeys : Bool) : List Value → Except Refusal (List Json)
  | [] => .ok []
  | item :: rest => do
    let first ← encode sortKeys item
    let others ← encodeItems sortKeys rest
    .ok (first :: others)

/-- The extended JSON of each field. -/
def encodeFields (sortKeys : Bool) : List (String × Value) → List (String × Except Refusal Json)
  | [] => []
  | (key, value) :: rest => (key, encode sortKeys value) :: encodeFields sortKeys rest

end

end ExtendedJson

/-- JSON text laid out over many lines. -/
def Json.indent (text : List Char) : Except ExtendedJson.Refusal (List Char) :=
  match Json.parse text with
  | .ok data => .ok data.indentedText
  | .error fault => .error (.invalidJson (fault.message text))

namespace Document

/-- The extended JSON of a document. -/
def encode (sortKeys : Bool) (doc : Document) : Except ExtendedJson.Refusal Json :=
  ExtendedJson.encode sortKeys (.document doc)

/-- A document on one line without spaces. -/
def format (sortKeys : Bool) (doc : Document) : Except ExtendedJson.Refusal (List Char) :=
  (doc.encode sortKeys).map Json.compactText

/-- A document laid out over many lines. -/
def render (sortKeys : Bool) (doc : Document) : Except ExtendedJson.Refusal (List Char) := do
  Json.indent (← doc.format sortKeys)

end Document

end DocBrowser
