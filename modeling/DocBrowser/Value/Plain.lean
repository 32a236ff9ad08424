import DocBrowser.Value.Shown
import DocBrowser.Value.Equal
/-!
# Plain data of the host program

Programs hand over plain data, which is lifted into values, and take values back as plain data.
Kinds without a plain counterpart stay values.
-/

namespace DocBrowser

/-- Plain data. -/
inductive Plain where
  | none
  | bool (value : Bool)
  | int (value : Int)
  | float (value : Double)
  | decimal (value : Decimal)
  | text (value : String)
  | bytes (mutable : Bool) (data : List UInt8)
  | list (frozen : Bool) (items : List Plain)
  | dict (entries : List (Plain × Plain))
  | moment (t : Timestamp)
  | value (value : Value)
  | object
  deriving Inhabited

namespace Plain

/-- Why plain data is no value. -/
inductive Fault where
  /-- A whole number needs more than 64 bits. -/
  | wideInteger (n : Int)
  /-- No value corresponds to the data. -/
  | kind (name : String)
  /-- Something other than a mapping was to become a document. -/
  | notAMapping (name : String)
  deriving DecidableEq, Repr

/-- A fault in words. -/
def Fault.message : Fault → String
  | .wideInteger n => Bounded.message 64 n
  | .kind name => s!"cannot convert {name} to a document value"
  | .notAMapping name => s!"expected a mapping, got {name}"

/-- The name of a kind of plain data in messages. -/
def kindName : Plain → String
  | .none => "NoneType"
  | .bool _ => "bool"
  | .int _ => "int"
  | .float _ => "float"
  | .decimal _ => "Decimal"
  | .text _ => "str"
  | .bytes mutable _ => if mutable then "bytearray" else "bytes"
  | .list frozen _ => if frozen then "tuple" else "list"
  | .dict _ => "dict"
  | .moment _ => "datetime"
  | .value v => v.kindName
  | .object => "object"

mutual

/-- Plain data as messages show it. -/
def shown : Plain → List Char
  | .none => "None".toList
  | .bool x => if x then "True".toList else "False".toList
  | .int x => Text.intText x
  | .float x => x.text
  | .decimal x => "Decimal('".toList ++ x.text ++ "')".toList
  | .text x => Text.quoted x.toList
  | .bytes mutable data =>
    if mutable then "bytearray(".toList ++ Text.quotedBytes data ++ [')'] else Text.quotedBytes data
  | .list true [item] => '(' :: shown item ++ [',', ')']
  | .list frozen items =>
    (if frozen then '(' else '[') :: shownItems items ++ [if frozen then ')' else ']']
  | .dict entries => '\x7b' :: shownEntries entries ++ ['\x7d']
  | .moment t => t.isoText
  | .value v => v.shown
  | .object => "<object>".toList

/-- Items with a comma and a space between neighbours. -/
def shownItems : List Plain → List Char
  | [] => []
  | [item] => shown item
  | item :: rest => shown item ++ ',' :: ' ' :: shownItems rest

/-- Entries with a comma and a space between neighbours. -/
def shownEntries : List (Plain × Plain) → List Char
  | [] => []
  | [(key, x)] => shown key ++ ':' :: ' ' :: shown x
  | (key, x) :: rest => shown key ++ ':' :: ' ' :: shown x ++ ',' :: ' ' :: shownEntries rest

end

/-- The text that plain data becomes as a key. -/
def keyText : Plain → String
  | .text x => x
  | .decimal x => String.ofList x.text
  | key => String.ofList key.shown

/-- The number that a key stands for; keys that are equal numbers are one key. -/
def keyNumber? : Plain → Option Decimal.Magnitude
  | .bool x => some (.normal false x.toNat 0)
  | .int x => some (.normal (x < 0) x.natAbs 0)
  | .float x => x.magnitude?
  | .decimal x => x.magnitude?
  | _ => Option.none

/-- Whether two keys are one key. -/
def sameKey (a b : Plain) : Bool :=
  match a.keyNumber?, b.keyNumber? with
  | some x, some y => x = y
  | Option.none, Option.none => a.kindName = b.kindName && a.shown = b.shown
  | _, _ => false

/-- Sets an entry: in place, with the key it has, if the key is there. -/
def setEntry (entries : List (Plain × Plain)) (key x : Plain) : List (Plain × Plain) :=
  match entries with
  | [] => [(key, x)]
  | (k, v) :: rest => if sameKey k key then (k, x) :: rest else (k, v) :: setEntry rest key x

/-- A mapping with the given entries, set one after the other. -/
def mapping (entries : List (Plain × Plain)) : Plain :=
  .dict (entries.foldl (fun done entry => setEntry done entry.1 entry.2) [])

mutual

/-- The value that plain data stands for. -/
def toValue : Plain → Except Fault Value
  | .none => .ok .null
  | .bool x => .ok (.bool x)
  | .int n =>
    match Value.ofInt? n with
    | some x => .ok x
    | Option.none => .error (.wideInteger n)
  | .float x => .ok (.double x)
  | .decimal x => .ok (.decimal x)
  | .text x => .ok (.string x)
  | .bytes _ data => .ok (.binary data 0)
  | .list _ items => (toValues items).map .array
  | .dict entries => (toFields entries).map fun pairs => .document (fieldsOf pairs)
  | .moment t => .ok (.dateTime t.millis)
  | .value .foreign => .error (.kind "object")
  | .value v => .ok v
  | .object => .error (.kind "object")

/-- The values that items stand for. -/
def toValues : List Plain → Except Fault (List Value)
  | [] => .ok []
  | item :: rest => do
    let first ← toValue item
    let others ← toValues rest
    .ok (first :: others)

/-- The fields that entries stand for. -/
def toFields : List (Plain × Plain) → Except Fault (List (String × Value))
  | [] => .ok []
  | (key, item) :: rest => do
    let first ← toValue item
    let others ← toFields rest
    .ok ((key.keyText, first) :: others)

end

/-- The document that a mapping stands for. -/
def toDocument (data : Plain) : Except Fault Document :=
  match data with
  | .dict entries => (toFields entries).map fieldsOf
  | _ => .error (.notAMapping data.kindName)

end Plain

namespace Value

mutual

/-- The plain data of a value; `none` for dates outside the years 1 to 9999. -/
def toPlain? : Value → Option Plain
  | .null => some .none
  | .bool value => some (.bool value)
  | .int32 value => some (.int value.value)
  | .int64 value => some (.int value.value)
  | .double value => some (.float value)
  | .decimal value => some (.decimal value)
  | .string value => some (.text value)
  | .dateTime millis => (Timestamp.ofMillis? millis).map .moment
  | .binary data _ => some (.bytes false data)
  | .array items => (toPlainItems items).map (.list false)
  | .document fields => (toPlainEntries fields).map .dict
  | .foreign => some .object
  | value => some (.value value)

/-- The plain data of items. -/
def toPlainItems : List Value → Option (List Plain)
  | [] => some []
  | item :: rest => do
    let first ← toPlain? item
    let others ← toPlainItems rest
    some (first :: others)

/-- The plain data of fields. -/
def toPlainEntries : List (String × Value) → Option (List (Plain × Plain))
  | [] => some []
  | (key, value) :: rest => do
    let first ← toPlain? value
    let others ← toPlainEntries rest
    some ((.text key, first) :: others)

end

end Value

end DocBrowser
