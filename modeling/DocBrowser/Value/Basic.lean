import DocBrowser.Fields
import DocBrowser.Text.Bytes
import DocBrowser.Number.Decimal
import DocBrowser.Calendar.Timestamp
/-!
# Values of documents

A document is a list of keys with typed values. Whole numbers come in two widths and object
identifiers have twelve bytes; both bounds are part of the types. In a well-formed value keys are
distinct at every level and decimals keep the bounds of their exponents.
-/

namespace DocBrowser

/-- A whole number that fits in a number of bits, the sign included. -/
structure Bounded (bits : Nat) where
  value : Int
  low : -(Nat.pow 2 (bits - 1) : Int) ≤ value
  high : value < Nat.pow 2 (bits - 1)
  deriving DecidableEq, Repr

/-- A number as a bounded one, where it fits. -/
def Bounded.ofInt? (bits : Nat) (n : Int) : Option (Bounded bits) :=
  if h : -(Nat.pow 2 (bits - 1) : Int) ≤ n ∧ n < Nat.pow 2 (bits - 1) then some ⟨n, h.1, h.2⟩ else none

/-- What is said about a number that does not fit. -/
def Bounded.message (bits : Nat) (n : Int) : String := s!"{n} is not a {bits}-bit integer"

/-- A twelve-byte object identifier. -/
structure ObjectId where
  bytes : List UInt8
  length_eq : bytes.length = 12
  deriving DecidableEq, Repr

namespace ObjectId

/-- Twelve bytes as an identifier. -/
def ofBytes? (bytes : List UInt8) : Option ObjectId :=
  if h : bytes.length = 12 then some ⟨bytes, h⟩ else none

/-- The 24 digits of an identifier. -/
def hex (id : ObjectId) : List Char := Text.hexOfBytes id.bytes

/-- Reads an identifier from its 24 digits. -/
def ofHex? (cs : List Char) : Option ObjectId := (Text.bytesOfHex? cs).bind ofBytes?

/-- What is said about bytes that are no identifier. -/
def lengthMessage : String := "ObjectId must be exactly 12 bytes"

/-- What is said about data, as it is shown, that is no identifier. -/
def hexMessage (shown : List Char) : String :=
  String.ofList shown ++ " is not a 24-digit hex ObjectId"

end ObjectId

/-- A value of a document. -/
inductive Value where
  | null
  | bool (value : Bool)
  | int32 (value : Bounded 32)
  | int64 (value : Bounded 64)
  | double (value : Double)
  | decimal (value : Decimal)
  | string (value : String)
  | objectId (id : ObjectId)
  /-- A point in time, in milliseconds from the start of 1970. -/
  | dateTime (millis : Int)
  | binary (data : List UInt8) (subtype : UInt8)
  | regex (pattern options : String)
  | minKey
  | maxKey
  | array (items : List Value)
  | document (fields : List (String × Value))
  /-- An object of the host that is no value: it can be carried along, but not written. -/
  | foreign
  deriving Inhabited

/-- The fields of a document, in order. -/
abbrev Document := List (String × Value)

namespace Value

/-- The name of a kind of value. -/
def kindName : Value → String
  | .null => "Null"
  | .bool _ => "Bool"
  | .int32 _ => "Int32"
  | .int64 _ => "Int64"
  | .double _ => "Double"
  | .decimal _ => "Decimal128"
  | .string _ => "String"
  | .objectId _ => "ObjectId"
  | .dateTime _ => "DateTime"
  | .binary .. => "Binary"
  | .regex .. => "Regex"
  | .minKey => "MinKey"
  | .maxKey => "MaxKey"
  | .array _ => "Array"
  | .document _ => "Document"
  | .foreign => "object"

/-- A whole number in the narrowest width that holds it. -/
def ofInt? (n : Int) : Option Value :=
  match Bounded.ofInt? 32 n with
  | some small => some (.int32 small)
  | none => (Bounded.ofInt? 64 n).map .int64

mutual

/-- Keys are distinct at every level, decimals are in range, and all parts are values. -/
def WellFormed : Value → Prop
  | .decimal value => value.InRange
  | .array items => WellFormedItems items
  | .document fields => (keysOf fields).Nodup ∧ WellFormedFields fields
  | .foreign => False
  | _ => True

/-- All items are well-formed. -/
def WellFormedItems : List Value → Prop
  | [] => True
  | item :: rest => WellFormed item ∧ WellFormedItems rest

/-- All field values are well-formed. -/
def WellFormedFields : List (String × Value) → Prop
  | [] => True
  | (_, value) :: rest => WellFormed value ∧ WellFormedFields rest

end

end Value

namespace Binary

/-- What is said about a subtype outside a byte, which hexadecimal digits can make too long to be written. -/
def subtypeMessage (subtype : Int) : String :=
  if Text.digitLimit < (Nat.toDigits 10 subtype.natAbs).length then Text.unwrittenMessage
  else s!"binary subtype {subtype} out of range"

/-- A subtype in a byte. -/
def subtype? (n : Int) : Option UInt8 := if 0 ≤ n ∧ n ≤ 255 then some n.toNat.toUInt8 else none

/-- What is said about text outside ASCII. -/
def asciiMessage : String := "string argument should contain only ASCII characters"

/-- What is said about text that is not base64. -/
def base64Message (text : String) : String := "invalid base64 payload " ++ Text.quote text

/-- Reads bytes from base64 text and pairs them with a subtype. -/
def ofBase64 (text : String) (subtype : Int) : Except String Value :=
  if text.toList.any fun c => 127 < c.toNat then .error asciiMessage
  else match Text.bytesOfBase64? text.toList with
    | none => .error (base64Message text)
    | some data => match subtype? subtype with
      | none => .error (subtypeMessage subtype)
      | some s => .ok (.binary data s)

end Binary

end DocBrowser
