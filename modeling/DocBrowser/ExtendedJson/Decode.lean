import DocBrowser.ExtendedJson.Encode
/-!
# Values from extended JSON

Objects with a wrapper key stand for typed values and must have exactly the shape of their wrapper;
all other data reads as it is. Dates without an offset are placed in a zone.
-/

namespace DocBrowser

namespace ExtendedJson

/-- Why a binary wrapper stands for no bytes. -/
inductive BinaryFault where
  | shape
  | subtypeKind
  | subtypeText (text : String)
  | payloadKind (kind : String)
  | payload (message : String)
  deriving DecidableEq, Repr

/-- A fault of a binary wrapper in words; a shown text is cut to two hundred characters. -/
def BinaryFault.message : BinaryFault → String
  | .shape => "$binary needs base64 and subType"
  | .subtypeKind => "int() can't convert non-string with explicit base"
  | .subtypeText text =>
    "invalid literal for int() with base 16: " ++
      String.ofList ((Text.quoted text.toList).take 200)
  | .payloadKind kind => s!"argument should be a bytes-like object or ASCII string, not '{kind}'"
  | .payload message => message

/-- Why an object with a wrapper key stands for no value. -/
inductive Cause where
  | objectIdText (shown : String)
  | objectIdKind (kind : String)
  | objectIdUnsized (kind : String)
  | date (fault : Timestamp.Fault)
  | dateShape
  | integerText
  | integerRange (n : Int) (bits : Nat)
  | doubleKind
  | doubleText (text : String)
  | decimalKind
  | decimalText (text : String)
  | binary (fault : BinaryFault)
  | binaryShape
  | regex
  | malformed
  deriving DecidableEq, Repr

/-- What is said about text that is no decimal. -/
def decimalMessage (text : String) : String := "invalid decimal " ++ Text.quote text

/-- A cause in words. -/
def Cause.message : Cause → String
  | .objectIdText shown => "invalid ObjectId: " ++ ObjectId.hexMessage shown.toList
  | .objectIdKind kind => s!"invalid ObjectId: fromhex() argument must be str, not {kind}"
  | .objectIdUnsized kind => s!"invalid ObjectId: object of type '{kind}' has no len()"
  | .date fault => "invalid date: " ++ fault.message
  | .dateShape => "$date needs an ISO string or $numberLong"
  | .integerText => "integer wrapper needs a string of digits"
  | .integerRange n bits => s!"{n} does not fit in {bits} bits"
  | .doubleKind => "$numberDouble needs a string"
  | .doubleText text => "invalid double " ++ Text.quote text
  | .decimalKind => "$numberDecimal needs a string"
  | .decimalText text => decimalMessage text
  | .binary fault => "invalid binary: " ++ fault.message
  | .binaryShape => "malformed $binary wrapper"
  | .regex => "$regularExpression needs pattern and options strings"
  | .malformed => "malformed extended-JSON wrapper"

/-- Why data stands for no value. -/
inductive Fault where
  /-- A wrapper is malformed; the fragment shows it. -/
  | wrapper (cause : Cause) (fragment : String)
  /-- A whole number needs more than 64 bits. -/
  | wideInteger (n : Int)
  /-- A whole number has more digits than a conversion accepts. -/
  | longInteger (digits : Nat)
  deriving DecidableEq, Repr

/-- A fault in words. -/
def Fault.message : Fault → String
  | .wrapper cause _ => cause.message
  | .wideInteger n => Bounded.message 64 n
  | .longInteger digits => Text.tooManyDigitsMessage digits

/-- The fault of a wrapper, shown whole. -/
def Cause.inWrapper {α : Type} (cause : Cause) (fields : List (String × Json)) : Except Fault α :=
  .error (.wrapper cause (String.ofList (Json.spacedText (.obj fields))))

/-! ## Wrappers -/

/-- Reads the digits of an integer wrapper, within a number of bits. -/
def readInteger (payload : Json) (fields : List (String × Json)) (bits : Nat) :
    Except Fault (Bounded bits) :=
  match payload with
  | .str text =>
    if Text.isIntegerText text.toList then
      match Text.readInt text.toList with
      | .error (.tooManyDigits count) => .error (.longInteger count)
      | .error .notANumber => Cause.integerText.inWrapper fields
      | .ok n =>
        match Bounded.ofInt? bits n with
        | some value => .ok value
        | none => (Cause.integerRange n bits).inWrapper fields
    else Cause.integerText.inWrapper fields
  | _ => Cause.integerText.inWrapper fields

/-- Reads an object identifier. -/
def readObjectId (payload : Json) (fields : List (String × Json)) : Except Fault Value :=
  let notHex : Except Fault Value :=
    (Cause.objectIdText (String.ofList payload.shown)).inWrapper fields
  let sized (length : Nat) : Except Fault Value :=
    if length = 24 then (Cause.objectIdKind payload.kindName).inWrapper fields else notHex
  match payload with
  | .str text =>
    match ObjectId.ofHex? text.toList with
    | some id => .ok (.objectId id)
    | none => notHex
  | .arr items => sized items.length
  | .obj inner => sized inner.length
  | _ => (Cause.objectIdUnsized payload.kindName).inWrapper fields

/-- Reads a point in time. -/
def readDate (zone : Zone) (payload : Json) (fields : List (String × Json)) : Except Fault Value :=
  match payload with
  | .str text =>
    match Timestamp.parse zone text with
    | .ok t => .ok (.dateTime t.millis)
    | .error fault => .error (.wrapper (.date fault) text)
  | .obj [("$numberLong", digits)] => (readInteger digits fields 64).map fun n => .dateTime n.value
  | .int n => .ok (.dateTime n)
  | _ => Cause.dateShape.inWrapper fields

/-- Reads a double. -/
def readDouble (payload : Json) (fields : List (String × Json)) : Except Fault Value :=
  match payload with
  | .str text =>
    match Double.ofText? text.toList with
    | some d => .ok (.double d)
    | none => (Cause.doubleText text).inWrapper fields
  | _ => Cause.doubleKind.inWrapper fields

/-- Reads a decimal. -/
def readDecimal (payload : Json) (fields : List (String × Json)) : Except Fault Value :=
  match payload with
  | .str text =>
    match Decimal.ofText? text.toList with
    | some d => .ok (.decimal d)
    | none => (Cause.decimalText text).inWrapper fields
  | _ => Cause.decimalKind.inWrapper fields

/-- Reads bytes and their subtype; the subtype is looked at first. -/
def readBytes (payload subtype : Json) : Except BinaryFault Value :=
  match subtype with
  | .str digits =>
    match Text.readHexInt? digits.toList with
    | none => .error (.subtypeText digits)
    | some n =>
      match payload with
      | .str text =>
        match Binary.ofBase64 text n with
        | .ok value => .ok value
        | .error message => .error (.payload message)
      | _ => .error (.payloadKind payload.kindName)
  | _ => .error .subtypeKind

/-- Reads a binary wrapper in its present or in its older shape. -/
def readBinary (payload : Json) (fields : List (String × Json)) : Except Fault Value :=
  let answer (read : Except BinaryFault Value) : Except Fault Value :=
    match read with
    | .ok value => .ok value
    | .error fault => (Cause.binary fault).inWrapper fields
  match payload with
  | .obj inner =>
    if fields.length = 1 then
      match field? inner "base64", field? inner "subType" with
      | some text, some subtype =>
        if inner.length = 2 then answer (readBytes text subtype) else answer (.error .shape)
      | _, _ => answer (.error .shape)
    else Cause.binaryShape.inWrapper fields
  | .str _ =>
    match field? fields "$type" with
    | some subtype =>
      if fields.length = 2 then answer (readBytes payload subtype)
      else Cause.binaryShape.inWrapper fields
    | none => Cause.binaryShape.inWrapper fields
  | _ => Cause.binaryShape.inWrapper fields

/-- Reads a regular expression. -/
def readRegex (payload : Json) (fields : List (String × Json)) : Except Fault Value :=
  let refused : Except Fault Value := Cause.regex.inWrapper fields
  match payload with
  | .obj inner =>
    if inner.all fun (key, _) => key = "pattern" || key = "options" then
      match field? inner "pattern", field? inner "options" with
      | some (.str pattern), none => .ok (.regex pattern "")
      | some (.str pattern), some (.str options) => .ok (.regex pattern options)
      | _, _ => refused
    else refused
  | _ => refused

/-- Reads the wrapper of a bound of all values, whose payload is one. -/
def readBound (payload : Json) (fields : List (String × Json)) (bound : Value) : Except Fault Value :=
  match payload with
  | .int 1 => .ok bound
  | _ => Cause.malformed.inWrapper fields

/-- Reads an object that has a wrapper key. -/
def unwrap (zone : Zone) (fields : List (String × Json)) : Except Fault Value :=
  match field? fields "$binary" with
  | some payload => readBinary payload fields
  | none =>
    match fields with
    | [("$oid", payload)] => readObjectId payload fields
    | [("$date", payload)] => readDate zone payload fields
    | [("$numberInt", payload)] => (readInteger payload fields 32).map .int32
    | [("$numberLong", payload)] => (readInteger payload fields 64).map .int64
    | [("$numberDouble", payload)] => readDouble payload fields
    | [("$numberDecimal", payload)] => readDecimal payload fields
    | [("$regularExpression", payload)] => readRegex payload fields
    | [("$minKey", payload)] => readBound payload fields .minKey
    | [("$maxKey", payload)] => readBound payload fields .maxKey
    | _ => Cause.malformed.inWrapper fields

/-- Whether an object is a wrapper. -/
def isWrapper (fields : List (String × Json)) : Bool := fields.any fun (key, _) => isWrapperKey key

mutual

/-- The value that data stands for. -/
def decode (zone : Zone) : Json → Except Fault Value
  | .null => .ok .null
  | .bool value => .ok (.bool value)
  | .int n =>
    match Value.ofInt? n with
    | some value => .ok value
    | none => .error (.wideInteger n)
  | .float value => .ok (.double value)
  | .str value => .ok (.string value)
  | .arr items => (decodeItems zone items).map .array
  | .obj fields => if isWrapper fields then unwrap zone fields else (decodeFields zone fields).map .document

/-- The values that items stand for. -/
def decodeItems (zone : Zone) : List Json → Except Fault (List Value)
  | [] => .ok []
  | item :: rest => do
    let first ← decode zone item
    let others ← decodeItems zone rest
    .ok (first :: others)

/-- The values that fields stand for. -/
def decodeFields (zone : Zone) : List (String × Json) → Except Fault (List (String × Value))
  | [] => .ok []
  | (key, data) :: rest => do
    let first ← decode zone data
    let others ← decodeFields zone rest
    .ok ((key, first) :: others)

end

end ExtendedJson

end DocBrowser
