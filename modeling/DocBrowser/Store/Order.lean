import DocBrowser.ExtendedJson.Encode
import DocBrowser.Failure
/-!
# Order of values

Values of different kinds are ordered by the rank of their kind, values of one kind by what they
hold. Numbers of all widths are compared exactly, counted in units of the smallest positive double;
a NaN is neither below nor above any number. Documents and arrays are ordered by their text.
-/

namespace DocBrowser

/-- A number counted in units of `2 ^ (-1074)`, in which every finite double is whole. -/
inductive Units where
  | nan
  | infinite (negative : Bool)
  | finite (count : Int)
  deriving DecidableEq, Repr

namespace Units

/-- A whole number in units. -/
def ofInt (n : Int) : Units := .finite (n * Nat.pow 2 1074)

/-- A double in units. -/
def ofDouble : Double → Units
  | .nan => .nan
  | .infinite negative => .infinite negative
  | .finite negative place => .finite (Double.units negative place.val)

/-- Whether a number is below another one. -/
def less : Units → Units → Bool
  | .nan, _ | _, .nan => false
  | .finite a, .finite b => a < b
  | .infinite a, .infinite b => a && !b
  | .infinite a, .finite _ => a
  | .finite _, .infinite b => !b

end Units

/-- What values of one kind are ordered by. -/
inductive SortPart where
  | nothing
  | number (units : Units)
  | flag (value : Bool)
  | text (text : String)
  | bytes (bytes : List UInt8)
  /-- Binary data: shorter data first, then by subtype, then by the bytes. -/
  | binary (length : Nat) (subtype : UInt8) (data : List UInt8)
  | texts (first second : String)
  deriving DecidableEq, Repr

/-- Whether one part is below another. -/
def SortPart.less : SortPart → SortPart → Bool
  | .number a, .number b => a.less b
  | .flag a, .flag b => !a && b
  | .text a, .text b => a < b
  | .bytes a, .bytes b => a < b
  | .binary n s a, .binary m t b =>
    if n ≠ m then n < m else if s ≠ t then s < t else a < b
  | .texts a b, .texts c d => if a ≠ c then a < c else b < d
  | _, _ => false

/-- What values are ordered by: first the rank of their kind. -/
structure SortKey where
  rank : Nat
  part : SortPart

/-- Whether one key is below another. -/
def SortKey.less (a b : SortKey) : Bool :=
  if a.rank ≠ b.rank then a.rank < b.rank else a.part.less b.part

/-- The order of two keys; keys that cannot be compared count as equal. -/
def SortKey.compare (a b : SortKey) : Ordering :=
  if a.less b then .lt else if b.less a then .gt else .eq

namespace Value

/-- The rank of a kind of value. -/
def rank : Value → Nat
  | .minKey => 0
  | .null => 1
  | .int32 _ | .int64 _ | .double _ | .decimal _ => 2
  | .string _ => 3
  | .document _ => 4
  | .array _ => 5
  | .binary .. => 6
  | .objectId _ => 7
  | .bool _ => 8
  | .dateTime _ => 9
  | .regex .. => 10
  | .maxKey => 11
  | .foreign => 99

/-- What is said about a signaling NaN that is to be a double. -/
def signalingMessage : String := "cannot convert signaling NaN to float"

/-- The text that a nested value is ordered by. -/
def nestedText (value : Value) : Except Failure String :=
  match Document.format false [("v", value)] with
  | .ok text => .ok (String.ofList text)
  | .error refusal => .error refusal.failure

/-- What a value is ordered by. -/
def sortKey (value : Value) : Except Failure SortKey :=
  let key (part : SortPart) : SortKey := ⟨value.rank, part⟩
  match value with
  | .int32 n => .ok (key (.number (.ofInt n.value)))
  | .int64 n => .ok (key (.number (.ofInt n.value)))
  | .double d => .ok (key (.number (.ofDouble d)))
  | .decimal d =>
    match d.toDouble? with
    | some d => .ok (key (.number (.ofDouble d)))
    | none => .error (.conversion signalingMessage)
  | .string text => .ok (key (.text text))
  | .bool flag => .ok (key (.flag flag))
  | .dateTime millis => .ok (key (.number (.ofInt millis)))
  | .objectId id => .ok (key (.bytes id.bytes))
  | .binary data subtype => .ok (key (.binary data.length subtype data))
  | .regex pattern options => .ok (key (.texts pattern options))
  | .document _ | .array _ => (nestedText value).map fun text => key (.text text)
  | .null | .minKey | .maxKey | .foreign => .ok (key .nothing)

/-- A number as a decimal of the same value. -/
def asDecimal? : Value → Option Decimal
  | .int32 n => some (.finite (n.value < 0) n.value.natAbs 0)
  | .int64 n => some (.finite (n.value < 0) n.value.natAbs 0)
  | .decimal d => some d
  | .double .nan => some (.nan false false 0)
  | .double (.infinite negative) => some (.infinite negative)
  | .double (.finite negative place) =>
    let (coefficient, exponent) := Double.exactDecimal place
    some (.finite negative coefficient exponent)
  | _ => none

/-- Whether a value is a number. -/
def isNumber (value : Value) : Bool := value.asDecimal?.isSome

/-- Whether two values are equal, numbers of all kinds by what they stand for. -/
def equal (a b : Value) : Except Failure Bool :=
  orFailure Signaling.failure <| match a.asDecimal?, b.asDecimal? with
    | some x, some y => x.equal y
    | _, _ => a.same b

/--
Whether a value that is looked up is equal to itself. Numbers are compared by what they stand for;
any other value is itself, whatever is inside of it.
-/
def equalsItself (value : Value) : Except Failure Bool :=
  if value.isNumber then value.equal value else .ok true

end Value

end DocBrowser
