import DocBrowser.Value.Basic
/-!
# Equality of values

Two values are equal when they are of one kind and hold the same: documents in any order of keys,
decimals and doubles by the number they stand for. A quiet decimal NaN equals nothing, and to
compare a signaling one is an error.
-/

namespace DocBrowser

/-- A signaling NaN was compared. -/
inductive Signaling where
  | compared
  deriving DecidableEq, Repr

/-- Whether two decimals stand for one number. -/
def Decimal.equal (a b : Decimal) : Except Signaling Bool :=
  if a.isSignaling || b.isSignaling then .error .compared
  else match a.magnitude?, b.magnitude? with
    | some x, some y => .ok (x = y)
    | _, _ => .ok false

namespace Value

mutual

/-- Whether two values are equal. -/
def same : Value → Value → Except Signaling Bool
  | .null, .null => .ok true
  | .bool a, .bool b => .ok (a = b)
  | .int32 a, .int32 b => .ok (a = b)
  | .int64 a, .int64 b => .ok (a = b)
  | .double a, .double b => .ok (a.same b)
  | .decimal a, .decimal b => a.equal b
  | .string a, .string b => .ok (a = b)
  | .objectId a, .objectId b => .ok (a = b)
  | .dateTime a, .dateTime b => .ok (a = b)
  | .binary a s, .binary b t => .ok (a = b ∧ s = t)
  | .regex p o, .regex q u => .ok (p = q ∧ o = u)
  | .minKey, .minKey => .ok true
  | .maxKey, .maxKey => .ok true
  | .array as, .array bs => sameItems as bs
  | .document as, .document bs => if as.length = bs.length then sameFields as bs else .ok false
  | _, _ => .ok false

/-- Whether two lists of items are equal. -/
def sameItems : List Value → List Value → Except Signaling Bool
  | [], bs => .ok bs.isEmpty
  | _ :: _, [] => .ok false
  | a :: as, b :: bs => do if ← same a b then sameItems as bs else .ok false

/-- Whether every field has an equal value in the other fields. -/
def sameFields : List (String × Value) → List (String × Value) → Except Signaling Bool
  | [], _ => .ok true
  | (key, a) :: as, bs =>
    match field? bs key with
    | none => .ok false
    | some b => do if ← same a b then sameFields as bs else .ok false

end

end Value

/-- Whether two documents are equal, in whatever order their keys are. -/
def Document.same (a b : Document) : Except Signaling Bool := Value.same (.document a) (.document b)

end DocBrowser
