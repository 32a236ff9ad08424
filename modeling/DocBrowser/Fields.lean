/-!
# Fields in order

Objects and documents are lists of keys with values. Setting a key that is there keeps its place,
so a list built by setting keys has each key once, where it was first set, with its last value.
-/

namespace DocBrowser

/-- Sets a key: in place if it is there, at the end if not. -/
def setField {α : Type} (fields : List (String × α)) (key : String) (value : α) : List (String × α) :=
  match fields with
  | [] => [(key, value)]
  | (k, v) :: rest => if k = key then (k, value) :: rest else (k, v) :: setField rest key value

/-- The value of a key. -/
def field? {α : Type} (fields : List (String × α)) (key : String) : Option α :=
  match fields with
  | [] => none
  | (k, v) :: rest => if k = key then some v else field? rest key

/-- Whether a key is set. -/
def hasField {α : Type} (fields : List (String × α)) (key : String) : Bool :=
  fields.any (·.1 = key)

/-- Fields in order, a repeated key in its first place with its last value. -/
def fieldsOf {α : Type} (pairs : List (String × α)) : List (String × α) :=
  pairs.foldl (fun fields pair => setField fields pair.1 pair.2) []

/-- The fields without a key. -/
def eraseField {α : Type} (fields : List (String × α)) (key : String) : List (String × α) :=
  fields.filter (·.1 ≠ key)

/-- The keys in order. -/
def keysOf {α : Type} (fields : List (String × α)) : List String := fields.map (·.1)

end DocBrowser
