import DocBrowser.Query.Options
import DocBrowser.Store.Filter
import DocBrowser.Store.Projection
import DocBrowser.Store.Sorting
/-!
# The store

Documents are kept in the order in which they were inserted, each under the value of its `_id` key.
A document without one gets a fresh identifier, made of the time, of bytes of the process and of a
counter that goes on with every identifier that is asked for.
-/

namespace DocBrowser

/-- Where fresh identifiers come from. -/
structure IdSource where
  /-- Seconds from the start of 1970. -/
  time : Int
  process : List UInt8
  process_length : process.length = 5 := by decide
  counter : Nat

namespace IdSource

/-- The number of identifiers after which the counter starts again. -/
def cycle : Nat := 0xFFFFFF

/-- A number in a fixed count of bytes, the highest first. -/
def bytesOf : Nat → Nat → List UInt8
  | 0, _ => []
  | count + 1, n => bytesOf count (n / 256) ++ [(n % 256).toUInt8]

/-- A number in bytes has as many bytes as asked for. -/
theorem length_bytesOf (count n : Nat) : (bytesOf count n).length = count := by
  induction count generalizing n with
  | zero => rfl
  | succ count ih => simp [bytesOf, ih]

/-- The identifier for a counter. -/
def idAt (source : IdSource) (time : Nat) : ObjectId where
  bytes := bytesOf 4 time ++ (source.process ++ bytesOf 3 (source.counter % cycle))
  length_eq := by simp [length_bytesOf, source.process_length]

/-- The next identifier, if the time fits into it, and the source behind it. -/
def next (source : IdSource) : Except Failure ObjectId × IdSource :=
  let after := { source with counter := source.counter + 1 }
  if 0 ≤ source.time ∧ source.time < 0x100000000 then (.ok (source.idAt source.time.toNat), after)
  else (.error .outOfRange, after)

end IdSource

/-- The documents in order, and where fresh identifiers come from. -/
structure Store where
  documents : List Document
  ids : IdSource

namespace Store

/-- The key under which a document holds its identifier. -/
def idKey : String := "_id"

/-- The text of an identifier in reports. -/
def idText (id : Value) : Except Failure String :=
  match Document.format false [(idKey, id)] with
  | .ok text => .ok (String.ofList text)
  | .error refusal => .error refusal.failure

/-- Whether a document is stored under an identifier. -/
def hasId (id : Value) (doc : Document) : Except Failure Bool :=
  match field? doc idKey with
  | some own => own.equal id
  | none => .ok false

/-- The position of the first document with an identifier. -/
def positionOf? (id : Value) : List Document → Except Failure (Option Nat)
  | [] => .ok none
  | doc :: rest => do
    if ← hasId id doc then return some 0
    else return (← positionOf? id rest).map (· + 1)

/-- The failure of looking up an identifier that is not there. -/
def notFound (id : Value) : Failure :=
  match idText id with
  | .ok text => .report (Report.make .notFound none [("document_id", .str text)])
  | .error failure => failure

/-- The failure of inserting a second document under an identifier. -/
def duplicate (id : Value) : Failure :=
  match idText id with
  | .ok text => .report (.store "Duplicate _id" [("document_id", .str text)])
  | .error failure => failure

/-- The position of an identifier that has to be there. -/
def positionOf (store : Store) (id : Value) : Except Failure Nat := do
  match ← positionOf? id store.documents with
  | some position => return position
  | none => .error (notFound id)

/-- The document with an identifier. -/
def get (store : Store) (id : Value) : Except Failure Document := do
  let position ← store.positionOf id
  match store.documents[position]? with
  | some doc => return doc
  | none => .error (notFound id)

/-- The document that is found under the identifier that the last one holds. -/
def getLast (store : Store) (id : Value) : Except Failure Document := do
  match ← positionOf? id store.documents.dropLast with
  | some position => found store.documents[position]?
  | none => if ← id.equalsItself then found store.documents.getLast? else .error (notFound id)
where
  /-- The answer to looking up a document that may be missing. -/
  found : Option Document → Except Failure Document
    | some doc => .ok doc
    | none => .error (notFound id)

/-- Appends a document. -/
def append (store : Store) (doc : Document) : Store :=
  { store with documents := store.documents ++ [doc] }

/-- Inserts a document under its own identifier or under a fresh one, which is the answer. -/
def insert (store : Store) (doc : Document) : Except Failure Value × Store :=
  match field? doc idKey with
  | none =>
    let (id, ids) := store.ids.next
    let store := { store with ids }
    match id with
    | .ok id => (.ok (.objectId id), store.append ((idKey, .objectId id) :: doc))
    | .error failure => (.error failure, store)
  | some id =>
    match positionOf? id store.documents with
    | .error failure => (.error failure, store)
    | .ok (some _) => (.error (duplicate id), store)
    | .ok none =>
      match idText id with
      | .ok _ => (.ok id, store.append doc)
      | .error failure => (.error failure, store)

/-- Replaces the document with an identifier; the identifier comes first in the new one. -/
def update (store : Store) (id : Value) (doc : Document) : Except Failure Store := do
  let position ← store.positionOf id
  return { store with documents := store.documents.set position ((idKey, id) :: eraseField doc idKey) }

/-- Removes the document with an identifier. -/
def delete (store : Store) (id : Value) : Except Failure Store := do
  let position ← store.positionOf id
  return { store with documents := store.documents.eraseIdx position }

/-- The part of a list that a window shows; a limit of zero is none. -/
def window {α : Type} (skip limit : Nat) (items : List α) : List α :=
  if limit = 0 then items.drop skip else (items.drop skip).take limit

/-- The documents that a query asks for, and the number of all that match its filter. -/
def list (store : Store) (query : Query.Options) : Except Failure (List Document × Nat) := do
  let found ← store.documents.filterM (·.matchesFilter query.filter)
  let sorted ← sortDocuments found query.sort
  let shown ← (window query.skip query.limit sorted).mapM (projectDocument · query.projection)
  return (shown, found.length)

/-- Documents in the order of the store, a window given by numbers that may be negative. -/
def listWindow (store : Store) (skip limit : Int) : Except Failure (List Document × Nat) :=
  if skip < 0 then .error (.report (.query "skip and limit must not be negative" "skip"))
  else if limit < 0 then .error (.report (.query "skip and limit must not be negative" "limit"))
  else store.list { skip := skip.toNat, limit := limit.toNat }

/-- Inserts documents one after the other, up to the first that fails. -/
def insertAll (store : Store) : List Document → Except Failure Unit × Store
  | [] => (.ok (), store)
  | doc :: rest =>
    match store.insert doc with
    | (.ok _, store) => store.insertAll rest
    | (.error failure, store) => (.error failure, store)

end Store

/-- Documents as text, one on each line. -/
def dumpDocuments (docs : List Document) : Except ExtendedJson.Refusal (List Char) := do
  return ((← docs.mapM (Document.format false)).map (· ++ ['\n'])).flatten

end DocBrowser
