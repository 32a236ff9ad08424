import DocBrowser.Store.Order
import DocBrowser.Store.Path
/-!
# Sorting documents

A sort order names paths with directions. The list is sorted once per path, the last path first,
by a stable sort, so earlier paths decide and later ones break ties. The sort keeps a run that is
in order at the start of the list and inserts the other items one by one, each behind the items that
it is not below; this fixes the result also where a NaN makes items incomparable.
-/

namespace DocBrowser

namespace Sorting

/-- The length of the run at the start of a list in which each item compares as wanted with the one before. -/
def runLength {α : Type} (wanted : α → α → Bool) : List α → Nat
  | [] => 0
  | [_] => 1
  | a :: b :: rest => if wanted a b then runLength wanted (b :: rest) + 1 else 1

/-- The run at the start of a list, in order, and the rest: a run that falls strictly is turned around. -/
def firstRun {α : Type} (less : α → α → Bool) (items : List α) : List α × List α :=
  let falling := runLength (fun a b => less b a) items
  if 1 < falling then ((items.take falling).reverse, items.drop falling)
  else
    let rising := runLength (fun a b => !less b a) items
    (items.take rising, items.drop rising)

/-- The place of an item among sorted ones, found by halving the part where it may be. -/
def placeOf {α : Type} (less : α → α → Bool) (sorted : Array α) (item : α) : Nat → Nat → Nat → Nat
  | 0, low, _ => low
  | n + 1, low, high =>
    if low < high then
      let middle := low + (high - low) / 2
      match sorted[middle]? with
      | some other =>
        if less item other then placeOf less sorted item n low middle
        else placeOf less sorted item n (middle + 1) high
      | none => low
    else low

/-- Puts an item in its place among sorted ones. -/
def insert {α : Type} (less : α → α → Bool) (sorted : List α) (item : α) : List α :=
  let place := placeOf less sorted.toArray item sorted.length 0 sorted.length
  sorted.take place ++ item :: sorted.drop place

/-- Sorts items; those that are not below one another keep their order. -/
def sort {α : Type} (less : α → α → Bool) (items : List α) : List α :=
  let (run, rest) := firstRun less items
  rest.foldl (insert less) run

/-- Sorts items from the top down; those that are not below one another keep their order. -/
def sortDown {α : Type} (less : α → α → Bool) (items : List α) : List α :=
  (sort less items.reverse).reverse

/-- What is said about a direction that is none. -/
def directionMessage (path : String) : String :=
  "Sort direction for " ++ Text.quote path ++ " must be 1 or -1"

/-- Whether a direction leads down; a direction is a number equal to 1 or -1. -/
def isDown (path : String) (direction : Value) : Except Failure Bool :=
  match direction.asDecimal? with
  | none => .error (.report (.query (directionMessage path) "sort"))
  | some d =>
    if d.isSignaling then .error .signaling
    else match d.magnitude? with
      | some (.finite negative 1 0) => .ok negative
      | _ => .error (.report (.query (directionMessage path) "sort"))

/-- What a document is ordered by at a path; a value that is missing counts as null. -/
def keyAt (path : String) (doc : Document) : Except Failure SortKey := do
  ((← doc.resolve path).getD .null).sortKey

/-- Sorts documents by one path. -/
def byPath (path : String) (direction : Value) (docs : List Document) : Except Failure (List Document) := do
  let down ← isDown path direction
  let keyed ← docs.mapM fun doc => do return (← keyAt path doc, doc)
  let less (a b : SortKey × Document) : Bool := a.1.less b.1
  return (if down then sortDown less keyed else sort less keyed).map (·.2)

end Sorting

/-- Sorts documents by a sort order. -/
def sortDocuments (docs : List Document) : Document → Except Failure (List Document)
  | [] => .ok docs
  | (path, direction) :: rest => do Sorting.byPath path direction (← sortDocuments docs rest)

end DocBrowser
