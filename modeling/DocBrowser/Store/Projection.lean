import DocBrowser.Failure
/-!
# Projections

A projection names the paths that a document is reduced to, or those that it loses. Including and
excluding do not mix, except that the identifier has a flag of its own: it is always included
unless its flag says otherwise.
-/

namespace DocBrowser

namespace Projection

/-- The key of the identifier. -/
def idKey : String := "_id"

/-- Whether a flag is on. -/
def isOn : Value → Except Failure Bool
  | .bool value => .ok value
  | .int32 n => .ok (n.value ≠ 0)
  | .int64 n => .ok (n.value ≠ 0)
  | .double d => .ok (!d.isZero)
  | .decimal d => .ok (!d.isZero)
  | _ => .error (.report (.query "Projection values must be 0/1 or true/false" "projection"))

/-- A path as the key that it starts with and what follows the first point. -/
def splitHead (path : List Char) : List Char × List Char :=
  (path.takeWhile (· ≠ '.'), (path.dropWhile (· ≠ '.')).drop 1)

/-- What follows a key in the paths that start with it. -/
def restsOf (paths : List (List Char)) (key : String) : List (List Char) :=
  paths.filterMap fun path =>
    let (head, rest) := splitHead path
    if head = key.toList then some rest else none

mutual

/-- The fields that are left of a document, the paths named including or excluding them. -/
def projectFields (including : Bool) (paths : List (List Char)) :
    List (String × Value) → List (String × Value)
  | [] => []
  | (key, value) :: rest =>
    let others := projectFields including paths rest
    match restsOf paths key with
    | [] => if including then others else (key, value) :: others
    | rests =>
      if rests.contains [] then if including then (key, value) :: others else others
      else match projectValue including rests value with
        | some inner => (key, inner) :: others
        | none => others

/-- What is left of a value below a key; paths lead into documents only. -/
def projectValue (including : Bool) (paths : List (List Char)) : Value → Option Value
  | .document fields => some (.document (projectFields including paths fields))
  | value => if including then none else some value

end

end Projection

open Projection in
/-- A document reduced by a projection; the empty projection leaves it as it is. -/
def projectDocument (doc projection : Document) : Except Failure Document :=
  if projection.isEmpty then .ok doc
  else do
    let flags ← projection.mapM fun (key, value) => do return (key, ← isOn value)
    let id := field? flags idKey
    let others := eraseField flags idKey
    if others.any (·.2) && others.any (!·.2) then
      .error (.report (.query "Cannot mix inclusion and exclusion in a projection" "projection"))
    else
      let including := others.any (·.2) || (others.isEmpty && id = some true)
      let named := (keysOf others).map String.toList
      let withId := if including then id ≠ some false else id = some false
      let paths := if withId then named ++ [idKey.toList] else named
      .ok (projectFields including paths doc)

end DocBrowser
