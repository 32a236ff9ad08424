import DocBrowser.Failure
import DocBrowser.Text.Lines
/-!
# Paths into documents

A path is a list of keys separated by points. A part of digits is also a position in an array.
-/

namespace DocBrowser

/-- The parts of a path. -/
def pathParts (path : String) : List (List Char) := Text.splitAt '.' path.toList

/-- What is said about digits without a place value that are to be a position. -/
def positionMessage (part : List Char) : String :=
  "invalid literal for int() with base 10: " ++ String.ofList ((Text.quoted part).take 200)

/-- Whether a part of a path may be a position: digits of any kind. -/
def isPosition (part : List Char) : Bool := part ≠ [] && part.all Text.isAnyDigit

/-- The position that digits spell. -/
def readPosition (part : List Char) : Except Failure Nat :=
  match Text.readInt part with
  | .ok n => .ok n.toNat
  | .error .notANumber => .error (.conversion (positionMessage part))
  | .error (.tooManyDigits n) => .error (.conversion (Text.tooManyDigitsMessage n))

/-- The value that the parts of a path lead to, if there is one. -/
def Value.resolve (value : Value) : List (List Char) → Except Failure (Option Value)
  | [] => .ok (some value)
  | part :: rest =>
    match value with
    | .document fields =>
      match field? fields (String.ofList part) with
      | some inner => inner.resolve rest
      | none => .ok none
    | .array items =>
      if isPosition part then do
        let position ← readPosition part
        match items[position]? with
        | some inner => inner.resolve rest
        | none => .ok none
      else .ok none
    | _ => .ok none

/-- The value at a path of a document, if there is one. -/
def Document.resolve (doc : Document) (path : String) : Except Failure (Option Value) :=
  (Value.document doc).resolve (pathParts path)

end DocBrowser
