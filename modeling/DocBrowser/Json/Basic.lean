import DocBrowser.Fields
import DocBrowser.Number.Shortest
import DocBrowser.Text.Digits
import DocBrowser.Text.Quoted
/-!
# JSON data

Numbers without a fraction and an exponent are whole and unbounded, all others are doubles.
Objects keep the order of their keys; a repeated key keeps its first place and takes the last value.
-/

namespace DocBrowser

/-- JSON data. -/
inductive Json where
  | null
  | bool (value : Bool)
  | int (value : Int)
  | float (value : Double)
  | str (value : String)
  | arr (items : List Json)
  | obj (fields : List (String × Json))
  deriving Inhabited

namespace Json

/-- The name of a kind of data in messages. -/
def kindName : Json → String
  | .null => "NoneType"
  | .bool _ => "bool"
  | .int _ => "int"
  | .float _ => "float"
  | .str _ => "str"
  | .arr _ => "list"
  | .obj _ => "dict"

/-- The fields of an object, none for other data. -/
def fields : Json → List (String × Json)
  | .obj fields => fields
  | _ => []

/-- Whether data counts as given: it is neither null, false, zero nor empty. -/
def counts : Json → Bool
  | .null | .bool false | .arr [] | .obj [] => false
  | .str text => text ≠ ""
  | .int n => n ≠ 0
  | .float d => !d.isZero
  | _ => true

/-! ## Data shown in messages -/

mutual

/-- Data as messages show it: texts quoted, constants by their names. -/
def shown : Json → List Char
  | .null => "None".toList
  | .bool value => if value then "True".toList else "False".toList
  | .int value => Text.intText value
  | .float value => value.text
  | .str value => Text.quoted value.toList
  | .arr items => '[' :: shownItems items ++ [']']
  | .obj fields => '\x7b' :: shownFields fields ++ ['\x7d']

/-- Items with a comma and a space between neighbours. -/
def shownItems : List Json → List Char
  | [] => []
  | [item] => shown item
  | item :: rest => shown item ++ ',' :: ' ' :: shownItems rest

/-- Fields with a comma and a space between neighbours. -/
def shownFields : List (String × Json) → List Char
  | [] => []
  | [(key, value)] => Text.quoted key.toList ++ ':' :: ' ' :: shown value
  | (key, value) :: rest =>
    Text.quoted key.toList ++ ':' :: ' ' :: shown value ++ ',' :: ' ' :: shownFields rest

end

/-- Data as text: strings as they are, all else as it is shown. -/
def plainText : Json → List Char
  | .str text => text.toList
  | data => data.shown

end Json

end DocBrowser
