import DocBrowser.Value.Basic
/-!
# Values shown in messages

A value is shown as its kind and its payload; texts are quoted.
-/

namespace DocBrowser.Value

mutual

/-- A value as messages show it. -/
def shown : Value → List Char
  | .null => "Null()".toList
  | .bool value => (if value then "Bool(value=True)" else "Bool(value=False)").toList
  | .int32 value => "Int32(value=".toList ++ Text.intText value.value ++ [')']
  | .int64 value => "Int64(value=".toList ++ Text.intText value.value ++ [')']
  | .double value => "Double(value=".toList ++ value.text ++ [')']
  | .decimal value => "Decimal128(value=Decimal('".toList ++ value.text ++ "'))".toList
  | .string value => "String(value=".toList ++ Text.quoted value.toList ++ [')']
  | .objectId id => "ObjectId('".toList ++ id.hex ++ "')".toList
  | .dateTime millis => "DateTime(millis=".toList ++ Text.intText millis ++ [')']
  | .binary data subtype =>
    "Binary(data=".toList ++ Text.quotedBytes data ++ ", subtype=".toList ++
      Nat.toDigits 10 subtype.toNat ++ [')']
  | .regex pattern options =>
    "Regex(pattern=".toList ++ Text.quoted pattern.toList ++ ", options=".toList ++
      Text.quoted options.toList ++ [')']
  | .minKey => "MinKey()".toList
  | .maxKey => "MaxKey()".toList
  | .array [item] => "Array(items=(".toList ++ shown item ++ ",))".toList
  | .array items => "Array(items=(".toList ++ shownItems items ++ "))".toList
  | .document fields => "Document(fields=\x7b".toList ++ shownFields fields ++ "\x7d)".toList
  | .foreign => "<object>".toList

/-- Items with a comma and a space between neighbours. -/
def shownItems : List Value → List Char
  | [] => []
  | [item] => shown item
  | item :: rest => shown item ++ ',' :: ' ' :: shownItems rest

/-- Fields with a comma and a space between neighbours. -/
def shownFields : List (String × Value) → List Char
  | [] => []
  | [(key, value)] => Text.quoted key.toList ++ ':' :: ' ' :: shown value
  | (key, value) :: rest =>
    Text.quoted key.toList ++ ':' :: ' ' :: shown value ++ ',' :: ' ' :: shownFields rest

end

end DocBrowser.Value
