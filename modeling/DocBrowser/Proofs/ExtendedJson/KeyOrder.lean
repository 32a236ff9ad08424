import Mathlib
import DocBrowser.ExtendedJson.Encode
/-!
# Values up to the order of keys

Sorting keys while writing changes a value only in the order of its keys, at whatever depth.
-/

namespace DocBrowser

/-! ## Equal up to order -/

mutual

/-- Two values are the same, but for the order of the keys in documents at any depth. -/
inductive Alike : Value → Value → Prop where
  | same (value : Value) : Alike value value
  | array {items items' : List Value} (h : AlikeItems items items') : Alike (.array items) (.array items')
  | document {fields fields' : Document} (h : AlikeFields fields fields') :
    Alike (.document fields) (.document fields')

/-- Items are alike one by one. -/
inductive AlikeItems : List Value → List Value → Prop where
  | nil : AlikeItems [] []
  | cons {item item' : Value} {rest rest' : List Value} (first : Alike item item') (others : AlikeItems rest rest') :
    AlikeItems (item :: rest) (item' :: rest')

/-- The fields of one document are those of the other in some order, with values that are alike. -/
inductive AlikeFields : Document → Document → Prop where
  | nil : AlikeFields [] []
  | cons {key : String} {value value' : Value} {rest rest' : Document} (first : Alike value value')
    (others : AlikeFields rest rest') : AlikeFields ((key, value) :: rest) ((key, value') :: rest')
  | reorder {fields fields' other : Document} (h : AlikeFields fields fields') (order : fields'.Perm other) :
    AlikeFields fields other

end

namespace ExtendedJson

/-! ## The order in which keys are written -/

mutual

/-- A value with its keys in the order in which they are written. -/
def arranged (sortKeys : Bool) : Value → Value
  | .array items => .array (arrangedItems sortKeys items)
  | .document fields => .document (ordered sortKeys (arrangedFields sortKeys fields))
  | value => value

/-- Items with their keys in the order in which they are written. -/
def arrangedItems (sortKeys : Bool) : List Value → List Value
  | [] => []
  | item :: rest => arranged sortKeys item :: arrangedItems sortKeys rest

/-- Fields in their own order, with the keys of their values in the order in which they are written. -/
def arrangedFields (sortKeys : Bool) : Document → Document
  | [] => []
  | (key, value) :: rest => (key, arranged sortKeys value) :: arrangedFields sortKeys rest

end

theorem ordered_perm {α : Type} (sortKeys : Bool) (fields : List (String × α)) :
    (ordered sortKeys fields).Perm fields := by
  unfold ordered
  split_ifs
  · exact List.mergeSort_perm _ _
  · exact .refl _

/-- Keys alone decide the order. -/
theorem ordered_map {α β : Type} (sortKeys : Bool) (f : α → β) (fields : List (String × α)) :
    ordered sortKeys (fields.map fun field => (field.1, f field.2)) =
      (ordered sortKeys fields).map fun field => (field.1, f field.2) := by
  unfold ordered
  split_ifs
  · refine (List.map_mergeSort ?_).symm
    exact fun _ _ _ _ => rfl
  · rfl

mutual

/-- Without sorting nothing changes. -/
theorem arranged_false (value : Value) : arranged false value = value := by
  cases value with
  | array items => rw [arranged, arrangedItems_false]
  | document fields => rw [arranged, arrangedFields_false]; rfl
  | _ => rfl

theorem arrangedItems_false (items : List Value) : arrangedItems false items = items := by
  cases items with
  | nil => rfl
  | cons item rest => rw [arrangedItems, arranged_false, arrangedItems_false]

theorem arrangedFields_false (fields : Document) : arrangedFields false fields = fields := by
  match fields with
  | [] => rfl
  | (key, value) :: rest => rw [arrangedFields, arranged_false, arrangedFields_false]

end

mutual

/-- Sorting keys changes nothing but their order. -/
theorem alike_arranged (sortKeys : Bool) (value : Value) : Alike value (arranged sortKeys value) := by
  cases value with
  | array items => rw [arranged]; exact .array (alike_arrangedItems sortKeys items)
  | document fields =>
    rw [arranged]
    exact .document (.reorder (alike_arrangedFields sortKeys fields) (ordered_perm _ _).symm)
  | _ => exact .same _

theorem alike_arrangedItems (sortKeys : Bool) (items : List Value) :
    AlikeItems items (arrangedItems sortKeys items) := by
  cases items with
  | nil => exact .nil
  | cons item rest =>
    rw [arrangedItems]
    exact .cons (alike_arranged sortKeys item) (alike_arrangedItems sortKeys rest)

theorem alike_arrangedFields (sortKeys : Bool) (fields : Document) :
    AlikeFields fields (arrangedFields sortKeys fields) := by
  match fields with
  | [] => exact .nil
  | (key, value) :: rest =>
    rw [arrangedFields]
    exact .cons (alike_arranged sortKeys value) (alike_arrangedFields sortKeys rest)

end

end ExtendedJson

end DocBrowser
