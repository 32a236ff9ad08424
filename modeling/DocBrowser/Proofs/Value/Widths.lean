import Mathlib
import DocBrowser.Proofs.Value.Equality
import DocBrowser.Store.Path
/-!
# Values with wider numbers

A whole number of 32 bits may be stored with 64 bits, at any depth of a value. Bare numbers are compared by what
they stand for, so that a bare number is equal to the same values as before and is ordered with them. Arrays and
documents are equal where they stand for the same in the same widths, and are ordered by texts in which the
widths can be told apart.
-/

namespace DocBrowser

namespace Value

/-! ## Wider numbers -/

/-- Whether a value is a whole number that 32 bits can hold. -/
def isNarrow : Value → Bool
  | .int32 _ => true
  | .int64 n => (Bounded.ofInt? 32 n.value).isSome
  | _ => false

/-- Whether there is no number that 32 bits can hold in a value, at whatever depth. -/
def NarrowFree (value : Value) : Prop := ∀ inner : Value, inner.Within value → inner.isNarrow = false

theorem NarrowFree.part {value part : Value} (h : value.NarrowFree) (hpart : part ∈ value.parts) : part.NarrowFree :=
  fun inner hinner => h inner (.part hpart hinner)

/-- Whether the only number in a value that 32 bits can hold is the value itself. -/
def NarrowFreeInside (value : Value) : Prop := ∀ part ∈ value.parts, part.NarrowFree

theorem narrowFreeInside_of_not_isNested {value : Value} (h : value.isNested = false) : value.NarrowFreeInside := by
  cases value with
  | array | document => cases h
  | _ => exact List.forall_mem_nil _

theorem narrowFree_of_parts {value : Value} (hvalue : value.isNarrow = false) (h : value.NarrowFreeInside) :
    value.NarrowFree := by
  intro inner hinner
  cases hinner with
  | self => exact hvalue
  | part hpart hinner => exact h _ hpart inner hinner

mutual

/-- A value in which some numbers of 32 bits have been stored with 64 bits. -/
inductive Widened : Value → Value → Prop where
  | bare {value : Value} (h : value.isNested = false) : Widened value value
  | number {n : Bounded 32} {m : Bounded 64} (h : m.value = n.value) : Widened (.int32 n) (.int64 m)
  | array {items items' : List Value} (h : WidenedItems items items') : Widened (.array items) (.array items')
  | document {fields fields' : Document} (h : WidenedFields fields fields') :
    Widened (.document fields) (.document fields')

@[inherit_doc Widened]
inductive WidenedItems : List Value → List Value → Prop where
  | nil : WidenedItems [] []
  | cons {item item' : Value} {rest rest' : List Value} (first : Widened item item') (others : WidenedItems rest rest') :
    WidenedItems (item :: rest) (item' :: rest')

@[inherit_doc Widened]
inductive WidenedFields : Document → Document → Prop where
  | nil : WidenedFields [] []
  | cons {key : String} {value value' : Value} {rest rest' : Document} (first : Widened value value')
    (others : WidenedFields rest rest') : WidenedFields ((key, value) :: rest) ((key, value') :: rest')

end

theorem WidenedItems.forall₂ {items items' : List Value} (h : WidenedItems items items') :
    List.Forall₂ Widened items items' := by
  induction items generalizing items' with
  | nil =>
    cases h
    exact .nil
  | cons item rest ih =>
    cases h with
    | cons first others => exact .cons first (ih others)

theorem WidenedFields.keysOf_eq {fields fields' : Document} (h : WidenedFields fields fields') :
    keysOf fields = keysOf fields' := by
  induction fields generalizing fields' with
  | nil =>
    cases h
    rfl
  | cons field rest ih =>
    cases h with
    | cons _ others => exact congrArg (List.cons _) (ih others)

theorem WidenedFields.field? {fields fields' : Document} (h : WidenedFields fields fields') (key : String) :
    Option.Rel Widened (field? fields key) (field? fields' key) := by
  induction fields generalizing fields' with
  | nil =>
    cases h
    exact .none
  | cons field rest ih =>
    cases h with
    | cons first others =>
      rw [DocBrowser.field?, DocBrowser.field?]
      split_ifs
      · exact .some first
      · exact ih others

theorem WidenedItems.getElem? {items items' : List Value} (h : WidenedItems items items') (n : ℕ) :
    Option.Rel Widened items[n]? items'[n]? := by
  induction items generalizing items' n with
  | nil =>
    cases h
    exact .none
  | cons item rest ih =>
    cases h with
    | cons first others =>
      cases n with
      | zero => exact .some first
      | succ n => exact ih others n

mutual

/-- No number has to be widened. -/
theorem widened_refl (value : Value) : Widened value value := by
  cases value with
  | array items => exact .array (widenedItems_refl items)
  | document fields => exact .document (widenedFields_refl fields)
  | _ => exact .bare rfl

theorem widenedItems_refl (items : List Value) : WidenedItems items items := by
  cases items with
  | nil => exact .nil
  | cons item rest => exact .cons (widened_refl item) (widenedItems_refl rest)

theorem widenedFields_refl (fields : Document) : WidenedFields fields fields := by
  match fields with
  | [] => exact .nil
  | (key, value) :: rest => exact .cons (widened_refl value) (widenedFields_refl rest)

end

/-- What two paths lead to is the one widened, or both cannot be followed for one reason. -/
inductive FoundWidened : Except Failure (Option Value) → Except Failure (Option Value) → Prop where
  | failed (failure : Failure) : FoundWidened (.error failure) (.error failure)
  | found {value value' : Option Value} (h : Option.Rel Widened value value') : FoundWidened (.ok value) (.ok value')

theorem Widened.resolve {value value' : Value} (h : Widened value value') (path : List (List Char)) :
    FoundWidened (value.resolve path) (value'.resolve path) := by
  induction path generalizing value value' with
  | nil =>
    rw [Value.resolve, Value.resolve]
    exact .found (.some h)
  | cons part rest ih =>
    cases h with
    | @bare value hbare =>
      -- a path goes no further at a value that holds no others, widened or not
      have hresolve : value.resolve (part :: rest) = .ok none := by
        cases value with
        | array | document => cases hbare
        | _ => rfl
      rw [hresolve]
      exact .found .none
    | number => exact .found .none
    | @array items items' hitems =>
      rw [Value.resolve, Value.resolve]
      split_ifs
      · cases readPosition part with
        | error failure => exact .failed failure
        | ok n =>
          have hitem := hitems.getElem? n
          simp only [bind, Except.bind]
          -- the two lists have the same positions, and what stands at one is widened
          generalize items[n]? = found at hitem
          generalize items'[n]? = found' at hitem
          cases hitem with
          | none => exact .found .none
          | some hitem => exact ih hitem
      · exact .found .none
    | @document fields fields' hfields =>
      have hfield := hfields.field? (String.ofList part)
      rw [Value.resolve, Value.resolve]
      generalize DocBrowser.field? fields (String.ofList part) = found at hfield
      generalize DocBrowser.field? fields' (String.ofList part) = found' at hfield
      cases hfield with
      | none => exact .found .none
      | some hfield => exact ih hfield

/-! ## Equality -/

theorem Widened.asDecimal?_eq {value value' : Value} (h : Widened value value') : value.asDecimal? = value'.asDecimal? := by
  cases h with
  | number h => rw [asDecimal?, asDecimal?, h]
  | _ => rfl

theorem Widened.isNested_eq {value value' : Value} (h : Widened value value') : value.isNested = value'.isNested := by
  cases h <;> rfl

mutual

/-- By induction on the value: against numbers that 32 bits cannot hold, both widths fail. -/
theorem Widened.same_eq {value value' : Value} (h : Widened value value') {expected : Value} (hnarrow : expected.NarrowFree) :
    value.same expected = value'.same expected := by
  cases h with
  | bare => rfl
  | @number n m h =>
    cases expected with
    | int32 k => exact absurd (hnarrow _ .self) (by simp [isNarrow])
    | int64 k =>
      -- `k` would fit in 32 bits, as `m` does
      have hne : m ≠ k := by
        rintro rfl
        have hwide := hnarrow _ .self
        rw [isNarrow, Bounded.ofInt?, dif_pos ⟨h ▸ n.low, h ▸ n.high⟩] at hwide
        cases hwide
      simp [same, hne]
    | _ => simp [same]
  | array h =>
    cases expected with
    | array bs =>
      rw [same, same]
      exact h.sameItems_eq fun b hb => hnarrow.part hb
    | _ => simp [same]
  | document h =>
    cases expected with
    | document bs =>
      have hlength := congrArg List.length h.keysOf_eq
      rw [keysOf, keysOf, List.length_map, List.length_map] at hlength
      rw [same, same, hlength, h.sameFields_eq fun field hfield => hnarrow.part (mem_parts_document hfield)]
    | _ => simp [same]

theorem WidenedItems.sameItems_eq {as as' : List Value} (h : WidenedItems as as') {bs : List Value}
    (hnarrow : ∀ b ∈ bs, b.NarrowFree) : sameItems as bs = sameItems as' bs := by
  cases h with
  | nil => rfl
  | cons first others =>
    cases bs with
    | nil => rw [sameItems, sameItems]
    | cons b bs =>
      rw [List.forall_mem_cons] at hnarrow
      rw [sameItems, sameItems, first.same_eq hnarrow.1, others.sameItems_eq hnarrow.2]

theorem WidenedFields.sameFields_eq {as as' : Document} (h : WidenedFields as as') {bs : Document}
    (hnarrow : ∀ field ∈ bs, field.2.NarrowFree) : sameFields as bs = sameFields as' bs := by
  cases h with
  | nil => rfl
  | @cons key value value' rest rest' first others =>
    rw [sameFields, sameFields, others.sameFields_eq hnarrow]
    cases hb : DocBrowser.field? bs key with
    | none => rfl
    | some b => simp only [first.same_eq (hnarrow _ (mem_of_field?_eq_some hb))]

end

mutual

/-- Without a number to widen, a value stays what it is. -/
theorem Widened.eq {value value' : Value} (h : Widened value value') (hnarrow : value.NarrowFree) : value = value' := by
  cases h with
  | bare => rfl
  | number => exact absurd (hnarrow _ .self) (by simp [isNarrow])
  | array h => rw [h.eq fun item hitem => hnarrow.part hitem]
  | document h => rw [h.eq fun field hfield => hnarrow.part (mem_parts_document hfield)]

theorem WidenedItems.eq {items items' : List Value} (h : WidenedItems items items') (hnarrow : ∀ item ∈ items, item.NarrowFree) :
    items = items' := by
  cases h with
  | nil => rfl
  | cons first others =>
    rw [List.forall_mem_cons] at hnarrow
    rw [first.eq hnarrow.1, others.eq hnarrow.2]

theorem WidenedFields.eq {fields fields' : Document} (h : WidenedFields fields fields')
    (hnarrow : ∀ field ∈ fields, field.2.NarrowFree) : fields = fields' := by
  cases h with
  | nil => rfl
  | cons first others =>
    rw [List.forall_mem_cons] at hnarrow
    rw [first.eq hnarrow.1, others.eq hnarrow.2]

end

/-- Only numbers are the same as a number. -/
theorem same_number {value number : Value} (hvalue : value.asDecimal? = none) (hnumber : number.asDecimal?.isSome) :
    value.same number = .ok false := by
  cases number with
  | int32 | int64 | decimal =>
    cases value with
    | int32 | int64 | decimal => cases hvalue
    | _ => simp [same]
  | double =>
    cases value with
    | double d => cases d <;> cases hvalue
    | _ => simp [same]
  | _ => cases hnumber

/-- What has no number that 32 bits can hold among its parts is equal to a value in any width. -/
theorem Widened.equal_eq {value value' : Value} (h : Widened value value') {expected expected' : Value}
    (hexpected : Widened expected expected') (hinside : expected.NarrowFreeInside) :
    value.equal expected = value'.equal expected' := by
  rw [equal, equal, ← h.asDecimal?_eq, ← hexpected.asDecimal?_eq]
  cases hnumber : expected.asDecimal? with
  | none =>
    -- what is compared is no number, so it is not widened at all
    have hbare : expected.isNarrow = false := by
      cases expected with
      | int32 | int64 => cases hnumber
      | _ => rfl
    have hnarrow := narrowFree_of_parts hbare hinside
    rw [← hexpected.eq hnarrow, h.same_eq hnarrow]
  | some y =>
    cases hvalue : value.asDecimal? with
    | none =>
      rw [same_number hvalue (by simp [hnumber]), same_number (h.asDecimal?_eq ▸ hvalue)
        (by simp [← hexpected.asDecimal?_eq, hnumber])]
    | some x => rfl

/-! ## Order -/

/-- Whether two computations fail alike: with one failure, or not at all. -/
def FailAlike {ε α β : Type} (x : Except ε α) (y : Except ε β) : Prop := x.map (fun _ => ()) = y.map (fun _ => ())

theorem failAlike_ok {ε α β : Type} (a : α) (b : β) : FailAlike (.ok a : Except ε α) (.ok b) := rfl

theorem FailAlike.map {ε α β γ δ : Type} {x : Except ε α} {y : Except ε β} (h : FailAlike x y) (f : α → γ) (g : β → δ) :
    FailAlike (x.map f) (y.map g) := by
  cases x <;> cases y <;> exact h

theorem FailAlike.bind {ε α β γ δ : Type} {x : Except ε α} {y : Except ε β} (h : FailAlike x y) {f : α → Except ε γ}
    {g : β → Except ε δ} (hrest : ∀ a b, FailAlike (f a) (g b)) : FailAlike (x >>= f) (y >>= g) := by
  cases x <;> cases y
  · cases h
    rfl
  · cases h
  · cases h
  · exact hrest _ _

/-- Computations that fail alike and otherwise lead to one result are one computation. -/
theorem FailAlike.bind_eq {ε α β γ : Type} {x : Except ε α} {y : Except ε β} (h : FailAlike x y) {f : α → Except ε γ}
    {g : β → Except ε γ} {result : Except ε γ} (hx : ∀ a, x = .ok a → f a = result) (hy : ∀ b, y = .ok b → g b = result) :
    (x >>= f) = (y >>= g) := by
  cases x <;> cases y
  · cases h
    rfl
  · cases h
  · cases h
  · exact (hx _ rfl).trans (hy _ rfl).symm

theorem WidenedFields.clashingKeys_eq {fields fields' : Document} (h : WidenedFields fields fields') :
    ExtendedJson.clashingKeys fields = ExtendedJson.clashingKeys fields' := by
  have hkeys (fields : Document) (key : String) : hasField fields key = (keysOf fields).any (· = key) := by
    rw [hasField, keysOf, List.any_map]
    rfl
  rw [ExtendedJson.clashingKeys, ExtendedJson.clashingKeys]
  congr 1
  funext key
  rw [hkeys, hkeys, h.keysOf_eq]

mutual

/-- Both widths have a written form. -/
theorem Widened.encode {value value' : Value} (h : Widened value value') :
    FailAlike (ExtendedJson.encode false value) (ExtendedJson.encode false value') := by
  cases h with
  | bare => rfl
  | number => exact failAlike_ok _ _
  | array h =>
    rw [ExtendedJson.encode, ExtendedJson.encode]
    exact h.encodeItems.map _ _
  | document h =>
    rw [ExtendedJson.encode, ExtendedJson.encode, ← h.clashingKeys_eq]
    split
    · exact h.allFields.map _ _
    · rfl

theorem WidenedItems.encodeItems {items items' : List Value} (h : WidenedItems items items') :
    FailAlike (ExtendedJson.encodeItems false items) (ExtendedJson.encodeItems false items') := by
  cases h with
  | nil => rfl
  | cons first others =>
    rw [ExtendedJson.encodeItems, ExtendedJson.encodeItems]
    exact first.encode.bind fun _ _ => others.encodeItems.bind fun _ _ => failAlike_ok _ _

theorem WidenedFields.allFields {fields fields' : Document} (h : WidenedFields fields fields') :
    FailAlike (ExtendedJson.allFields (ExtendedJson.ordered false (ExtendedJson.encodeFields false fields)))
      (ExtendedJson.allFields (ExtendedJson.ordered false (ExtendedJson.encodeFields false fields'))) := by
  cases h with
  | nil => rfl
  | cons first others =>
    rw [ExtendedJson.encodeFields, ExtendedJson.encodeFields]
    exact first.encode.bind fun _ _ => others.allFields.bind fun _ _ => failAlike_ok _ _

end

theorem Widened.nestedText {value value' : Value} (h : Widened value value') :
    FailAlike value.nestedText value'.nestedText := by
  have hencode := (Widened.document (.cons h .nil : WidenedFields [("v", value)] [("v", value')])).encode
  have hformat : FailAlike (Document.format false [("v", value)]) (Document.format false [("v", value')]) :=
    hencode.map Json.compactText Json.compactText
  rw [Value.nestedText, Value.nestedText]
  generalize Document.format false [("v", value)] = text at hformat
  generalize Document.format false [("v", value')] = text' at hformat
  cases text <;> cases text'
  · cases hformat
    rfl
  · cases hformat
  · cases hformat
  · exact failAlike_ok _ _

theorem Widened.sortKey_eq {value value' : Value} (h : Widened value value') (hbare : value.isNested = false) :
    value.sortKey = value'.sortKey := by
  cases h with
  | bare => rfl
  | number h => simp [sortKey, rank, h]
  | array | document => cases hbare

theorem rank_of_sortKey {value : Value} {key : SortKey} (h : value.sortKey = .ok key) : key.rank = value.rank := by
  cases value with
  | decimal d =>
    simp only [sortKey] at h
    split at h <;> cases h
    rfl
  | array | document =>
    obtain ⟨text, -, rfl⟩ := map_eq_ok.1 h
    rfl
  | _ =>
    cases h
    rfl

theorem Widened.sortKey {value value' : Value} (h : Widened value value') : FailAlike value.sortKey value'.sortKey := by
  cases h with
  | bare => rfl
  | number => exact failAlike_ok _ _
  | array h => exact (Widened.array h).nestedText.map _ _
  | document h => exact (Widened.document h).nestedText.map _ _

theorem rank_ne_of_isNested {value bound : Value} (hvalue : value.isNested = true) (hbound : bound.isNested = false) :
    value.rank ≠ bound.rank := by
  cases value with
  | array | document =>
    cases bound with
    | array | document => cases hbound
    | _ => simp [rank]
  | _ => cases hvalue

end Value

end DocBrowser
