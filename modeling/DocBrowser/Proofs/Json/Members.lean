import Mathlib
import DocBrowser.Proofs.Json.Characters
import DocBrowser.Proofs.Text.Lines
/-!
# Members of data

What stands right inside data are the items of an array and the fields of an object. Both are written
alike: one after the other between brackets, each behind its key if it has one. What is shown of data
at any depth follows from what is shown of its members.
-/

namespace DocBrowser.Json

/-! ## Members -/

/-- The items of an array, or the fields of an object with their keys. -/
def members : Json → List (Option String × Json)
  | .arr items => items.map fun item => (none, item)
  | .obj fields => fields.map fun (key, value) => (some key, value)
  | _ => []

/-- The bracket in front of members. -/
def opening : Json → Char
  | .arr _ => '['
  | _ => '\x7b'

/-- The bracket behind members. -/
def closing : Json → Char
  | .arr _ => ']'
  | _ => '\x7d'

theorem sizeOf_lt_of_mem_members {data : Json} {member : Option String × Json} (h : member ∈ data.members) :
    sizeOf member.2 < sizeOf data := by
  cases data with
  | arr items =>
    obtain ⟨item, hitem, rfl⟩ := List.mem_map.1 h
    have hsize := List.sizeOf_lt_of_mem hitem
    simp only [arr.sizeOf_spec]
    omega
  | obj fields =>
    obtain ⟨⟨key, value⟩, hfield, rfl⟩ := List.mem_map.1 h
    have hsize := List.sizeOf_lt_of_mem hfield
    simp only [obj.sizeOf_spec, Prod.mk.sizeOf_spec] at hsize ⊢
    omega
  | _ => simp [members] at h

/-- What holds of data whenever it holds of its members holds of all data. -/
@[elab_as_elim]
theorem members_induction {motive : Json → Prop}
    (step : ∀ data, (∀ member ∈ data.members, motive member.2) → motive data) (data : Json) : motive data := by
  generalize hsize : sizeOf data = n
  induction n using Nat.strong_induction_on generalizing data with
  | _ n ih =>
    apply step
    intro member hmember
    exact ih _ (hsize ▸ sizeOf_lt_of_mem_members hmember) member.2 rfl

theorem readableItems_iff {items : List Json} : ReadableItems items ↔ ∀ item ∈ items, item.Readable := by
  induction items with
  | nil => simp [ReadableItems]
  | cons item rest ih => simp [ReadableItems, ih]

theorem readableFields_iff {fields : List (String × Json)} :
    ReadableFields fields ↔ ∀ field ∈ fields, field.2.Readable := by
  induction fields with
  | nil => simp [ReadableFields]
  | cons field rest ih => simp [ReadableFields, ih]

/-- Members of data that can be read can be read. -/
theorem Readable.member {data : Json} (h : data.Readable) {member : Option String × Json}
    (hmember : member ∈ data.members) : member.2.Readable := by
  cases data with
  | arr items =>
    obtain ⟨item, hitem, rfl⟩ := List.mem_map.1 hmember
    exact readableItems_iff.1 h item hitem
  | obj fields =>
    obtain ⟨field, hfield, rfl⟩ := List.mem_map.1 hmember
    exact readableFields_iff.1 h.2 field hfield
  | _ => simp [members] at hmember

/-! ## Written members -/

/-- The key in front of a value. -/
def label (layout : Layout) : Option String → List Char
  | none => []
  | some key => writeText false key.toList ++ ':' :: layout.afterColon

/-- A member as it is written at a depth. -/
def memberText (layout : Layout) (depth : ℕ) (member : Option String × Json) : List Char :=
  label layout member.1 ++ writeAt ⟨layout, false⟩ depth member.2

theorem writeItems_eq (layout : Layout) (depth : ℕ) (items : List Json) :
    writeItems ⟨layout, false⟩ depth items =
      (items.map fun item => memberText layout depth (none, item)).flatMap (',' :: layout.afterComma depth ++ ·) := by
  induction items with
  | nil => rfl
  | cons item rest ih => simp [writeItems, ih, memberText, label]

theorem writeFields_eq (layout : Layout) (depth : ℕ) (fields : List (String × Json)) :
    writeFields ⟨layout, false⟩ depth fields =
      (fields.map fun (key, value) => memberText layout depth (some key, value)).flatMap
        (',' :: layout.afterComma depth ++ ·) := by
  induction fields with
  | nil => rfl
  | cons field rest ih => simp [writeFields, ih, memberText, label]

/-- Data with members is written member by member between brackets. -/
theorem writeAt_of_members (layout : Layout) (depth : ℕ) {data : Json} (h : data.members ≠ []) :
    writeAt ⟨layout, false⟩ depth data =
      data.opening :: (layout.gap (depth + 1) ++
        (Text.joinWith (',' :: layout.afterComma (depth + 1)) (data.members.map (memberText layout (depth + 1))) ++
          (layout.gap depth ++ [data.closing]))) := by
  cases data with
  | arr items =>
    obtain ⟨item, rest, rfl⟩ := List.exists_cons_of_ne_nil (show items ≠ [] by rintro rfl; exact h rfl)
    rw [members, List.map_cons, List.map_cons, Text.joinWith_cons, List.map_map]
    simp [writeAt, writeItems_eq, memberText, label, opening, closing, Function.comp_def]
  | obj fields =>
    obtain ⟨⟨key, value⟩, rest, rfl⟩ := List.exists_cons_of_ne_nil (show fields ≠ [] by rintro rfl; exact h rfl)
    rw [members, List.map_cons, List.map_cons, Text.joinWith_cons, List.map_map]
    simp [writeAt, writeFields_eq, memberText, label, opening, closing, Function.comp_def]
  | _ => exact absurd rfl h

/-- Data without members is written alike in all layouts. -/
theorem writeAt_of_members_eq_nil (layout : Layout) (depth : ℕ) {data : Json} (h : data.members = []) :
    writeAt ⟨layout, false⟩ depth data = data.compactText := by
  rw [compactText, write]
  cases data with
  | arr items =>
    obtain rfl : items = [] := by simpa [members] using h
    simp [writeAt]
  | obj fields =>
    obtain rfl : fields = [] := by simpa [members] using h
    simp [writeAt]
  | _ => simp [writeAt]

/-! ## Characters of written members -/

/-- Keys are written without control characters. -/
theorem le_toNat_of_mem_label {layout : Layout} (hcolon : ∀ c ∈ layout.afterColon, 32 ≤ c.toNat)
    {key? : Option String} {c : Char} (h : c ∈ label layout key?) : 32 ≤ c.toNat := by
  cases key? with
  | none => simp [label] at h
  | some key =>
    rw [label, List.mem_append, List.mem_cons] at h
    rcases h with h | rfl | h
    · exact le_toNat_of_mem_writeText h
    · decide
    · exact hcolon c h

end DocBrowser.Json
