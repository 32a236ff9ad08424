import Mathlib
import DocBrowser.Proofs.Json.DistinctKeys
/-!
# The scalars of data

Data is read back from its text if all its scalars are and keys are distinct. What was read from strict text
has distinct keys and scalars that are each read back, the infinite doubles apart: a number may be too large
for a double, while no word of strict JSON says so.
-/

namespace DocBrowser.Json

mutual

/-- What data holds that is neither an array nor an object, from left to right. -/
def scalars : Json → List Json
  | .arr items => scalarsItems items
  | .obj fields => scalarsFields fields
  | data => [data]

@[inherit_doc scalars]
def scalarsItems : List Json → List Json
  | [] => []
  | item :: rest => scalars item ++ scalarsItems rest

@[inherit_doc scalars]
def scalarsFields : List (String × Json) → List Json
  | [] => []
  | (_, value) :: rest => scalars value ++ scalarsFields rest

end

theorem mem_scalarsItems {items : List Json} {scalar : Json} :
    scalar ∈ scalarsItems items ↔ ∃ item ∈ items, scalar ∈ item.scalars := by
  induction items with
  | nil => simp [scalarsItems]
  | cons item rest ih => simp [scalarsItems, ih]

theorem mem_scalarsFields {fields : List (String × Json)} {scalar : Json} :
    scalar ∈ scalarsFields fields ↔ ∃ field ∈ fields, scalar ∈ field.2.scalars := by
  induction fields with
  | nil => simp [scalarsFields]
  | cons field rest ih => simp [scalarsFields, ih]

section

variable {strictness : Strictness}

theorem Atomic.scalars_eq {data : Json} (h : Atomic strictness data) : data.scalars = [data] := by
  cases h <;> rfl

theorem inherited_atomic (strictness : Strictness) :
    Inherited strictness fun data => ∀ scalar ∈ data.scalars, Atomic strictness scalar where
  atom hatom := by
    rw [hatom.scalars_eq, List.forall_mem_singleton]
    exact hatom
  arr hitems scalar hmem := by
    obtain ⟨item, hitem, hscalar⟩ := mem_scalarsItems.1 hmem
    exact hitems item hitem scalar hscalar
  empty := List.forall_mem_nil _
  setField key hfields hvalue scalar hmem := by
    obtain ⟨field, hfield, hscalar⟩ := mem_scalarsFields.1 hmem
    rcases mem_setField hfield with heq | hold
    · exact hvalue scalar (heq ▸ hscalar)
    · exact hfields scalar (mem_scalarsFields.2 ⟨field, hold, hscalar⟩)

/-- Each scalar of data that was read is what a single token stands for. -/
theorem atomic_of_parseWith {cs : List Char} {data : Json} (h : parseWith strictness cs = .ok data) :
    ∀ scalar ∈ data.scalars, Atomic strictness scalar := (inherited_atomic strictness).of_parseWith h

end

/-! ## Data that reads back -/

mutual

/-- Data reads back if its keys are distinct and its scalars read back. -/
theorem readable_iff_scalars (data : Json) :
    data.Readable ↔ data.DistinctKeys ∧ ∀ scalar ∈ data.scalars, scalar.Readable := by
  match data with
  | .null | .bool _ | .int _ | .float _ | .str _ => simp [scalars, DistinctKeys]
  | .arr items => exact readableItems_iff_scalars items
  | .obj fields =>
    rw [Readable, DistinctKeys, readableFields_iff_scalars fields, and_assoc]
    rfl

theorem readableItems_iff_scalars (items : List Json) :
    ReadableItems items ↔ DistinctKeysItems items ∧ ∀ scalar ∈ scalarsItems items, scalar.Readable := by
  match items with
  | [] => simp [ReadableItems, DistinctKeysItems, scalarsItems]
  | item :: rest =>
    rw [ReadableItems, DistinctKeysItems, scalarsItems, readable_iff_scalars item, readableItems_iff_scalars rest,
      List.forall_mem_append]
    exact and_and_and_comm

theorem readableFields_iff_scalars (fields : List (String × Json)) :
    ReadableFields fields ↔ DistinctKeysFields fields ∧ ∀ scalar ∈ scalarsFields fields, scalar.Readable := by
  match fields with
  | [] => simp [ReadableFields, DistinctKeysFields, scalarsFields]
  | (key, value) :: rest =>
    rw [ReadableFields, DistinctKeysFields, scalarsFields, readable_iff_scalars value, readableFields_iff_scalars rest,
      List.forall_mem_append]
    exact and_and_and_comm

end

theorem Atomic.readable_iff {data : Json} (h : Atomic .strict data) :
    data.Readable ↔ ∀ negative, data ≠ .float (.infinite negative) := by
  cases h with
  | int short => simpa [Readable] using short
  | @float d number =>
    cases d with
    | nan => exact absurd rfl (number rfl)
    | infinite negative => simp [Readable, Double.isFinite]
    | finite negative place => simp [Readable, Double.isFinite]
  | _ => simp [Readable]

/-! ## Data that strict text holds -/

/-- Data as strict text can hold it. -/
structure Strict (data : Json) : Prop where
  keys : data.DistinctKeys
  atoms : ∀ scalar ∈ data.scalars, Atomic .strict scalar

theorem strict_of_parse {cs : List Char} {data : Json} (h : parse cs = .ok data) : data.Strict :=
  ⟨distinctKeys_of_parseWith h, atomic_of_parseWith h⟩

theorem Strict.item {items : List Json} (h : (arr items).Strict) : ∀ item ∈ items, item.Strict := fun item hitem =>
  ⟨distinctKeysItems_iff.1 h.keys item hitem, fun _ hmem => h.atoms _ (mem_scalarsItems.2 ⟨item, hitem, hmem⟩)⟩

theorem Strict.field {fields : List (String × Json)} (h : (obj fields).Strict) : ∀ field ∈ fields, field.2.Strict :=
  fun field hfield => ⟨distinctKeysFields_iff.1 h.keys.2 field hfield,
    fun _ hmem => h.atoms _ (mem_scalarsFields.2 ⟨field, hfield, hmem⟩)⟩

/-- Such data reads back if it holds nothing infinite. -/
theorem Strict.readable_iff {data : Json} (h : data.Strict) :
    data.Readable ↔ ∀ negative, .float (.infinite negative) ∉ data.scalars := by
  rw [readable_iff_scalars, and_iff_right h.keys]
  constructor
  · intro hscalars negative hmem
    exact (h.atoms _ hmem).readable_iff.1 (hscalars _ hmem) negative rfl
  · intro hfinite scalar hmem
    refine (h.atoms scalar hmem).readable_iff.2 fun negative heq => ?_
    exact hfinite negative (heq ▸ hmem)

end DocBrowser.Json
