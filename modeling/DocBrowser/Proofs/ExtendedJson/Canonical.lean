import Mathlib
import DocBrowser.Proofs.ExtendedJson.Injective
/-!
# Sorted text as a canonical form

Sorting the keys at every level gives all values that differ only in the order of their keys one arrangement, and
what is written of a value with sorted keys is what is written of its arrangement. So two documents are written
alike with sorted keys exactly if they are the same up to the order of keys.
-/

namespace DocBrowser

namespace ExtendedJson

/-! ## One arrangement, one value up to order -/

theorem alikeItems_of_forall₂ {items items' : List Value} (h : List.Forall₂ Alike items items') :
    AlikeItems items items' := by
  induction h with
  | nil => exact .nil
  | cons hfirst _ ih => exact .cons hfirst ih

theorem alikeFields_of_forall₂ {fields fields' : Document}
    (h : List.Forall₂ (fun field field' => field.1 = field'.1 ∧ Alike field.2 field'.2) fields fields') :
    AlikeFields fields fields' := by
  induction h with
  | nil => exact .nil
  | @cons field field' rest rest' hfirst _ ih =>
    obtain ⟨key, value⟩ := field
    obtain ⟨key', value'⟩ := field'
    obtain ⟨rfl, hvalue⟩ := hfirst
    exact .cons hvalue ih

/-- Lists with the same images up to order are the same images one by one, up to order. -/
theorem exists_perm_of_map_perm {α β : Type} {f : α → β} {as bs : List α} (h : (as.map f).Perm (bs.map f)) :
    ∃ between, List.Forall₂ (fun a b => f a = f b) as between ∧ between.Perm bs := by
  have himages : List.Forall₂ (fun image b => image = f b) (bs.map f) bs := by
    rw [List.forall₂_map_left_iff, List.forall₂_same]
    intro b _
    rfl
  obtain ⟨between, hbetween, order⟩ := List.perm_comp_forall₂ h himages
  rw [List.forall₂_map_left_iff] at hbetween
  exact ⟨between, hbetween, order⟩

theorem isNested_arranged (sortKeys : Bool) (value : Value) : (arranged sortKeys value).isNested = value.isNested := by
  cases value <;> rfl

theorem arranged_of_bare {value : Value} (h : value.isNested = false) (sortKeys : Bool) :
    arranged sortKeys value = value := by
  cases value with
  | array | document => cases h
  | _ => rfl

/-- Values with one arrangement differ only in the order of their keys. -/
theorem alike_of_arranged_eq {a b : Value} (h : arranged true a = arranged true b) : Alike a b := by
  induction a using Value.parts_induction generalizing b with
  | step a ih =>
    have hnested : a.isNested = b.isNested := by
      rw [← isNested_arranged true a, h, isNested_arranged]
    cases ha : a.isNested with
    | false =>
      rw [arranged_of_bare ha, arranged_of_bare (hnested ▸ ha)] at h
      rw [h]
      exact .same b
    | true =>
      rw [ha] at hnested
      cases a with
      | array as =>
        cases b with
        | array bs =>
          rw [arranged, arranged, Value.array.injEq, arrangedItems_eq_map, arrangedItems_eq_map,
            ← List.forall₂_eq_eq_eq, List.forall₂_map_left_iff, List.forall₂_map_right_iff] at h
          apply Alike.array
          apply alikeItems_of_forall₂
          apply forall₂_imp_of_mem h
          intro a ha b hitem
          exact ih a ha hitem
        | document bs =>
          rw [arranged, arranged] at h
          cases h
        | _ => cases hnested
      | document as =>
        cases b with
        | document bs =>
          rw [arranged, arranged, Value.document.injEq, arrangedFields_eq_map, arrangedFields_eq_map] at h
          -- sorted they are the same, so before that they are the same but for the order
          have order := (ordered_perm true (as.map fun field => (field.1, arranged true field.2))).symm
          rw [h] at order
          replace order := order.trans (ordered_perm true _)
          obtain ⟨between, hbetween, order'⟩ := exists_perm_of_map_perm order
          apply Alike.document
          refine .reorder ?_ order'
          apply alikeFields_of_forall₂
          apply forall₂_imp_of_mem hbetween
          intro field hfield field' hsame
          obtain ⟨hkey, hvalue⟩ := Prod.mk.inj hsame
          exact ⟨hkey, ih field.2 (Value.mem_parts_document hfield) hvalue⟩
        | array bs =>
          rw [arranged, arranged] at h
          cases h
        | _ => cases hnested
      | _ => cases ha

/-! ## Values alike, one arrangement -/

theorem keysOf_arrangedFields (sortKeys : Bool) (fields : Document) :
    keysOf (arrangedFields sortKeys fields) = keysOf fields := by
  rw [arrangedFields_eq_map, keysOf, List.map_map]
  rfl

/-- Fields with distinct keys are sorted into one order, in whatever order they are given. -/
theorem ordered_eq_of_perm {α : Type} {fields fields' : List (String × α)} (hkeys : (keysOf fields).Nodup)
    (order : fields.Perm fields') : ordered true fields = ordered true fields' := by
  have hsorted (fields : List (String × α)) : (ordered true fields).Pairwise fun a b => a.1 ≤ b.1 := by
    have htrans (a b c : String × α) (hab : decide (a.1 ≤ b.1) = true) (hbc : decide (b.1 ≤ c.1) = true) :
        decide (a.1 ≤ c.1) = true := by
      rw [decide_eq_true_eq] at hab hbc ⊢
      exact le_trans hab hbc
    have htotal (a b : String × α) : (decide (a.1 ≤ b.1) || decide (b.1 ≤ a.1)) = true := by
      rw [Bool.or_eq_true, decide_eq_true_eq, decide_eq_true_eq]
      exact le_total a.1 b.1
    have hpairwise := List.pairwise_mergeSort htrans htotal fields
    simp only [decide_eq_true_eq] at hpairwise
    exact hpairwise
  have order' : (ordered true fields).Perm (ordered true fields') :=
    (ordered_perm true fields).trans (order.trans (ordered_perm true fields').symm)
  refine List.Perm.eq_of_pairwise ?_ (hsorted fields) (hsorted fields') order'
  intro a b ha hb hab hba
  -- a key stands with one value only
  have hmem : a ∈ fields := (ordered_perm true fields).mem_iff.1 ha
  have hmem' : b ∈ fields := order.mem_iff.2 ((ordered_perm true fields').mem_iff.1 hb)
  exact List.inj_on_of_nodup_map hkeys hmem hmem' (le_antisymm hab hba)

end ExtendedJson

open ExtendedJson

mutual

/-- Values that differ only in the order of their keys have one arrangement. -/
theorem Alike.arranged_eq {a b : Value} : Alike a b → a.WellFormed → arranged true a = arranged true b
  | .same _, _ => rfl
  | .array hitems, hwf => by rw [arranged, arranged, hitems.arrangedItems_eq hwf]
  | .document hfields, hwf => by
    have hkeys := (keysOf_arrangedFields true _).symm ▸ hwf.1
    rw [arranged, arranged, ordered_eq_of_perm hkeys (hfields.arrangedFields_perm hwf.2)]

theorem AlikeItems.arrangedItems_eq {items items' : List Value} : AlikeItems items items' →
    Value.WellFormedItems items → arrangedItems true items = arrangedItems true items'
  | .nil, _ => rfl
  | .cons hfirst hothers, hwf => by
    rw [arrangedItems, arrangedItems, hfirst.arranged_eq hwf.1, hothers.arrangedItems_eq hwf.2]

theorem AlikeFields.arrangedFields_perm {fields fields' : Document} : AlikeFields fields fields' →
    Value.WellFormedFields fields → (arrangedFields true fields).Perm (arrangedFields true fields')
  | .nil, _ => .refl _
  | .cons hfirst hothers, hwf => by
    rw [arrangedFields, arrangedFields, hfirst.arranged_eq hwf.1]
    exact .cons _ (hothers.arrangedFields_perm hwf.2)
  | .reorder hfields order, hwf => by
    apply (hfields.arrangedFields_perm hwf).trans
    rw [arrangedFields_eq_map, arrangedFields_eq_map]
    exact order.map _

end

namespace ExtendedJson

/-! ## Written in the order of the arrangement -/

theorem clashingKeys_eq_of_perm {fields fields' : Document}
    (h : (keysOf fields).Perm (keysOf fields')) : clashingKeys fields = clashingKeys fields' := by
  have hhas (fields : Document) (key : String) : hasField fields key = (keysOf fields).any fun k => decide (k = key) := by
    rw [hasField, keysOf, List.any_map]
    rfl
  apply List.filter_congr
  intro key _
  rw [hhas, hhas, h.any_eq]

theorem encodeItems_arranged {items : List Value}
    (h : ∀ item ∈ items, encode false (arranged true item) = encode true item) :
    encodeItems false (arrangedItems true items) = encodeItems true items := by
  induction items with
  | nil => rfl
  | cons item rest ih =>
    rw [List.forall_mem_cons] at h
    rw [arrangedItems, encodeItems, encodeItems, h.1, ih h.2]

/-- Writing a value with sorted keys is writing its arrangement in the order of its own keys. -/
theorem encode_arranged (value : Value) : encode false (arranged true value) = encode true value := by
  induction value using Value.parts_induction with
  | step value ih =>
    cases hnested : value.isNested with
    | false =>
      rw [arranged_of_bare hnested]
      cases value with
      | array | document => cases hnested
      | _ => rfl
    | true =>
      cases value with
      | array items =>
        have hitems : encodeItems false (arrangedItems true items) = encodeItems true items := encodeItems_arranged ih
        rw [arranged, encode, encode, hitems]
      | document fields =>
        -- arranging permutes the keys, so a clash is reported on both sides or on neither
        have hkeys : (keysOf (ordered true (arrangedFields true fields))).Perm (keysOf fields) := by
          rw [← keysOf_arrangedFields true fields]
          exact (ordered_perm true _).map _
        have hfields : encodeFields false (ordered true (arrangedFields true fields)) =
            ordered true (encodeFields true fields) := by
          rw [ordered_arrangedFields, ordered_encodeFields, encodeFields_eq_map, List.map_map]
          -- both sides are sorted now, and only the values under the keys are left to compare
          apply List.map_congr_left
          intro field hfield
          have hmem : field ∈ fields := (ordered_perm true fields).mem_iff.1 hfield
          show (field.1, encode false (arranged true field.2)) = (field.1, encode true field.2)
          rw [ih field.2 (Value.mem_parts_document hmem)]
        rw [arranged, encode, encode, clashingKeys_eq_of_perm hkeys, hfields]
        rfl
      | _ => cases hnested

end ExtendedJson

namespace Document

/--
Two documents that are written with sorted keys are written alike exactly if they are the same up to the order of
their keys, at whatever depth.
-/
theorem format_sorted_eq_iff {doc doc' : Document} (hwf : (Value.document doc).WellFormed)
    (hwf' : (Value.document doc').WellFormed) {line line' : List Char} (hline : doc.format true = .ok line)
    (hline' : doc'.format true = .ok line') : line = line' ↔ Alike (.document doc) (.document doc') := by
  obtain ⟨data, hdata, rfl⟩ := map_eq_ok.1 hline
  obtain ⟨data', hdata', rfl⟩ := map_eq_ok.1 hline'
  constructor
  · -- equal lines hold the same data, since both are read back; equal data come from alike values
    intro hsame
    have hreadable := readable_encode true _ hwf hdata
    have hreadable' := readable_encode true _ hwf' hdata'
    have heq : data = data' := Json.eq_of_compactText_eq hreadable hreadable' hsame
    apply alike_of_arranged_eq
    exact arranged_eq_of_encode hwf hwf' hdata (heq ▸ hdata')
  · intro halike
    have harranged := halike.arranged_eq hwf
    have hencode : doc.encode true = doc'.encode true := by
      rw [encode, encode, ← encode_arranged, harranged, encode_arranged]
    rw [hdata, hdata'] at hencode
    rw [Except.ok.inj hencode]

/-- Two orders of the keys, in a document and in an array of it, are the same document. -/
theorem format_sorted_eq_iff_two_orders :
    let one : Value := .int32 ⟨1, by decide, by decide⟩
    let doc : Document := [("b", .array [.document [("y", one), ("x", .dateTime 0)]]), ("a", .double .zero)]
    let doc' : Document := [("a", .double .zero), ("b", .array [.document [("x", .dateTime 0), ("y", one)]])]
    let line := "\x7b\"a\":0.0,\"b\":[\x7b\"x\":\x7b\"$date\":\"1970-01-01T00:00:00Z\"\x7d,\"y\":1\x7d]\x7d".toList
    (Value.document doc).WellFormed ∧ (Value.document doc').WellFormed ∧ doc.format true = .ok line ∧
      doc'.format true = .ok line ∧ Alike (.document doc) (.document doc') := by
  intro one doc doc' line
  have hwf : (Value.document doc).WellFormed := by
    simp [doc, one, Value.WellFormed, Value.WellFormedFields, Value.WellFormedItems, keysOf]
  have hwf' : (Value.document doc').WellFormed := by
    simp [doc', one, Value.WellFormed, Value.WellFormedFields, Value.WellFormedItems, keysOf]
  have hline : doc.format true = .ok line := by cbv
  have hline' : doc'.format true = .ok line := by cbv
  exact ⟨hwf, hwf', hline, hline', (format_sorted_eq_iff hwf hwf' hline hline').1 rfl⟩

end Document

end DocBrowser
