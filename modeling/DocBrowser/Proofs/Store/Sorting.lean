import Mathlib
import DocBrowser.Proofs.Store.Selected
import DocBrowser.Proofs.Store.SortKeys
import DocBrowser.Proofs.Value.Equality
/-!
# Sorting by several paths

Documents are sorted once for each path, the last path first. Each sort is stable, upwards and downwards, so
what was sorted before decides where the later sort finds a tie: the result is ordered by the first path at
which two documents differ, and documents that differ nowhere keep their order.
-/

namespace DocBrowser

namespace Sorting

/-! ## Orders with ties -/

section

variable {α : Type} {less : α → α → Bool}

/-- Whether items are ordered by a way to compare them, up to ties. -/
structure Orders (less : α → α → Bool) (items : List α) : Prop where
  asymm : ∀ a ∈ items, ∀ b ∈ items, less a b = true → less b a = false
  /-- Of an item and one above it, every other item is above the first or below the second. -/
  between : ∀ a ∈ items, ∀ b ∈ items, ∀ c ∈ items, less a b = true → less a c = true ∨ less c b = true

theorem Orders.mono {items others : List α} (h : Orders less items) (hsub : others ⊆ items) : Orders less others where
  asymm a ha b hb := h.asymm a (hsub ha) b (hsub hb)
  between a ha b hb c hc := h.between a (hsub ha) b (hsub hb) c (hsub hc)

theorem Orders.trans {items : List α} (h : Orders less items) {a b c : α} (ha : a ∈ items) (hb : b ∈ items)
    (hc : c ∈ items) (hab : less a b = true) (hbc : less b c = true) : less a c = true := by
  rcases h.between a ha b hb c hc hab with hac | hcb
  · exact hac
  · rw [h.asymm b hb c hc hbc] at hcb
    cases hcb

/-- Whether an item may stand in front of another: it is below it, or they tie and it was in front before. -/
def Stands (less : α → α → Bool) (before : α → α → Prop) (a b : α) : Prop :=
  less a b = true ∨ less b a = false ∧ before a b

theorem Orders.not_less_of_stands {items : List α} (h : Orders less items) {before : α → α → Prop} {a b : α}
    (ha : a ∈ items) (hb : b ∈ items) (hab : Stands less before a b) : less b a = false := by
  rcases hab with hab | ⟨hba, -⟩
  · exact h.asymm a ha b hb hab
  · exact hba

/-! ## The run at the start -/

theorem pairwise_run {wanted : α → α → Bool} {items : List α}
    (htrans : ∀ a ∈ items, ∀ b ∈ items, ∀ c ∈ items, wanted a b = true → wanted b c = true → wanted a c = true) :
    (items.take (runLength wanted items)).Pairwise (wanted · · = true) := by
  induction items with
  | nil => exact .nil
  | cons a rest ih =>
    cases rest with
    | nil => simp [runLength]
    | cons b rest =>
      have hrest := ih fun x hx y hy z hz =>
        htrans x (List.mem_cons_of_mem _ hx) y (List.mem_cons_of_mem _ hy) z (List.mem_cons_of_mem _ hz)
      rw [runLength]
      split_ifs with hab
      · rw [List.take_succ_cons, List.pairwise_cons]
        refine ⟨fun c hc => ?_, hrest⟩
        -- the run goes on from the second item, which every later one is wanted behind
        obtain ⟨n, hn⟩ : ∃ n, runLength wanted (b :: rest) = n + 1 := by
          cases rest with
          | nil => exact ⟨0, rfl⟩
          | cons d rest =>
            rw [runLength]
            split_ifs
            · exact ⟨_, rfl⟩
            · exact ⟨0, rfl⟩
        rw [hn, List.take_succ_cons] at hrest hc
        rcases List.mem_cons.1 hc with rfl | hc
        · exact hab
        · have hbc := (List.pairwise_cons.1 hrest).1 c hc
          exact htrans a (by simp) b (by simp) c (by simp [List.mem_of_mem_take hc]) hab hbc
      · simp

theorem pairwise_firstRun {items : List α} {before : α → α → Prop} (h : Orders less items)
    (hbefore : items.Pairwise before) : (firstRun less items).1.Pairwise (Stands less before) := by
  rw [firstRun]
  dsimp only
  split_ifs with hfalling
  · -- a run that falls strictly has no ties
    have hrun : (items.take (runLength (fun a b => less b a) items)).Pairwise (fun a b => less b a = true) :=
      pairwise_run fun a ha b hb c hc hba hcb => h.trans hc hb ha hcb hba
    rw [List.pairwise_reverse]
    exact hrun.imp fun hba => .inl hba
  · have hrun : (items.take (runLength (fun a b => !less b a) items)).Pairwise (fun a b => (!less b a) = true) := by
      apply pairwise_run
      intro a ha b hb c hc hba hcb
      simp only [Bool.not_eq_true'] at hba hcb ⊢
      by_contra hca
      rcases h.between c hc a ha b hb (by simpa using hca) with hcb' | hba'
      · simp [hcb] at hcb'
      · simp [hba] at hba'
    have hfront := hbefore.sublist (List.take_sublist (runLength (fun a b => !less b a) items) items)
    exact (hrun.and hfront).imp fun hab => .inr ⟨by simpa using hab.1, hab.2⟩

/-! ## The place of an item -/

/-- The search by halving ends where items that are not above an item meet items that are. -/
theorem placeOf_spec {sorted : List α} {item : α}
    (hrises : ∀ (i j : ℕ) (a b : α), i ≤ j → sorted[i]? = some a → sorted[j]? = some b → less item a = true →
      less item b = true)
    {n low high : ℕ} (hlow : low ≤ high) (hhigh : high ≤ sorted.length) (hfuel : high - low ≤ n)
    (hbelow : ∀ i a, i < low → sorted[i]? = some a → less item a = false)
    (habove : ∀ i a, high ≤ i → sorted[i]? = some a → less item a = true) :
    (∀ i a, i < placeOf less sorted.toArray item n low high → sorted[i]? = some a → less item a = false) ∧
      ∀ i a, placeOf less sorted.toArray item n low high ≤ i → sorted[i]? = some a → less item a = true := by
  induction n generalizing low high with
  | zero =>
    obtain rfl : low = high := by omega
    exact ⟨hbelow, habove⟩
  | succ n ih =>
    rw [placeOf]
    by_cases hlt : low < high
    · have hmiddle : low + (high - low) / 2 < sorted.length := by omega
      rw [if_pos hlt]
      simp only [List.getElem?_toArray, List.getElem?_eq_getElem hmiddle]
      split_ifs with hless
      · -- everything from the middle on is above the item
        refine ih (by omega) (by omega) (by omega) hbelow fun i a hi ha => ?_
        exact hrises _ i _ a hi (List.getElem?_eq_getElem hmiddle) ha hless
      · -- nothing up to the middle is above the item
        refine ih (by omega) hhigh (by omega) (fun i a hi ha => ?_) habove
        by_contra habove'
        exact hless (hrises i _ a _ (by omega) ha (List.getElem?_eq_getElem hmiddle) (by simpa using habove'))
    · obtain rfl : low = high := by omega
      rw [if_neg hlt]
      exact ⟨hbelow, habove⟩

/-- An item is put behind those that it is not below, and in front of the others. -/
theorem insert_eq_append {sorted : List α} {item : α} {before : α → α → Prop} (h : Orders less (item :: sorted))
    (hsorted : sorted.Pairwise (Stands less before)) :
    ∃ front back, sorted = front ++ back ∧ insert less sorted item = front ++ item :: back ∧
      (∀ a ∈ front, less item a = false) ∧ ∀ b ∈ back, less item b = true := by
  -- the search halves its span, which is sound because what is above the item stays above it to the right
  have hrises (i j : ℕ) (a b : α) (hij : i ≤ j) (ha : sorted[i]? = some a) (hb : sorted[j]? = some b)
      (hless : less item a = true) : less item b = true := by
    rcases hij.eq_or_lt with rfl | hij
    · rw [ha] at hb
      cases hb
      exact hless
    · have hmem := List.mem_of_getElem? ha
      have hmem' := List.mem_of_getElem? hb
      obtain ⟨hi, rfl⟩ := List.getElem?_eq_some_iff.1 ha
      obtain ⟨hj, rfl⟩ := List.getElem?_eq_some_iff.1 hb
      have hstands := List.pairwise_iff_getElem.1 hsorted i j hi hj hij
      have hnot := h.not_less_of_stands (List.mem_cons_of_mem _ hmem) (List.mem_cons_of_mem _ hmem') hstands
      rcases h.between _ (by simp) _ (List.mem_cons_of_mem _ hmem) _ (List.mem_cons_of_mem _ hmem') hless with h' | h'
      · exact h'
      · simp [hnot] at h'
  obtain ⟨hfront, hback⟩ := placeOf_spec hrises (Nat.zero_le _) le_rfl (Nat.sub_le _ _)
    (fun i a hi => absurd hi (Nat.not_lt_zero i)) fun i a hi ha => by simp [List.getElem?_eq_none hi] at ha
  refine ⟨_, _, (List.take_append_drop _ sorted).symm, rfl, fun a ha => ?_, fun b hb => ?_⟩
  · obtain ⟨i, hi⟩ := List.mem_iff_getElem?.1 ha
    rw [List.getElem?_take] at hi
    split_ifs at hi with hlt
    exact hfront i a hlt hi
  · obtain ⟨i, hi⟩ := List.mem_iff_getElem?.1 hb
    rw [List.getElem?_drop] at hi
    exact hback _ b (Nat.le_add_right _ i) hi

theorem pairwise_insert {sorted : List α} {item : α} {before : α → α → Prop} (h : Orders less (item :: sorted))
    (hsorted : sorted.Pairwise (Stands less before)) (hitem : ∀ a ∈ sorted, before a item) :
    (insert less sorted item).Pairwise (Stands less before) := by
  obtain ⟨front, back, rfl, hinsert, hfront, hback⟩ := insert_eq_append h hsorted
  rw [List.pairwise_append] at hsorted
  rw [hinsert, List.pairwise_append, List.pairwise_cons]
  refine ⟨hsorted.1, ⟨fun b hb => .inl (hback b hb), hsorted.2.1⟩, fun a ha b hb => ?_⟩
  rcases List.mem_cons.1 hb with rfl | hb
  · exact .inr ⟨hfront a ha, hitem a (by simp [ha])⟩
  · exact hsorted.2.2 a ha b hb

theorem pairwise_foldl_insert {run rest : List α} {before : α → α → Prop} (h : Orders less (run ++ rest))
    (hrun : run.Pairwise (Stands less before)) (hrest : rest.Pairwise before)
    (hbefore : ∀ a ∈ run, ∀ b ∈ rest, before a b) : (rest.foldl (insert less) run).Pairwise (Stands less before) := by
  induction rest generalizing run with
  | nil => exact hrun
  | cons item rest ih =>
    have hperm := insert_perm less run item
    rw [List.pairwise_cons] at hrest
    rw [List.foldl_cons]
    -- the run with the item in it is sorted, and still in front of what is to come
    refine ih (h.mono fun a ha => ?_) (pairwise_insert (h.mono fun a ha => ?_) hrun fun a ha => ?_) hrest.2
      fun a ha b hb => ?_
    · simp only [List.mem_append, hperm.mem_iff, List.mem_cons] at ha ⊢
      tauto
    · simp only [List.mem_append, List.mem_cons] at ha ⊢
      tauto
    · exact hbefore a ha item (by simp)
    · rcases List.mem_cons.1 (hperm.mem_iff.1 ha) with rfl | ha
      · exact hrest.1 b hb
      · exact hbefore a ha b (List.mem_cons_of_mem _ hb)

/-! ## Whole lists -/

/-- The run at the start holds the first items, and the others are left. -/
theorem firstRun_spec (less : α → α → Bool) (items : List α) :
    ∃ n, (firstRun less items).1.Perm (items.take n) ∧ (firstRun less items).2 = items.drop n := by
  rw [firstRun]
  dsimp only
  split_ifs
  · exact ⟨_, List.reverse_perm _, rfl⟩
  · exact ⟨_, .refl _, rfl⟩

theorem sort_eq (less : α → α → Bool) (items : List α) :
    sort less items = (firstRun less items).2.foldl (insert less) (firstRun less items).1 := rfl

/-- Sorted items are ordered, and ties stand as they stood before. -/
theorem pairwise_sort {items : List α} {before : α → α → Prop} (h : Orders less items)
    (hbefore : items.Pairwise before) : (sort less items).Pairwise (Stands less before) := by
  obtain ⟨n, hrun, hrest⟩ := firstRun_spec less items
  have hsplit := hbefore
  rw [← List.take_append_drop n items, List.pairwise_append] at hsplit
  rw [sort_eq]
  refine pairwise_foldl_insert (h.mono (firstRun_perm less items).subset) (pairwise_firstRun h hbefore) ?_ ?_
  · rw [hrest]
    exact hsplit.2.1
  · intro a ha b hb
    rw [hrest] at hb
    exact hsplit.2.2 a (hrun.subset ha) b hb

/-- Sorting from the top down turns the order around, but not the ties. -/
theorem pairwise_sortDown {items : List α} {before : α → α → Prop} (h : Orders less items)
    (hbefore : items.Pairwise before) : (sortDown less items).Pairwise (Stands (fun a b => less b a) before) := by
  have hsorted := pairwise_sort (h.mono (List.reverse_perm items).subset) (List.pairwise_reverse.2 hbefore)
  rw [sortDown, List.pairwise_reverse]
  exact hsorted

end

/-! ## Items that stand for others -/

section

variable {α β : Type} (f : α → β)

theorem runLength_map (wanted : β → β → Bool) (items : List α) :
    runLength wanted (items.map f) = runLength (fun a b => wanted (f a) (f b)) items := by
  induction items with
  | nil => rfl
  | cons a rest ih =>
    cases rest with
    | nil => rfl
    | cons b rest =>
      rw [List.map_cons] at ih
      simp only [List.map_cons, runLength, ih]

theorem firstRun_map (less : β → β → Bool) (items : List α) :
    firstRun less (items.map f) =
      ((firstRun (fun a b => less (f a) (f b)) items).1.map f,
        (firstRun (fun a b => less (f a) (f b)) items).2.map f) := by
  simp only [firstRun, runLength_map, ← List.map_take, ← List.map_drop, ← List.map_reverse]
  split_ifs <;> rfl

theorem placeOf_map (less : β → β → Bool) (sorted : List α) (item : α) (n low high : ℕ) :
    placeOf less (sorted.map f).toArray (f item) n low high =
      placeOf (fun a b => less (f a) (f b)) sorted.toArray item n low high := by
  induction n generalizing low high with
  | zero => rfl
  | succ n ih =>
    simp only [placeOf, List.getElem?_toArray, List.getElem?_map, ih]
    cases sorted[low + (high - low) / 2]? <;> rfl

theorem insert_map (less : β → β → Bool) (sorted : List α) (item : α) :
    insert less (sorted.map f) (f item) = (insert (fun a b => less (f a) (f b)) sorted item).map f := by
  simp only [insert, placeOf_map, List.length_map, List.map_append, List.map_cons, List.map_take, List.map_drop]

/-- Items that are compared by what they stand for are sorted as what they stand for. -/
theorem sort_map (less : β → β → Bool) (items : List α) :
    sort less (items.map f) = (sort (fun a b => less (f a) (f b)) items).map f := by
  have hinsert (run rest : List α) :
      (rest.map f).foldl (insert less) (run.map f) = (rest.foldl (insert fun a b => less (f a) (f b)) run).map f := by
    induction rest generalizing run with
    | nil => rfl
    | cons item rest ih => rw [List.map_cons, List.foldl_cons, List.foldl_cons, insert_map, ih]
  rw [sort_eq, sort_eq, firstRun_map]
  exact hinsert _ _

theorem sortDown_map (less : β → β → Bool) (items : List α) :
    sortDown less (items.map f) = (sortDown (fun a b => less (f a) (f b)) items).map f := by
  rw [sortDown, sortDown, ← List.map_reverse, sort_map, List.map_reverse]

end

end Sorting

end DocBrowser
