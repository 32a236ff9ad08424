import Mathlib
import DocBrowser.Fields
/-!
# Fields that are set, erased and looked up

Setting a key keeps all others in their places and the keys distinct, and behind it the key has its new value
and every other key the value that it had.
-/

namespace DocBrowser

variable {α : Type}

/-! ## Looking up -/

/-- Where keys are distinct, a key has the one value that stands with it. -/
theorem field?_eq_some_iff {fields : List (String × α)} (h : (keysOf fields).Nodup) {key : String}
    {value : α} : field? fields key = some value ↔ (key, value) ∈ fields := by
  induction fields with
  | nil => simp [field?]
  | cons field rest ih =>
    obtain ⟨k, v⟩ := field
    simp only [keysOf, List.map_cons, List.nodup_cons] at h
    have hrest := ih h.2
    rw [field?, List.mem_cons, Prod.mk.injEq]
    by_cases hk : k = key
    · -- the key stands here, and not a second time behind
      have hbehind : (key, value) ∉ rest := fun hmem => h.1 (hk ▸ List.mem_map_of_mem hmem)
      rw [if_pos hk, Option.some.injEq]
      simp [hk, hbehind, eq_comm]
    · rw [if_neg hk, hrest]
      simp [Ne.symm hk]

theorem mem_of_field?_eq_some {fields : List (String × α)} {key : String} {value : α}
    (h : field? fields key = some value) : (key, value) ∈ fields := by
  induction fields with
  | nil => simp [field?] at h
  | cons field rest ih =>
    rw [field?] at h
    split_ifs at h with hk
    · cases h
      exact hk ▸ List.mem_cons_self
    · exact List.mem_cons_of_mem _ (ih h)

theorem field?_eq_none_iff {fields : List (String × α)} {key : String} :
    field? fields key = none ↔ key ∉ keysOf fields := by
  induction fields with
  | nil => simp [field?, keysOf]
  | cons field rest ih =>
    obtain ⟨k, value⟩ := field
    rw [field?, keysOf, List.map_cons, List.mem_cons, not_or]
    by_cases hk : k = key
    · simp [hk]
    · simp [hk, Ne.symm hk, ih, keysOf]

/-! ## Setting -/

theorem mem_setField {fields : List (String × α)} {key : String} {value : α} {field : String × α}
    (h : field ∈ setField fields key value) : field.2 = value ∨ field ∈ fields := by
  induction fields with
  | nil => exact .inl (by rw [List.mem_singleton.1 h])
  | cons first rest ih =>
    rw [setField] at h
    split_ifs at h with hkey
    · rcases List.mem_cons.1 h with rfl | h
      · exact .inl rfl
      · exact .inr (List.mem_cons_of_mem _ h)
    · rcases List.mem_cons.1 h with rfl | h
      · exact .inr List.mem_cons_self
      · exact (ih h).imp_right (List.mem_cons_of_mem _)

/-- A new key is set behind the others. -/
theorem setField_of_not_mem {fields : List (String × α)} {key : String} (value : α)
    (h : key ∉ keysOf fields) : setField fields key value = fields ++ [(key, value)] := by
  induction fields with
  | nil => rfl
  | cons field rest ih =>
    obtain ⟨k, v⟩ := field
    rw [keysOf, List.map_cons, List.mem_cons, not_or] at h
    rw [setField, if_neg (Ne.symm h.1), ih h.2]
    rfl

theorem mem_keysOf_setField (fields : List (String × α)) (key : String) (value : α) {k : String}
    (h : k ∈ keysOf (setField fields key value)) : k = key ∨ k ∈ keysOf fields := by
  induction fields with
  | nil => exact .inl (by simpa [setField, keysOf] using h)
  | cons field rest ih =>
    rw [setField] at h
    split_ifs at h with hkey
    · exact .inr h
    · rcases List.mem_cons.1 h with rfl | h
      · exact .inr List.mem_cons_self
      · exact (ih h).imp_right (List.mem_cons_of_mem _)

theorem mem_keysOf_setField_of_mem {fields : List (String × α)} (key : String) (value : α) {k : String}
    (h : k ∈ keysOf fields) : k ∈ keysOf (setField fields key value) := by
  induction fields with
  | nil => cases h
  | cons field rest ih =>
    rw [setField]
    split_ifs
    · exact h
    · exact (List.mem_cons.1 h).elim (fun heq => heq ▸ List.mem_cons_self) fun hmem => List.mem_cons_of_mem _ (ih hmem)

theorem nodup_keysOf_setField (key : String) (value : α) {fields : List (String × α)} (h : (keysOf fields).Nodup) :
    (keysOf (setField fields key value)).Nodup := by
  induction fields with
  | nil => simp [setField, keysOf]
  | cons field rest ih =>
    obtain ⟨hfirst, hrest⟩ := List.nodup_cons.1 h
    rw [setField]
    split_ifs with hkey
    · exact h
    · refine List.nodup_cons.2 ⟨fun hmem => ?_, ih hrest⟩
      exact (mem_keysOf_setField rest key value hmem).elim hkey hfirst

theorem field?_setField (fields : List (String × α)) (key : String) (value : α) :
    field? (setField fields key value) key = some value := by
  induction fields with
  | nil => exact if_pos rfl
  | cons field rest ih =>
    rw [setField]
    split_ifs with hkey
    · rw [field?, if_pos hkey]
    · rw [field?, if_neg hkey, ih]

theorem field?_setField_of_ne (fields : List (String × α)) {key other : String} (value : α) (h : other ≠ key) :
    field? (setField fields key value) other = field? fields other := by
  induction fields with
  | nil => exact if_neg (Ne.symm h)
  | cons field rest ih =>
    rw [setField]
    split_ifs with hkey
    · rw [field?, field?, if_neg (hkey ▸ Ne.symm h), if_neg (hkey ▸ Ne.symm h)]
    · rw [field?, field?, ih]

/-! ## Erasing -/

theorem field?_eraseField (fields : List (String × α)) (key : String) :
    field? (eraseField fields key) key = none := by
  induction fields with
  | nil => rfl
  | cons field rest ih =>
    obtain ⟨k, value⟩ := field
    by_cases hk : k = key
    · simpa [eraseField, hk] using ih
    · simpa [eraseField, hk, field?] using ih

theorem field?_eraseField_of_ne (fields : List (String × α)) {key other : String} (h : other ≠ key) :
    field? (eraseField fields key) other = field? fields other := by
  induction fields with
  | nil => rfl
  | cons field rest ih =>
    obtain ⟨k, value⟩ := field
    rw [eraseField] at ih ⊢
    by_cases hk : k = key
    · rw [List.filter_cons_of_neg (by simpa using hk), ih, field?, if_neg (hk ▸ Ne.symm h)]
    · rw [List.filter_cons_of_pos (by simpa using hk), field?, field?, ih]

theorem keysOf_eraseField (fields : List (String × α)) (key : String) :
    keysOf (eraseField fields key) = (keysOf fields).filter (· ≠ key) := by
  rw [keysOf, keysOf, List.filter_map]
  rfl

theorem eraseField_of_not_mem {fields : List (String × α)} {key : String} (h : key ∉ keysOf fields) :
    eraseField fields key = fields :=
  List.filter_eq_self.2 fun _ hfield => decide_eq_true fun heq => h (heq ▸ List.mem_map_of_mem hfield)

theorem eraseField_setField (fields : List (String × α)) (key : String) (value : α) :
    eraseField (setField fields key value) key = eraseField fields key := by
  induction fields with
  | nil => simp [setField, eraseField]
  | cons field rest ih =>
    rw [setField]
    split_ifs with hkey
    · simp [eraseField, hkey]
    · simp only [eraseField, List.filter_cons] at ih ⊢
      rw [ih]

theorem eraseField_eraseField (fields : List (String × α)) (key : String) :
    eraseField (eraseField fields key) key = eraseField fields key := by
  simp [eraseField, List.filter_filter]

end DocBrowser
