import Mathlib.Data.List.Forall2
import Mathlib.Tactic.Common
import DocBrowser.Failure
/-!
# Computations that may fail

A computation in steps gives a result exactly where all of its steps give one.
-/

namespace DocBrowser

variable {ε α β : Type} {x : Except ε α}

/-- A computation in two steps gives a result where both steps give one. -/
theorem bind_eq_ok {f : α → Except ε β} {b : β} : (x >>= f) = .ok b ↔ ∃ a, x = .ok a ∧ f a = .ok b := by
  cases x with
  | error e => simp [Bind.bind, Except.bind]
  | ok a => simp [Bind.bind, Except.bind]

theorem map_eq_ok {f : α → β} {b : β} : x.map f = .ok b ↔ ∃ a, x = .ok a ∧ f a = b := by
  cases x with
  | error e => simp [Except.map]
  | ok a => simp [Except.map]

theorem map_eq_error {f : α → β} {e : ε} : x.map f = .error e ↔ x = .error e := by
  cases x with
  | error e => simp [Except.map]
  | ok a => simp [Except.map]

theorem orFailure_eq_ok {failure : ε → Failure} {a : α} : orFailure failure x = .ok a ↔ x = .ok a := by
  cases x <;> simp [orFailure]

/-! ## Lists of computations -/

/-- In lists that are paired one by one, each item has a partner. -/
theorem exists_of_forall₂_of_mem {r : α → β → Prop} {as : List α} {bs : List β} (h : List.Forall₂ r as bs) {a : α}
    (ha : a ∈ as) : ∃ b ∈ bs, r a b := by
  induction h with
  | nil => cases ha
  | cons hfirst _ ih =>
    rcases List.mem_cons.1 ha with rfl | ha
    · exact ⟨_, List.mem_cons_self, hfirst⟩
    · obtain ⟨b, hb, hr⟩ := ih ha
      exact ⟨b, List.mem_cons_of_mem _ hb, hr⟩

/-- What is shown of the pairs may use where the first of each comes from. -/
theorem forall₂_imp_of_mem {r s : α → β → Prop} {as : List α} {bs : List β} (h : List.Forall₂ r as bs)
    (himp : ∀ a ∈ as, ∀ b, r a b → s a b) : List.Forall₂ s as bs := by
  apply ((List.forall₂_and_left as bs).2 ⟨fun _ ha => ha, h⟩).imp
  intro a b hpair
  exact himp a hpair.1 b hpair.2

/-- Where each item of a list has a partner, the partners are a list. -/
theorem exists_forall₂ {r : α → β → Prop} {as : List α} (h : ∀ a ∈ as, ∃ b, r a b) : ∃ bs, List.Forall₂ r as bs := by
  induction as with
  | nil => exact ⟨[], .nil⟩
  | cons a as ih =>
    obtain ⟨⟨b, hb⟩, hrest⟩ := List.forall_mem_cons.1 h
    obtain ⟨bs, hbs⟩ := ih hrest
    exact ⟨b :: bs, .cons hb hbs⟩

/-- All of a list is computed, item by item. -/
theorem mapM_eq_ok {f : α → Except ε β} {as : List α} {bs : List β} :
    as.mapM f = .ok bs ↔ List.Forall₂ (fun a b => f a = .ok b) as bs := by
  induction as generalizing bs with
  | nil =>
    rw [List.mapM_nil, List.forall₂_nil_left_iff]
    exact ⟨fun h => by cases h; rfl, fun h => by rw [h]; rfl⟩
  | cons a as ih =>
    rw [List.mapM_cons, bind_eq_ok, List.forall₂_cons_left_iff]
    refine exists_congr fun b => ?_
    rw [bind_eq_ok]
    constructor
    · rintro ⟨hb, rest, hrest, h⟩
      cases h
      exact ⟨rest, hb, ih.1 hrest, rfl⟩
    · rintro ⟨rest, hb, hrest, rfl⟩
      exact ⟨hb, rest, ih.2 hrest, rfl⟩

/-- Where a list is not computed to its end, one of its items fails. -/
theorem exists_of_mapM_eq_error {f : α → Except ε β} {as : List α} {e : ε} (h : as.mapM f = .error e) :
    ∃ a ∈ as, f a = .error e := by
  induction as with
  | nil => cases h
  | cons a as ih =>
    rw [List.mapM_cons] at h
    -- the first failure is the one reported, so what fails behind it does not show
    cases hfirst : f a with
    | error _ =>
      rw [hfirst] at h
      cases h
      exact ⟨a, List.mem_cons_self, hfirst⟩
    | ok b =>
      cases hrest : as.mapM f with
      | ok bs => simp [hfirst, hrest, bind, Except.bind, pure, Except.pure] at h
      | error _ =>
        rw [hfirst, hrest] at h
        cases h
        obtain ⟨failed, hmem, hfailed⟩ := ih hrest
        exact ⟨failed, List.mem_cons_of_mem _ hmem, hfailed⟩

/-- What is kept is collected in reverse, behind what was kept before. -/
theorem filterAuxM_sublist {p : α → Except ε Bool} {as kept left : List α} (h : as.filterAuxM p kept = .ok left) :
    left.reverse.Sublist (kept.reverse ++ as) := by
  induction as generalizing kept with
  | nil =>
    cases h
    simp
  | cons a as ih =>
    rw [List.filterAuxM] at h
    obtain ⟨keep, -, h⟩ := bind_eq_ok.1 h
    cases keep with
    | true => simpa using ih h
    | false => exact (ih h).trans (List.Sublist.append_left (List.sublist_cons_self a as) _)

theorem filterM_sublist {p : α → Except ε Bool} {as left : List α} (h : as.filterM p = .ok left) :
    left.Sublist as := by
  obtain ⟨kept, hkept, h⟩ := bind_eq_ok.1 h
  cases h
  exact filterAuxM_sublist hkept

theorem filterAuxM_of_forall {p : α → Except ε Bool} {keep : α → Bool} {as : List α}
    (h : ∀ a ∈ as, p a = .ok (keep a)) (kept : List α) :
    as.filterAuxM p kept = .ok ((as.filter keep).reverse ++ kept) := by
  induction as generalizing kept with
  | nil => rfl
  | cons a as ih =>
    obtain ⟨ha, has⟩ := List.forall_mem_cons.1 h
    rw [List.filterAuxM, ha]
    refine (ih has _).trans ?_
    cases hkeep : keep a <;> simp [hkeep]

/-- Where every answer is known, exactly what is to be kept is kept. -/
theorem filterM_of_forall {p : α → Except ε Bool} {keep : α → Bool} {as : List α} (h : ∀ a ∈ as, p a = .ok (keep a)) :
    as.filterM p = .ok (as.filter keep) := by
  rw [List.filterM, filterAuxM_of_forall h, List.append_nil]
  exact congrArg Except.ok (List.reverse_reverse _)

theorem forall_of_filterAuxM {p : α → Except ε Bool} {as kept left : List α} (h : as.filterAuxM p kept = .ok left) :
    ∀ a ∈ as, ∃ keep, p a = .ok keep := by
  induction as generalizing kept with
  | nil => exact List.forall_mem_nil _
  | cons a as ih =>
    rw [List.filterAuxM] at h
    obtain ⟨keep, ha, h⟩ := bind_eq_ok.1 h
    exact List.forall_mem_cons.2 ⟨⟨keep, ha⟩, ih h⟩

/-- Where a list is filtered, every item has an answer. -/
theorem forall_of_filterM {p : α → Except ε Bool} {as left : List α} (h : as.filterM p = .ok left) :
    ∀ a ∈ as, ∃ keep, p a = .ok keep := by
  obtain ⟨kept, hkept, -⟩ := bind_eq_ok.1 h
  exact forall_of_filterAuxM hkept

end DocBrowser
