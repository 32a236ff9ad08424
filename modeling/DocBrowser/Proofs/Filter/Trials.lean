import Mathlib
import DocBrowser.Proofs.Store.Answers
/-!
# Conditions that are tried in order

A filter, a document of operators and an array of filters are lists of conditions, which are tried one after
the other until one of them decides. Whatever is said about such a list follows from what is said about its
conditions, one by one.
-/

namespace DocBrowser

variable {ε α β : Type}

/-! ## Trials -/

theorem allM_singleton (p : α → Except ε Bool) (item : α) : [item].allM p = p item := by
  rw [List.allM_cons]
  cases p item with
  | error e => rfl
  | ok passes => cases passes <;> rfl

theorem anyM_singleton (p : α → Except ε Bool) (item : α) : [item].anyM p = p item := by
  rw [List.anyM_cons]
  cases p item with
  | error e => rfl
  | ok passes => cases passes <;> rfl

/-- A trial of all ends well where every one does. -/
theorem allM_eq_ok_true {p : α → Except ε Bool} {items : List α} :
    items.allM p = .ok true ↔ ∀ item ∈ items, p item = .ok true := by
  induction items with
  | nil => simp [pure, Except.pure]
  | cons item rest ih =>
    rw [List.allM_cons, bind_eq_ok, List.forall_mem_cons, ← ih]
    constructor
    · rintro ⟨passes, hpasses, hrest⟩
      cases passes
      · cases hrest
      · exact ⟨hpasses, hrest⟩
    · rintro ⟨hpasses, hrest⟩
      exact ⟨true, hpasses, hrest⟩

/-- A trial of all that ends badly has come to one that does. -/
theorem exists_of_allM_eq_ok_false {p : α → Except ε Bool} {items : List α} (h : items.allM p = .ok false) :
    ∃ item ∈ items, p item = .ok false := by
  induction items with
  | nil => cases h
  | cons item rest ih =>
    rw [List.allM_cons] at h
    obtain ⟨passes, hpasses, h⟩ := bind_eq_ok.1 h
    cases passes
    · exact ⟨item, List.mem_cons_self, hpasses⟩
    · obtain ⟨found, hfound, hfails⟩ := ih h
      exact ⟨found, List.mem_cons_of_mem _ hfound, hfails⟩

theorem allM_congr {p : α → Except ε Bool} {q : β → Except ε Bool} {as : List α} {bs : List β}
    (h : List.Forall₂ (fun a b => p a = q b) as bs) : as.allM p = bs.allM q := by
  induction h with
  | nil => rfl
  | cons hfirst _ ih => rw [List.allM_cons, List.allM_cons, hfirst, ih]

/-- To look for one that passes is to try whether all fail. -/
theorem anyM_eq_allM (p : α → Except ε Bool) (items : List α) :
    items.anyM p = (items.allM fun item => (p item).map (!·)).map (!·) := by
  induction items with
  | nil => rfl
  | cons item rest ih =>
    rw [List.anyM_cons, List.allM_cons, ih]
    cases p item with
    | error e => rfl
    | ok passes => cases passes <;> rfl

theorem anyM_congr {p : α → Except ε Bool} {q : β → Except ε Bool} {as : List α} {bs : List β}
    (h : List.Forall₂ (fun a b => p a = q b) as bs) : as.anyM p = bs.anyM q := by
  rw [anyM_eq_allM, anyM_eq_allM, allM_congr (h.imp fun _ _ heq => by rw [heq])]

/-! ## Trials that do not contradict one another -/

/-- Whether two trials give the same answer where both give one. -/
def Compatible (x y : Except ε Bool) : Prop := ∀ answer answer', x = .ok answer → y = .ok answer' → answer = answer'

theorem Compatible.refl (x : Except ε Bool) : Compatible x x :=
  fun _ _ h h' => Except.ok.inj (h.symm.trans h')

theorem Compatible.not {x y : Except ε Bool} (h : Compatible x y) : Compatible (x.map (!·)) (y.map (!·)) := by
  intro answer answer' hx hy
  obtain ⟨a, ha, rfl⟩ := map_eq_ok.1 hx
  obtain ⟨b, hb, rfl⟩ := map_eq_ok.1 hy
  rw [h a b ha hb]

/-- Conditions may be tried in any order: one that fails is missed by no trial that ends well. -/
theorem compatible_allM {p : α → Except ε Bool} {q : β → Except ε Bool} {as : List α} {bs cs : List β}
    (h : List.Forall₂ (fun a b => Compatible (p a) (q b)) as bs) (order : bs.Perm cs) :
    Compatible (as.allM p) (cs.allM q) := by
  intro answer answer' hanswer hanswer'
  cases answer with
  | true =>
    cases answer' with
    | true => rfl
    | false =>
      -- what fails on the right has a partner on the left, where all pass
      obtain ⟨c, hc, hfails⟩ := exists_of_allM_eq_ok_false hanswer'
      obtain ⟨a, ha, hcompatible⟩ := exists_of_forall₂_of_mem h.flip (order.mem_iff.2 hc)
      exact hcompatible true false (allM_eq_ok_true.1 hanswer a ha) hfails
  | false =>
    cases answer' with
    | false => rfl
    | true =>
      obtain ⟨a, ha, hfails⟩ := exists_of_allM_eq_ok_false hanswer
      obtain ⟨b, hb, hcompatible⟩ := exists_of_forall₂_of_mem h ha
      exact hcompatible false true hfails (allM_eq_ok_true.1 hanswer' b (order.mem_iff.1 hb))

theorem compatible_anyM {p : α → Except ε Bool} {q : β → Except ε Bool} {as : List α} {bs cs : List β}
    (h : List.Forall₂ (fun a b => Compatible (p a) (q b)) as bs) (order : bs.Perm cs) :
    Compatible (as.anyM p) (cs.anyM q) := by
  rw [anyM_eq_allM, anyM_eq_allM]
  exact (compatible_allM (h.imp fun _ _ hcompatible => hcompatible.not) order).not

namespace Filter

variable {value options : Option Value}

/-! ## Operators -/

theorem applyOperators_eq_allM (fields : Document) :
    applyOperators value options fields = fields.allM fun field => applyNamed value options field.1 field.2 := by
  induction fields with
  | nil =>
    rw [applyOperators]
    rfl
  | cons field rest ih => rw [applyOperators, List.allM_cons, ih]

theorem applyNamed_of_ne {operator : String} (h : operator ≠ "$not") (operand : Value) :
    applyNamed value options operator operand = applyOperator value options operator operand := by
  cases operand with
  | document fields => rw [applyNamed, if_neg h]
  | _ =>
    rw [applyNamed, if_neg h]
    simp

theorem applyNamed_not_document (fields : Document) :
    applyNamed value options "$not" (.document fields) =
      (applyOperators value (field? fields "$options") fields).map (!·) := by
  rw [applyNamed, if_pos rfl]

theorem applyNamed_not_of_ne {operand : Value} (h : ∀ fields, operand ≠ .document fields) :
    applyNamed value options "$not" operand = (equals value operand).map (!·) := by
  cases operand with
  | document fields => exact absurd rfl (h fields)
  | _ =>
    rw [applyNamed, if_pos rfl]
    simp

/-- Only keys tell operators from other documents, in any order. -/
theorem isOperators_eq_of_perm {fields fields' : Document} (h : (keysOf fields).Perm (keysOf fields')) :
    isOperators (.document fields) = isOperators (.document fields') := by
  have hkeys (fields : Document) : isOperators (.document fields) =
      (!(keysOf fields).isEmpty && (keysOf fields).all (·.startsWith "$")) := by
    rw [isOperators, keysOf, List.isEmpty_map, List.all_map]
    rfl
  rw [hkeys, hkeys, h.isEmpty_eq, h.all_eq]

theorem meets_of_isOperators {fields : Document} (h : isOperators (.document fields) = true) :
    meets value (.document fields) = applyOperators value (field? fields "$options") fields := by
  rw [meets, if_pos h]

theorem meets_of_not_isOperators {condition : Value} (h : isOperators condition = false) :
    meets value condition = equals value condition := by
  cases condition with
  | document fields => rw [meets, if_neg (by simp [h])]
  | _ => rfl

/-! ## Filters -/

theorem matchesFields_eq_allM (doc fields : Document) :
    matchesFields doc fields = fields.allM fun field => matchesField doc field.1 field.2 := by
  induction fields with
  | nil =>
    rw [matchesFields]
    rfl
  | cons field rest ih => rw [matchesFields, List.allM_cons, ih]

theorem matchesEvery_eq_allM (doc : Document) (items : List Value) :
    matchesEvery doc items = items.allM (matchesDocument doc) := by
  induction items with
  | nil =>
    rw [matchesEvery]
    rfl
  | cons item rest ih => rw [matchesEvery, List.allM_cons, ih]

theorem matchesSome_eq_anyM (doc : Document) (items : List Value) :
    matchesSome doc items = items.anyM (matchesDocument doc) := by
  induction items with
  | nil =>
    rw [matchesSome]
    rfl
  | cons item rest ih => rw [matchesSome, List.anyM_cons, ih]

/-- What is no operator that combines filters is a path, or refused. -/
theorem matchesField_of_not_combination {key : String} (h : isCombination key = false) (doc : Document)
    (condition : Value) : matchesField doc key condition = matchesValue doc key condition := by
  cases condition with
  | array items => rw [matchesField, if_neg (by simp [h])]
  | _ =>
    rw [matchesField, if_neg (by simp [h])]
    simp

/-- How an operator combines filters. -/
def combine (doc : Document) (key : String) (items : List Value) : Except Failure Bool :=
  if key = "$and" then items.allM (matchesDocument doc)
  else if key = "$or" then items.anyM (matchesDocument doc)
  else (items.anyM (matchesDocument doc)).map (!·)

theorem matchesField_combination {key : String} (h : isCombination key = true) (doc : Document) (items : List Value) :
    matchesField doc key (.array items) =
      if items.all isDocument then combine doc key items else refuse (key ++ " needs an array of documents") key := by
  rw [matchesField, if_pos h, matchesEvery_eq_allM, matchesSome_eq_anyM]
  rfl

theorem matchesField_combination_of_ne {key : String} (h : isCombination key = true) (doc : Document) {condition : Value}
    (hcondition : ∀ items, condition ≠ .array items) :
    matchesField doc key condition = refuse (key ++ " needs an array of documents") key := by
  cases condition with
  | array items => exact absurd rfl (hcondition items)
  | _ =>
    rw [matchesField, if_pos h]
    simp

end Filter

end DocBrowser
