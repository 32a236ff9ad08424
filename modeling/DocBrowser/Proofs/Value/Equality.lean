import Mathlib
import DocBrowser.Store.Order
import DocBrowser.Proofs.Failure
import DocBrowser.Proofs.Fields
/-!
# Equal values

Equality of values crosses the kinds of numbers and passes over the order of keys. It is symmetric and
transitive all the same, and on values without a NaN it is reflexive and always has an answer. A NaN
number is the only value that is not equal to itself when it is looked up.
-/

namespace DocBrowser

/-- What holds of all values of a document holds of those that are left without a key. -/
theorem eraseField_keeps {p : Value → Prop} {fields : Document} (h : ∀ field ∈ fields, p field.2) (key : String) :
    ∀ field ∈ eraseField fields key, p field.2 :=
  fun field hfield => h field (List.mem_of_mem_filter hfield)

namespace Value

/-! ## Parts -/

/-- The items of an array, or the values of the fields of a document. -/
def parts : Value → List Value
  | .array items => items
  | .document fields => fields.map (·.2)
  | _ => []

/-- Whether a value is an array or a document. -/
def isNested : Value → Bool
  | .array _ | .document _ => true
  | _ => false

theorem mem_parts_document {fields : Document} {field : String × Value} (h : field ∈ fields) :
    field.2 ∈ (document fields).parts := List.mem_map_of_mem h

theorem sizeOf_lt_of_mem_parts {value part : Value} (h : part ∈ value.parts) : sizeOf part < sizeOf value := by
  cases value with
  | array items =>
    have hsize := List.sizeOf_lt_of_mem (show part ∈ items from h)
    simp only [array.sizeOf_spec]
    omega
  | document fields =>
    obtain ⟨⟨key, part⟩, hfield, rfl⟩ := List.mem_map.1 h
    have hsize := List.sizeOf_lt_of_mem hfield
    simp only [document.sizeOf_spec, Prod.mk.sizeOf_spec] at hsize ⊢
    omega
  | _ => simp [parts] at h

/-- What holds of a value whenever it holds of its parts holds of all values. -/
@[elab_as_elim]
theorem parts_induction {motive : Value → Prop}
    (step : ∀ value, (∀ part ∈ value.parts, motive part) → motive value) (value : Value) : motive value := by
  generalize hsize : sizeOf value = n
  induction n using Nat.strong_induction_on generalizing value with
  | _ n ih =>
    apply step
    intro part hpart
    exact ih _ (hsize ▸ sizeOf_lt_of_mem_parts hpart) part rfl

/-- One value stands in another: it is that value, or it stands in one of its parts. -/
inductive Within (inner : Value) : Value → Prop where
  | self : Within inner inner
  | part {outer part : Value} (hpart : part ∈ outer.parts) (h : Within inner part) : Within inner outer

/-- What holds of a value and of the parts of what it holds of holds of all that stands in the value. -/
theorem Within.keeps {p : Value → Prop} (hpart : ∀ {value part : Value}, p value → part ∈ value.parts → p part)
    {inner value : Value} (h : Within inner value) (hvalue : p value) : p inner := by
  induction h with
  | self => exact hvalue
  | part hmem _ ih => exact ih (hpart hvalue hmem)

theorem wellFormedItems_iff {items : List Value} : WellFormedItems items ↔ ∀ item ∈ items, item.WellFormed := by
  induction items with
  | nil => simp [WellFormedItems]
  | cons item rest ih => simp [WellFormedItems, ih]

theorem wellFormedFields_iff {fields : Document} : WellFormedFields fields ↔ ∀ field ∈ fields, field.2.WellFormed := by
  induction fields with
  | nil => simp [WellFormedFields]
  | cons field rest ih => simp [WellFormedFields, ih]

/-- Parts of well-formed values are well-formed. -/
theorem WellFormed.part {value part : Value} (h : value.WellFormed) (hpart : part ∈ value.parts) : part.WellFormed := by
  cases value with
  | array items => exact wellFormedItems_iff.1 h part hpart
  | document fields =>
    obtain ⟨field, hfield, rfl⟩ := List.mem_map.1 hpart
    exact wellFormedFields_iff.1 h.2 field hfield
  | _ => simp [parts] at hpart

theorem WellFormed.cons {fields : Document} (h : (document fields).WellFormed) {key : String} {value : Value}
    (hkey : field? fields key = none) (hvalue : value.WellFormed) : (document ((key, value) :: fields)).WellFormed :=
  ⟨List.nodup_cons.2 ⟨field?_eq_none_iff.1 hkey, h.1⟩, hvalue, h.2⟩

theorem WellFormed.eraseField {fields : Document} (h : (document fields).WellFormed) (key : String) :
    (document (DocBrowser.eraseField fields key)).WellFormed := by
  refine ⟨?_, wellFormedFields_iff.2 (eraseField_keeps (wellFormedFields_iff.1 h.2) key)⟩
  rw [keysOf_eraseField]
  exact h.1.filter _

/-! ## NaN -/

mutual

/-- Whether there is no NaN in a value, at whatever depth. -/
def NaNFree : Value → Prop
  | .double d => d ≠ .nan
  | .decimal d => d.magnitude?.isSome
  | .array items => NaNFreeItems items
  | .document fields => NaNFreeFields fields
  | _ => True

@[inherit_doc NaNFree]
def NaNFreeItems : List Value → Prop
  | [] => True
  | item :: rest => NaNFree item ∧ NaNFreeItems rest

@[inherit_doc NaNFree]
def NaNFreeFields : Document → Prop
  | [] => True
  | (_, value) :: rest => NaNFree value ∧ NaNFreeFields rest

end

theorem nanFreeItems_iff {items : List Value} : NaNFreeItems items ↔ ∀ item ∈ items, item.NaNFree := by
  induction items with
  | nil => simp [NaNFreeItems]
  | cons item rest ih => simp [NaNFreeItems, ih]

theorem nanFreeFields_iff {fields : Document} : NaNFreeFields fields ↔ ∀ field ∈ fields, field.2.NaNFree := by
  induction fields with
  | nil => simp [NaNFreeFields]
  | cons field rest ih => simp [NaNFreeFields, ih]

/-- Parts of values without a NaN have none. -/
theorem NaNFree.part {value part : Value} (h : value.NaNFree) (hpart : part ∈ value.parts) : part.NaNFree := by
  cases value with
  | array items => exact nanFreeItems_iff.1 h part hpart
  | document fields =>
    obtain ⟨field, hfield, rfl⟩ := List.mem_map.1 hpart
    exact nanFreeFields_iff.1 h field hfield
  | _ => simp [parts] at hpart

/-- Whether there is no signaling NaN in a value, at whatever depth. -/
def Quiet (value : Value) : Prop := ∀ d, Within (.decimal d) value → d.isSignaling = false

theorem Quiet.part {value part : Value} (h : value.Quiet) (hpart : part ∈ value.parts) : part.Quiet :=
  fun d hd => h d (.part hpart hd)

/-- Whether a value is a number that is a NaN. -/
def isNaN : Value → Bool
  | .double .nan | .decimal (.nan ..) => true
  | _ => false

/-! ## What equal values have in common -/

/-- Whether a value is equal to nothing but its own copies: it is neither a number with a point nor has it parts. -/
def isPlain : Value → Bool
  | .double _ | .decimal _ | .array _ | .document _ | .foreign => false
  | _ => true

/-- What makes two values equal, in terms of equality of their parts. -/
inductive Agrees : Value → Value → Prop where
  | plain {value : Value} (h : value.isPlain = true) : Agrees value value
  | double {a b : Double} (h : a = b ∨ a.isZero = true ∧ b.isZero = true) : Agrees (.double a) (.double b)
  | decimal {a b : Decimal} {magnitude : Decimal.Magnitude} (ha : a.magnitude? = some magnitude)
    (hb : b.magnitude? = some magnitude) : Agrees (.decimal a) (.decimal b)
  | array {as bs : List Value} (h : List.Forall₂ (fun a b => a.same b = .ok true) as bs) :
    Agrees (.array as) (.array bs)
  | document {as bs : Document} (hlength : as.length = bs.length)
    (h : ∀ field ∈ as, ∃ b, field? bs field.1 = some b ∧ field.2.same b = .ok true) :
    Agrees (.document as) (.document bs)

end Value

/-- A signaling NaN stands for no number. -/
theorem Decimal.magnitude?_of_isSignaling {d : Decimal} (h : d.isSignaling = true) : d.magnitude? = none := by
  cases d with
  | nan => rfl
  | _ => simp [isSignaling] at h

theorem Decimal.equal_eq_ok_true {a b : Decimal} :
    a.equal b = .ok true ↔ ∃ magnitude, a.magnitude? = some magnitude ∧ b.magnitude? = some magnitude := by
  rw [equal]
  by_cases h : (a.isSignaling || b.isSignaling) = true
  · rw [if_pos h]
    rcases Bool.or_eq_true_iff.1 h with ha | hb
    · simp [magnitude?_of_isSignaling ha]
    · simp [magnitude?_of_isSignaling hb]
  · rw [if_neg h]
    cases a.magnitude? <;> cases b.magnitude? <;> simp [eq_comm]

theorem Decimal.equal_isOk {a b : Decimal} (ha : a.isSignaling = false) (hb : b.isSignaling = false) :
    ∃ answer, a.equal b = .ok answer := by
  rw [equal, ha, hb]
  cases a.magnitude? <;> cases b.magnitude? <;> exact ⟨_, rfl⟩

namespace Value

/-- A number that is not signaling is none as a decimal. -/
theorem Quiet.asDecimal? {value : Value} (h : value.Quiet) {d : Decimal} (hd : value.asDecimal? = some d) :
    d.isSignaling = false := by
  cases value with
  | double x => cases x <;> cases hd <;> rfl
  | decimal x =>
    cases hd
    exact h _ .self
  | int32 | int64 =>
    cases hd
    rfl
  | _ => cases hd

/-- Values without a NaN have no signaling one. -/
theorem NaNFree.quiet {value : Value} (h : value.NaNFree) : value.Quiet := by
  intro d hd
  have hnumber : d.magnitude?.isSome = true := hd.keeps NaNFree.part h
  by_contra hsignaling
  simp [Decimal.magnitude?_of_isSignaling (by simpa using hsignaling)] at hnumber

theorem sameItems_eq_ok_true {as bs : List Value} :
    sameItems as bs = .ok true ↔ List.Forall₂ (fun a b => a.same b = .ok true) as bs := by
  induction as generalizing bs with
  | nil => cases bs <;> simp [sameItems]
  | cons a as ih =>
    cases bs with
    | nil => simp [sameItems]
    | cons b bs =>
      rw [sameItems, bind_eq_ok, List.forall₂_cons]
      constructor
      · rintro ⟨first, hfirst, hrest⟩
        -- the comparison stops at the first item that differs, so the rest answers only behind an equal one
        cases first
        · simp at hrest
        · exact ⟨hfirst, ih.1 hrest⟩
      · rintro ⟨hfirst, hrest⟩
        exact ⟨true, hfirst, ih.2 hrest⟩

theorem sameFields_eq_ok_true {as bs : Document} :
    sameFields as bs = .ok true ↔ ∀ field ∈ as, ∃ b, field? bs field.1 = some b ∧ field.2.same b = .ok true := by
  induction as with
  | nil => simp [sameFields]
  | cons field as ih =>
    obtain ⟨key, a⟩ := field
    rw [sameFields, List.forall_mem_cons]
    -- each field of `as` is looked up by name in `bs`, whatever its place there
    cases hb : field? bs key with
    | none => simp
    | some b =>
      simp only [Option.some.injEq, exists_eq_left']
      rw [bind_eq_ok]
      constructor
      · rintro ⟨first, hfirst, hrest⟩
        cases first
        · simp at hrest
        · exact ⟨hfirst, ih.1 hrest⟩
      · rintro ⟨hfirst, hrest⟩
        exact ⟨true, hfirst, ih.2 hrest⟩

theorem same_eq_ok_true {a b : Value} : a.same b = .ok true ↔ Agrees a b := by
  constructor
  · intro h
    unfold same at h
    split at h
    case h_5 a b => exact .double (by simpa [Double.same] using h)
    case h_6 a b =>
      obtain ⟨magnitude, ha, hb⟩ := Decimal.equal_eq_ok_true.1 h
      exact .decimal ha hb
    case h_14 as bs => exact .array (sameItems_eq_ok_true.1 h)
    case h_15 as bs =>
      split_ifs at h with hlength
      · exact .document hlength (sameFields_eq_ok_true.1 h)
      · cases h
    case h_16 => cases h
    -- all other values are equal to their copies only
    all_goals
      simp only [Except.ok.injEq, decide_eq_true_eq] at h
      try obtain ⟨rfl, rfl⟩ := h
      try subst h
      exact .plain rfl
  · intro h
    cases h with
    | plain h =>
      cases a with
      | double | decimal | array | document | foreign => cases h
      | _ => simp [same]
    | double h => simpa [same, Double.same] using h
    | decimal ha hb =>
      rw [same]
      exact Decimal.equal_eq_ok_true.2 ⟨_, ha, hb⟩
    | array h =>
      rw [same]
      exact sameItems_eq_ok_true.2 h
    | document hlength h =>
      rw [same, if_pos hlength]
      exact sameFields_eq_ok_true.2 h

/-! ## Equality is an equivalence -/

theorem forall₂_symm_of_mem {as bs : List Value} (h : List.Forall₂ (fun a b => a.same b = .ok true) as bs)
    (hsymm : ∀ a ∈ as, ∀ b ∈ bs, a.same b = .ok true → b.same a = .ok true) :
    List.Forall₂ (fun b a => b.same a = .ok true) bs as := by
  induction h with
  | nil => exact .nil
  | cons hfirst _ ih =>
    refine .cons (hsymm _ (by simp) _ (by simp) hfirst) (ih fun a ha b hb => ?_)
    exact hsymm a (List.mem_cons_of_mem _ ha) b (List.mem_cons_of_mem _ hb)

theorem forall₂_trans_of_mem {as bs cs : List Value} (h : List.Forall₂ (fun a b => a.same b = .ok true) as bs)
    (h' : List.Forall₂ (fun b c => b.same c = .ok true) bs cs)
    (htrans : ∀ a ∈ as, ∀ b c, a.same b = .ok true → b.same c = .ok true → a.same c = .ok true) :
    List.Forall₂ (fun a c => a.same c = .ok true) as cs := by
  induction h generalizing cs with
  | nil =>
    cases h'
    exact .nil
  | cons hfirst _ ih =>
    cases h' with
    | cons hfirst' hrest' =>
      exact .cons (htrans _ (by simp) _ _ hfirst hfirst') (ih hrest' fun a ha => htrans a (List.mem_cons_of_mem _ ha))

/-- A document with distinct keys, all of them among as many of another one, has the keys of the other one. -/
theorem keysOf_perm_of_same {as bs : Document} (has : (keysOf as).Nodup) (hlength : as.length = bs.length)
    (h : ∀ field ∈ as, ∃ b, field? bs field.1 = some b ∧ field.2.same b = .ok true) :
    (keysOf as).Perm (keysOf bs) := by
  have hsubset : ∀ key ∈ keysOf as, key ∈ keysOf bs := by
    intro key hkey
    obtain ⟨field, hmem, rfl⟩ := List.mem_map.1 hkey
    obtain ⟨value, hvalue, -⟩ := h field hmem
    exact List.mem_map_of_mem (f := (·.1)) (mem_of_field?_eq_some hvalue)
  exact (List.subperm_of_subset has hsubset).perm_of_length_le (by simp [keysOf, hlength])

theorem same_symm {a b : Value} (ha : a.WellFormed) (hb : b.WellFormed) (h : a.same b = .ok true) :
    b.same a = .ok true := by
  induction a using parts_induction generalizing b with
  | step a ih =>
    rw [same_eq_ok_true] at h ⊢
    cases h with
    | plain h => exact .plain h
    | double h => exact .double (h.imp Eq.symm And.symm)
    | decimal hleft hright => exact .decimal hright hleft
    | array h =>
      exact .array (forall₂_symm_of_mem h fun a hmem b hmem' => ih a hmem (ha.part hmem) (hb.part hmem'))
    | @document as bs hlength h =>
      refine .document hlength.symm ?_
      rintro ⟨key, b⟩ hfield
      -- the key is one of the other document as well, and stands there with the value it was compared with
      have hkey : key ∈ keysOf as := (keysOf_perm_of_same ha.1 hlength h).mem_iff.2 (List.mem_map_of_mem hfield)
      obtain ⟨⟨key, a⟩, hmem, rfl⟩ := List.mem_map.1 hkey
      obtain ⟨b', hb', hsame⟩ := h _ hmem
      rw [(field?_eq_some_iff hb.1).2 hfield] at hb'
      cases hb'
      refine ⟨a, (field?_eq_some_iff ha.1).2 hmem, ?_⟩
      have hpart := mem_parts_document hmem
      exact ih a hpart (ha.part hpart) (hb.part (mem_parts_document hfield)) hsame

theorem same_trans {a b c : Value} (h : a.same b = .ok true) (h' : b.same c = .ok true) : a.same c = .ok true := by
  induction a using parts_induction generalizing b c with
  | step a ih =>
    rw [same_eq_ok_true] at h h' ⊢
    cases h with
    | plain h => exact h'
    | double h =>
      cases h' with
      | plain h' => cases h'
      | double h' =>
        refine .double ?_
        rcases h with rfl | ⟨ha, hb⟩
        · exact h'
        · -- doubles that are equal without being one double are both zeros, and so is the third
          rcases h' with rfl | ⟨-, hc⟩
          · exact .inr ⟨ha, hb⟩
          · exact .inr ⟨ha, hc⟩
    | decimal ha hb =>
      cases h' with
      | plain h' => cases h'
      | decimal hb' hc => exact .decimal ha (by rw [hc, ← hb', hb])
    | array h =>
      cases h' with
      | plain h' => cases h'
      | array h' => exact .array (forall₂_trans_of_mem h h' fun a hmem b c => ih a hmem)
    | document hlength h =>
      cases h' with
      | plain h' => cases h'
      | document hlength' h' =>
        refine .document (hlength.trans hlength') fun field hfield => ?_
        obtain ⟨b, hb, hsame⟩ := h field hfield
        obtain ⟨c, hc, hsame'⟩ := h' _ (mem_of_field?_eq_some hb)
        exact ⟨c, hc, ih _ (mem_parts_document hfield) hsame hsame'⟩

theorem same_refl {value : Value} (hwf : value.WellFormed) (hnan : value.NaNFree) : value.same value = .ok true := by
  induction value using parts_induction with
  | step value ih =>
    rw [same_eq_ok_true]
    cases value with
    | double d => exact .double (.inl rfl)
    | decimal d =>
      obtain ⟨magnitude, hmagnitude⟩ := Option.isSome_iff_exists.1 hnan
      exact .decimal hmagnitude hmagnitude
    | array items =>
      refine .array (List.forall₂_same.2 fun item hitem => ?_)
      exact ih item hitem (hwf.part hitem) (hnan.part hitem)
    | document fields =>
      -- a name occurs once, so a field finds itself and no other of its name
      refine .document rfl fun field hfield => ⟨field.2, (field?_eq_some_iff hwf.1).2 hfield, ?_⟩
      have hpart := mem_parts_document hfield
      exact ih _ hpart (hwf.part hpart) (hnan.part hpart)
    | foreign => exact hwf.elim
    | _ => exact .plain rfl

/-- Equal documents are equal without a key as well. -/
theorem same_eraseField {as bs : Document} (has : (keysOf as).Nodup) (h : Document.same as bs = .ok true) (key : String) :
    Document.same (eraseField as key) (eraseField bs key) = .ok true := by
  rw [Document.same, same_eq_ok_true] at h ⊢
  cases h with
  | plain h => cases h
  | document hlength h =>
    refine .document ?_ fun field hfield => ?_
    · have hkeys := ((keysOf_perm_of_same has hlength h).filter (· ≠ key)).length_eq
      rw [← keysOf_eraseField, ← keysOf_eraseField] at hkeys
      simpa only [keysOf, List.length_map] using hkeys
    · obtain ⟨hmem, hne⟩ := List.mem_filter.1 hfield
      obtain ⟨b, hb, hsame⟩ := h field hmem
      exact ⟨b, (field?_eraseField_of_ne bs (by simpa using hne)).trans hb, hsame⟩

/-! ## Comparisons that have an answer -/

theorem sameItems_isOk {as bs : List Value} (h : ∀ a ∈ as, ∀ b ∈ bs, ∃ answer, a.same b = .ok answer) :
    ∃ answer, sameItems as bs = .ok answer := by
  induction as generalizing bs with
  | nil => exact ⟨_, by rw [sameItems]⟩
  | cons a as ih =>
    cases bs with
    | nil => exact ⟨_, by rw [sameItems]⟩
    | cons b bs =>
      obtain ⟨first, hfirst⟩ := h a (by simp) b (by simp)
      rw [sameItems, hfirst]
      cases first with
      | false => exact ⟨false, rfl⟩
      | true => exact ih fun a ha b hb => h a (List.mem_cons_of_mem _ ha) b (List.mem_cons_of_mem _ hb)

theorem sameFields_isOk {as bs : Document}
    (h : ∀ field ∈ as, ∀ field' ∈ bs, ∃ answer, field.2.same field'.2 = .ok answer) :
    ∃ answer, sameFields as bs = .ok answer := by
  induction as with
  | nil => exact ⟨_, by rw [sameFields]⟩
  | cons field as ih =>
    obtain ⟨key, a⟩ := field
    rw [sameFields]
    cases hb : field? bs key with
    | none => exact ⟨false, rfl⟩
    | some b =>
      obtain ⟨first, hfirst⟩ := h (key, a) (by simp) _ (mem_of_field?_eq_some hb)
      simp only at hfirst ⊢
      rw [hfirst]
      cases first with
      | false => exact ⟨false, rfl⟩
      | true => exact ih fun field hfield => h field (List.mem_cons_of_mem _ hfield)

/-- Only a signaling NaN keeps a comparison from its answer. -/
theorem Quiet.same_isOk {a b : Value} (ha : a.Quiet) (hb : b.Quiet) : ∃ answer, a.same b = .ok answer := by
  induction a using parts_induction generalizing b with
  | step a ih =>
    unfold same
    split
    -- decimals, arrays and documents can fail inside; every other pair is compared at once
    case h_6 a b => exact Decimal.equal_isOk (ha.asDecimal? rfl) (hb.asDecimal? rfl)
    case h_14 as bs => exact sameItems_isOk fun a hmem b hmem' => ih a hmem (ha.part hmem) (hb.part hmem')
    case h_15 as bs =>
      split_ifs
      · refine sameFields_isOk fun field hfield field' hfield' => ?_
        have hpart := mem_parts_document hfield
        exact ih _ hpart (ha.part hpart) (hb.part (mem_parts_document hfield'))
      · exact ⟨false, rfl⟩
    all_goals exact ⟨_, rfl⟩

/-! ## Equality across the kinds of numbers -/

/-- The number that a value stands for; none for a NaN and for what is no number. -/
def magnitude? (value : Value) : Option Decimal.Magnitude := value.asDecimal?.bind Decimal.magnitude?

/-- Values with the same parts are both numbers, or none of them is. -/
theorem Agrees.isNumber_eq {a b : Value} (h : Agrees a b) : a.isNumber = b.isNumber := by
  have hdouble (d : Double) : (Value.double d).isNumber = true := by cases d <;> rfl
  cases h with
  | double => rw [hdouble, hdouble]
  | _ => rfl

theorem equal_eq_ok_true {a b : Value} : a.equal b = .ok true ↔
    (∃ magnitude, a.magnitude? = some magnitude ∧ b.magnitude? = some magnitude) ∨
    (a.isNumber = false ∧ b.isNumber = false ∧ a.same b = .ok true) := by
  rw [equal, orFailure_eq_ok]
  cases ha : a.asDecimal? with
  | none =>
    cases hb : b.asDecimal? with
    | none => simp [magnitude?, isNumber, ha, hb]
    | some y =>
      -- a number is none of the values that are equal to something else
      simp only [magnitude?, isNumber, ha, hb, same_eq_ok_true]
      simp only [Option.bind_none, reduceCtorEq, false_and, exists_false, Option.isSome_some, Bool.true_eq_false,
        and_false, or_self, iff_false]
      intro h
      simpa [isNumber, ha, hb] using h.isNumber_eq
  | some x =>
    cases hb : b.asDecimal? with
    | none =>
      simp only [magnitude?, isNumber, ha, hb, same_eq_ok_true]
      simp only [Option.bind_none, reduceCtorEq, and_false, exists_false, Option.isSome_some, Bool.true_eq_false,
        false_and, or_self, iff_false]
      intro h
      simpa [isNumber, ha, hb] using h.isNumber_eq
    | some y => simp [magnitude?, isNumber, ha, hb, Decimal.equal_eq_ok_true]

theorem isNumber_of_magnitude? {value : Value} {magnitude : Decimal.Magnitude} (h : value.magnitude? = some magnitude) :
    value.isNumber = true := by
  obtain ⟨d, hd, -⟩ := Option.bind_eq_some_iff.1 h
  simp [isNumber, hd]

theorem equal_symm {a b : Value} (ha : a.WellFormed) (hb : b.WellFormed) (h : a.equal b = .ok true) :
    b.equal a = .ok true := by
  rw [equal_eq_ok_true] at h ⊢
  rcases h with ⟨magnitude, hleft, hright⟩ | ⟨hleft, hright, h⟩
  · exact .inl ⟨magnitude, hright, hleft⟩
  · exact .inr ⟨hright, hleft, same_symm ha hb h⟩

theorem equal_trans {a b c : Value} (h : a.equal b = .ok true) (h' : b.equal c = .ok true) :
    a.equal c = .ok true := by
  rw [equal_eq_ok_true] at h h' ⊢
  rcases h with ⟨magnitude, ha, hb⟩ | ⟨ha, hb, h⟩
  · rcases h' with ⟨magnitude', hb', hc⟩ | ⟨hb', -, -⟩
    · exact .inl ⟨magnitude, ha, by rw [hc, ← hb', hb]⟩
    · simp [isNumber_of_magnitude? hb] at hb'
  · rcases h' with ⟨magnitude', hb', hc⟩ | ⟨-, hc, h'⟩
    · simp [isNumber_of_magnitude? hb'] at hb
    · exact .inr ⟨ha, hc, same_trans h h'⟩

/-- A number without a NaN stands for a number. -/
theorem NaNFree.magnitude? {value : Value} (h : value.NaNFree) (hnumber : value.isNumber = true) :
    value.magnitude?.isSome = true := by
  cases value with
  | double d =>
    cases d with
    | nan => exact absurd rfl h
    | _ => rfl
  | decimal d => exact h
  | int32 | int64 => rfl
  | _ => cases hnumber

theorem equal_refl {value : Value} (hwf : value.WellFormed) (hnan : value.NaNFree) : value.equal value = .ok true := by
  rw [equal_eq_ok_true]
  cases hnumber : value.isNumber with
  | true =>
    obtain ⟨magnitude, h⟩ := Option.isSome_iff_exists.1 (hnan.magnitude? hnumber)
    exact .inl ⟨magnitude, h, h⟩
  | false => exact .inr ⟨rfl, rfl, same_refl hwf hnan⟩

/-- Only a signaling NaN keeps numbers and other values from being compared. -/
theorem Quiet.equal_isOk {a b : Value} (ha : a.Quiet) (hb : b.Quiet) : ∃ answer, a.equal b = .ok answer := by
  simp only [equal, orFailure_eq_ok]
  split
  · rename_i x y hx hy
    exact Decimal.equal_isOk (ha.asDecimal? hx) (hb.asDecimal? hy)
  · exact ha.same_isOk hb

theorem equal_isOk {a b : Value} (ha : a.NaNFree) (hb : b.NaNFree) : ∃ answer, a.equal b = .ok answer :=
  ha.quiet.equal_isOk hb.quiet

/-- What is no number is compared with a fresh identifier without a fault. -/
theorem equal_objectId_isOk (value : Value) (id : ObjectId) : ∃ answer, value.equal (.objectId id) = .ok answer := by
  have hsame : ∃ answer, value.same (.objectId id) = .ok answer := by
    cases value with
    | objectId => exact ⟨_, by rw [same]⟩
    | _ => exact ⟨false, by simp [same]⟩
  obtain ⟨answer, hanswer⟩ := hsame
  refine ⟨answer, ?_⟩
  rw [equal]
  cases value.asDecimal? <;> simp [asDecimal?, hanswer, orFailure]

/-- Looked up as itself, only a NaN number is not found. -/
theorem equalsItself_eq_ok_true {value : Value} : value.equalsItself = .ok true ↔ value.isNaN = false := by
  rw [equalsItself]
  cases value with
  | double d => cases d <;> simp [isNumber, asDecimal?, equal_eq_ok_true, magnitude?, isNaN, Decimal.magnitude?]
  | decimal d => cases d <;> simp [isNumber, asDecimal?, equal_eq_ok_true, magnitude?, isNaN, Decimal.magnitude?]
  | int32 | int64 => simp [isNumber, asDecimal?, equal_eq_ok_true, magnitude?, isNaN, Decimal.magnitude?]
  | _ => simp [isNumber, asDecimal?, isNaN]

end Value

end DocBrowser
