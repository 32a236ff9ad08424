import Mathlib
import DocBrowser.Proofs.Store.Sorting
/-!
# Documents in a sort order

Sorting by several paths is sorting by one comparison: of two documents the first path at which their keys
differ decides, in the direction of that path. Keys of any kinds are comparable, and documents with equal
keys at all paths keep their order, also where a path sorts downwards.
-/

namespace DocBrowser

namespace Sorting

/-! ## Directions -/

/-- The number that stands for a direction. -/
def unit (down : Bool) : Value := .int32 ⟨if down then -1 else 1, by cases down <;> decide, by cases down <;> decide⟩

/-- Whether a value is the number of a direction, in whatever kind of number. -/
def Points (direction : Value) (down : Bool) : Prop := direction.equal (unit down) = .ok true

theorem magnitude?_unit (down : Bool) : (unit down).magnitude? = some (.finite down 1 0) := by
  have hone (negative : Bool) : Decimal.Magnitude.normal negative 1 0 = .finite negative 1 0 := by
    simp [Decimal.Magnitude.normal, Decimal.dropZeros]
  cases down <;> simp [unit, Value.magnitude?, Value.asDecimal?, Decimal.magnitude?, hone]

theorem points_iff {direction : Value} {down : Bool} :
    Points direction down ↔ direction.magnitude? = some (.finite down 1 0) := by
  have hnumber := Value.isNumber_of_magnitude? (magnitude?_unit down)
  rw [Points, Value.equal_eq_ok_true, magnitude?_unit, hnumber]
  simp

/-- A direction is read exactly where it is the number of one. -/
theorem isDown_eq_ok {path : String} {direction : Value} {down : Bool} :
    isDown path direction = .ok down ↔ Points direction down := by
  rw [points_iff, isDown, Value.magnitude?]
  cases direction.asDecimal? with
  | none => simp
  | some d =>
    -- a signaling NaN is refused as soon as it is compared
    by_cases hsignaling : d.isSignaling = true
    · simp [hsignaling, Decimal.magnitude?_of_isSignaling hsignaling]
    · simp only [if_neg hsignaling, Option.bind_some]
      split
      · rename_i negative hmagnitude
        simp [hmagnitude]
      · rename_i hother
        constructor
        · intro h
          cases h
        · intro h
          exact absurd h (hother down)

/-- What is no direction is reported, but for a signaling NaN. -/
theorem isDown_eq_error {path : String} {direction : Value} (hdirection : ∀ down, ¬Points direction down)
    (hquiet : ∀ d, direction.asDecimal? = some d → d.isSignaling = false) :
    isDown path direction = .error (.report (.query (directionMessage path) "sort")) := by
  simp only [points_iff, Value.magnitude?] at hdirection
  rw [isDown]
  cases hd : direction.asDecimal? with
  | none => rfl
  | some d =>
    rw [hd, Option.bind_some] at hdirection
    dsimp only
    rw [if_neg (by simp [hquiet d hd])]
    split
    · rename_i negative hmagnitude
      exact absurd hmagnitude (hdirection negative)
    · rfl

/-! ## One path -/

/-- Whether documents have keys at a path. -/
def Keyed (docs : List Document) (path : String) : Prop := ∀ doc ∈ docs, ∃ key, keyAt path doc = .ok key

/-- Whether none of the keys of documents at a path is a NaN. -/
def Comparable (docs : List Document) (path : String) : Prop :=
  ∀ doc ∈ docs, ∀ key, keyAt path doc = .ok key → key.isNaN = false

/-- The key of a document at a path where it has one. -/
def keyOf (path : String) (doc : Document) : SortKey :=
  match keyAt path doc with
  | .ok key => key
  | .error _ => ⟨0, .nothing⟩

theorem Keyed.keyAt_eq {docs : List Document} {path : String} (h : Keyed docs path) {doc : Document} (hdoc : doc ∈ docs) :
    keyAt path doc = .ok (keyOf path doc) := by
  obtain ⟨key, hkey⟩ := h doc hdoc
  rw [keyOf, hkey]

/-- Whether the key of one document is in front of that of another, in a direction. -/
def inFront (path : String) (down : Bool) (a b : Document) : Bool :=
  if down then (keyOf path b).less (keyOf path a) else (keyOf path a).less (keyOf path b)

theorem Keyed.ranked {docs : List Document} {path : String} (h : Keyed docs path) (hcomparable : Comparable docs path)
    {doc : Document} (hdoc : doc ∈ docs) : (keyOf path doc).Ranked := by
  have hkey := h.keyAt_eq hdoc
  have hnan := hcomparable doc hdoc _ hkey
  obtain ⟨value, -, hvalue⟩ := bind_eq_ok.1 hkey
  exact Value.ranked_of_sortKey hvalue hnan

section

variable {α : Type} {items : List α} {doc : α → Document} {path : String} {direction : Value} {down : Bool}

/-- The keys of documents order what stands for the documents. -/
theorem orders_keyOf (hkeys : Keyed (items.map doc) path) (hcomparable : Comparable (items.map doc) path) :
    Orders (fun a b => (keyOf path (doc a)).less (keyOf path (doc b))) items where
  asymm _ _ _ _ h := SortKey.less_asymm h
  between _ ha _ _ _ hc h :=
    SortKey.less_or_less (hkeys.ranked hcomparable (List.mem_map_of_mem ha))
      (hkeys.ranked hcomparable (List.mem_map_of_mem hc)) h

/-- Documents are sorted as anything that stands for them is sorted by their keys. -/
theorem byPath_map (hkeys : Keyed (items.map doc) path) (hdown : Points direction down) :
    byPath path direction (items.map doc) = .ok ((
      if down then sortDown (fun a b => (keyOf path (doc a)).less (keyOf path (doc b))) items
      else sort (fun a b => (keyOf path (doc a)).less (keyOf path (doc b))) items).map doc) := by
  have hkeyed : (items.map doc).mapM (fun doc => do return (← keyAt path doc, doc)) =
      Except.ok (items.map fun item => (keyOf path (doc item), doc item)) := by
    rw [mapM_eq_ok, List.forall₂_map_left_iff, List.forall₂_map_right_iff, List.forall₂_same]
    intro item hitem
    exact bind_eq_ok.2 ⟨_, hkeys.keyAt_eq (List.mem_map_of_mem hitem), rfl⟩
  refine bind_eq_ok.2 ⟨down, isDown_eq_ok.2 hdown, bind_eq_ok.2 ⟨_, hkeyed, ?_⟩⟩
  dsimp only
  rw [sort_map, sortDown_map]
  split_ifs <;> simp [Function.comp_def, pure, Except.pure]

/-- One path sorts documents in its direction, and ties stand as they stood before. -/
theorem byPath_ordered {before : α → α → Prop} (hkeys : Keyed (items.map doc) path)
    (hcomparable : Comparable (items.map doc) path) (hdown : Points direction down) (hbefore : items.Pairwise before) :
    ∃ placed : List α, byPath path direction (items.map doc) = .ok (placed.map doc) ∧ placed.Perm items ∧
      placed.Pairwise (Stands (fun a b => inFront path down (doc a) (doc b)) before) := by
  have horders := orders_keyOf hkeys hcomparable
  refine ⟨_, byPath_map hkeys hdown, ?_⟩
  cases down with
  | true => exact ⟨sortDown_perm _ _, pairwise_sortDown horders hbefore⟩
  | false => exact ⟨sort_perm _ _, pairwise_sort horders hbefore⟩

end

/-! ## All paths -/

/-- Whether a document comes before another in a sort order: the first path at which their keys differ decides. -/
inductive Precedes (a b : Document) : Document → Prop where
  | here {path : String} {direction : Value} {down : Bool} {x y : SortKey} {rest : Document}
    (hdown : Points direction down) (ha : keyAt path a = .ok x) (hb : keyAt path b = .ok y)
    (h : (if down then y.less x else x.less y) = true) : Precedes a b ((path, direction) :: rest)
  | behind {path : String} {direction : Value} {key : SortKey} {rest : Document}
    (ha : keyAt path a = .ok key) (hb : keyAt path b = .ok key) (h : Precedes a b rest) :
    Precedes a b ((path, direction) :: rest)

/-- Whether two documents have the same keys at all paths of a sort order. -/
def Ties (a b order : Document) : Prop := ∀ field ∈ order, ∃ key, keyAt field.1 a = .ok key ∧ keyAt field.1 b = .ok key

/-- Whether a document with its place in a list belongs in front of another one. -/
def Belongs (order : Document) (a b : Document × ℕ) : Prop :=
  Precedes a.1 b.1 order ∨ Ties a.1 b.1 order ∧ a.2 < b.2

/-- Sorting by a path makes an order that begins with it out of the order of the paths behind it. -/
theorem belongs_of_stands {docs : List Document} {path : String} {direction : Value} {down : Bool} {rest : Document}
    (hkeys : Keyed docs path) (hcomparable : Comparable docs path) (hdown : Points direction down) {a b : Document × ℕ}
    (ha : a.1 ∈ docs) (hb : b.1 ∈ docs)
    (h : Stands (fun a b => inFront path down a.1 b.1) (Belongs rest) a b) : Belongs ((path, direction) :: rest) a b := by
  have hx := hkeys.keyAt_eq ha
  have hy := hkeys.keyAt_eq hb
  by_cases hless : inFront path down a.1 b.1 = true
  · exact .inl (.here hdown hx hy hless)
  · -- the path decides nothing, so the keys at it are one
    obtain ⟨hnot, hrest⟩ := h.resolve_left hless
    have hkey : keyOf path a.1 = keyOf path b.1 := by
      have htri := SortKey.less_trichotomy (hkeys.ranked hcomparable ha) (hkeys.ranked hcomparable hb)
      cases down <;> simp_all [inFront]
    rw [← hkey] at hy
    rcases hrest with hrest | ⟨hties, hplace⟩
    · exact .inl (.behind hx hy hrest)
    · exact .inr ⟨List.forall_mem_cons.2 ⟨⟨_, hx, hy⟩, hties⟩, hplace⟩

end Sorting

open Sorting

/-- Documents with keys are sorted where all directions are given. -/
theorem sortDocuments_isOk {docs : List Document} {order : Document} (hkeys : ∀ field ∈ order, Keyed docs field.1)
    (hdirections : ∀ field ∈ order, ∃ down, Points field.2 down) : ∃ sorted, sortDocuments docs order = .ok sorted := by
  induction order with
  | nil => exact ⟨docs, rfl⟩
  | cons field rest ih =>
    obtain ⟨path, direction⟩ := field
    rw [List.forall_mem_cons] at hkeys hdirections
    obtain ⟨behind, hbehind⟩ := ih hkeys.2 hdirections.2
    obtain ⟨down, hdown⟩ := hdirections.1
    have hmem (doc : Document) (hdoc : doc ∈ behind.map id) : doc ∈ docs := by
      rw [List.map_id] at hdoc
      exact (sortDocuments_perm hbehind).subset hdoc
    have hpath := byPath_map (fun doc hdoc => hkeys.1 doc (hmem doc hdoc)) hdown
    rw [List.map_id] at hpath
    exact ⟨_, bind_eq_ok.2 ⟨_, hbehind, hpath⟩⟩

/-- Documents, each with its place in the list, are put in the order of all paths. -/
theorem sortDocuments_belongs {docs : List Document} {order : Document} (hkeys : ∀ field ∈ order, Keyed docs field.1)
    (hcomparable : ∀ field ∈ order, Comparable docs field.1)
    (hdirections : ∀ field ∈ order, ∃ down, Points field.2 down) :
    ∃ placed : List (Document × ℕ), sortDocuments docs order = .ok (placed.map (·.1)) ∧
      placed.Perm docs.zipIdx ∧ placed.Pairwise (Belongs order) := by
  induction order with
  | nil =>
    refine ⟨docs.zipIdx, ?_, .refl _, ?_⟩
    · rw [sortDocuments, List.zipIdx_map_fst]
    · -- without a path there are ties only
      rw [List.pairwise_iff_getElem]
      intro i j hi hj hij
      exact .inr ⟨fun _ h => absurd h List.not_mem_nil, by simpa using hij⟩
  | cons field rest ih =>
    obtain ⟨path, direction⟩ := field
    rw [List.forall_mem_cons] at hkeys hcomparable hdirections
    obtain ⟨behind, hbehind, hperm, hpairs⟩ := ih hkeys.2 hcomparable.2 hdirections.2
    obtain ⟨down, hdown⟩ := hdirections.1
    have hmem (doc : Document) (hdoc : doc ∈ behind.map (·.1)) : doc ∈ docs :=
      (sortDocuments_perm hbehind).subset hdoc
    obtain ⟨placed, hplaced, hperm', hpairs'⟩ := byPath_ordered (fun doc hdoc => hkeys.1 doc (hmem doc hdoc))
      (fun doc hdoc => hcomparable.1 doc (hmem doc hdoc)) hdown hpairs
    refine ⟨placed, bind_eq_ok.2 ⟨_, hbehind, hplaced⟩, hperm'.trans hperm, hpairs'.imp_of_mem fun ha hb h => ?_⟩
    have hdoc (a : Document × ℕ) (ha : a ∈ placed) : a.1 ∈ docs := hmem _ (List.mem_map_of_mem (hperm'.subset ha))
    exact belongs_of_stands hkeys.1 hcomparable.1 hdown (hdoc _ ha) (hdoc _ hb) h

/-- A sort order with something else than a direction is reported. -/
theorem sortDocuments_eq_error {docs : List Document} {order : Document} (hkeys : ∀ field ∈ order, Keyed docs field.1)
    (hquiet : ∀ field ∈ order, ∀ d, field.2.asDecimal? = some d → d.isSignaling = false)
    (hother : ∃ field ∈ order, ∀ down, ¬Points field.2 down) :
    ∃ field ∈ order, (∀ down, ¬Points field.2 down) ∧
      sortDocuments docs order = .error (.report (.query (directionMessage field.1) "sort")) := by
  induction order with
  | nil => simp at hother
  | cons field rest ih =>
    obtain ⟨path, direction⟩ := field
    rw [List.forall_mem_cons] at hkeys hquiet
    by_cases hrest : ∃ field ∈ rest, ∀ down, ¬Points field.2 down
    · -- the paths behind are sorted by first
      obtain ⟨field, hfield, hnone, herror⟩ := ih hkeys.2 hquiet.2 hrest
      refine ⟨field, List.mem_cons_of_mem _ hfield, hnone, ?_⟩
      rw [sortDocuments, herror]
      rfl
    · push Not at hrest
      obtain ⟨sorted, hsorted⟩ := sortDocuments_isOk hkeys.2 hrest
      have hnone : ∀ down, ¬Points direction down := by
        obtain ⟨field, hfield, hnone⟩ := hother
        rcases List.mem_cons.1 hfield with rfl | hfield
        · exact hnone
        · obtain ⟨down, hdown⟩ := hrest field hfield
          exact absurd hdown (hnone down)
      refine ⟨(path, direction), by simp, hnone, ?_⟩
      rw [sortDocuments, hsorted]
      show byPath path direction sorted = _
      rw [byPath, isDown_eq_error hnone hquiet.1]
      rfl

/--
Documents that have keys at all paths of a sort order are sorted by the first path at which their keys
differ, in the direction of that path, and those with equal keys keep their order, as long as all
directions are 1 or -1 and no key is a NaN. A direction that is something else is reported.
-/
theorem sortDocuments_lexicographic {docs : List Document} {order : Document}
    (hkeys : ∀ field ∈ order, Keyed docs field.1) :
    ((∀ field ∈ order, Comparable docs field.1) → (∀ field ∈ order, ∃ down, Points field.2 down) →
      ∃ placed : List (Document × ℕ), sortDocuments docs order = .ok (placed.map (·.1)) ∧
        placed.Perm docs.zipIdx ∧ placed.Pairwise (Belongs order)) ∧
    ((∃ field ∈ order, ∀ down, ¬Points field.2 down) →
      (∀ field ∈ order, ∀ d, field.2.asDecimal? = some d → d.isSignaling = false) →
      ∃ field ∈ order, (∀ down, ¬Points field.2 down) ∧
        sortDocuments docs order = .error (.report (.query (directionMessage field.1) "sort"))) := by
  constructor
  · intro hcomparable hdirections
    exact sortDocuments_belongs hkeys hcomparable hdirections
  · intro hother hquiet
    exact sortDocuments_eq_error hkeys hquiet hother

/-- Numbers of several widths are sorted downwards with a text below each, and one document has no text. -/
theorem sortDocuments_lexicographic_mixed :
    let docs : List Document :=
      [[("a", .array [.int32 ⟨2, by decide, by decide⟩]), ("b", .string "x")],
        [("a", .array [.double (.finite false ⟨0x3FF0000000000000, by decide⟩)])],
        [("a", .array [.int64 ⟨2, by decide, by decide⟩]), ("b", .string "x")]]
    let order : Document := [("a.0", .decimal (.finite true 10 (-1))), ("b", .int64 ⟨1, by decide, by decide⟩)]
    (∃ placed : List (Document × ℕ), sortDocuments docs order = .ok (placed.map (·.1)) ∧
      placed.Perm docs.zipIdx ∧ placed.Pairwise (Belongs order)) ∧
    sortDocuments docs [("b", .bool true)] = .error (.report (.query (directionMessage "b") "sort")) := by
  intro docs order
  have hfirst : Keyed docs "a.0" := by
    simp only [docs, Keyed, List.forall_mem_cons]
    exact ⟨⟨_, rfl⟩, ⟨_, rfl⟩, ⟨_, rfl⟩, by simp⟩
  have hsecond : Keyed docs "b" := by
    simp only [docs, Keyed, List.forall_mem_cons]
    exact ⟨⟨_, rfl⟩, ⟨_, rfl⟩, ⟨_, rfl⟩, by simp⟩
  have hcomparable : ∀ field ∈ order, Comparable docs field.1 := by
    simp only [docs, order, Comparable, List.forall_mem_cons]
    refine ⟨⟨?_, ?_, ?_, by simp⟩, ⟨?_, ?_, ?_, by simp⟩, by simp⟩
    all_goals
      intro key hkey
      cases hkey
      rfl
  -- a decimal of minus one and an integer of one, each in the spelling of its width
  have hdirections : ∀ field ∈ order, ∃ down, Points field.2 down := by
    simp only [order, List.forall_mem_cons]
    refine ⟨⟨true, ?_⟩, ⟨false, ?_⟩, by simp⟩
    all_goals
      rw [points_iff]
      simp [Value.magnitude?, Value.asDecimal?, Decimal.magnitude?, Decimal.Magnitude.normal, Decimal.dropZeros]
  have hbool : ∀ down, ¬Points (.bool true) down := by
    intro down
    simp [points_iff, Value.magnitude?, Value.asDecimal?]
  constructor
  · exact (sortDocuments_lexicographic (by simp [order, hfirst, hsecond])).1 hcomparable hdirections
  · have hkeys : ∀ field ∈ ([("b", .bool true)] : Document), Keyed docs field.1 := by simp [hsecond]
    obtain ⟨field, hfield, -, herror⟩ := (sortDocuments_lexicographic hkeys).2 ⟨_, List.mem_singleton_self _, hbool⟩
      (by simp [Value.asDecimal?])
    rw [List.mem_singleton.1 hfield] at herror
    exact herror

end DocBrowser
