import Mathlib
import DocBrowser.Store.Path
import DocBrowser.Proofs.Store.Projection
import DocBrowser.Proofs.Text.Lines
/-!
# Leaves of projected documents

A leaf is a value that is no document, at the end of keys that lead from document to document. A path covers
the leaves whose keys start with its parts. A projection that includes keeps exactly the leaves that are
covered, and one that excludes exactly the others. Leaves keep their values and keys their order, and the same
projection changes nothing a second time.
-/

namespace DocBrowser

namespace Projection

variable {including : Bool} {paths rests : List (List Char)} {path : List Char} {key : String} {keys : List String}
  {value left leaf : Value} {fields : Document}

theorem projectValue_of_ne (hvalue : ∀ fields, value ≠ .document fields) :
    projectValue including paths value = if including then none else some value := by
  rw [projectValue]
  exact hvalue

/-! ## The same projection again -/

theorem leftOf_leftOf (hvalue : ∀ left, projectValue including rests value = some left →
      projectValue including rests left = some left) (h : leftOf including rests value = some left) :
    leftOf including rests left = some left := by
  unfold leftOf at h ⊢
  split_ifs at h ⊢ with hnone hincluding hwhole
  · rfl
  · rfl
  · exact hvalue left h

theorem projectFields_projectFields_of (hvalues : ∀ field ∈ fields, ∀ rests left,
      projectValue including rests field.2 = some left → projectValue including rests left = some left) :
    projectFields including paths (projectFields including paths fields) = projectFields including paths fields := by
  rw [projectFields_eq_filterMap (projectFields including paths fields), projectFields_eq_filterMap fields,
    List.filterMap_filterMap]
  refine List.filterMap_congr fun field hfield => ?_
  cases h : leftOf including (restsOf paths field.1) field.2 with
  | none => rfl
  | some left => simp [leftOf_leftOf (hvalues field hfield _) h]

theorem projectValue_projectValue (h : projectValue including paths value = some left) :
    projectValue including paths left = some left := by
  induction value using Value.parts_induction generalizing paths left with
  | step value ih =>
    by_cases hvalue : ∃ fields, value = .document fields
    · obtain ⟨fields, rfl⟩ := hvalue
      rw [projectValue, Option.some.injEq] at h
      have hfields : projectFields including paths (projectFields including paths fields) =
          projectFields including paths fields :=
        projectFields_projectFields_of fun field hfield _ _ => ih field.2 (Value.mem_parts_document hfield)
      rw [← h, projectValue, hfields]
    · rw [projectValue_of_ne (not_exists.1 hvalue)] at h
      split_ifs at h with hincluding
      cases h
      rw [projectValue_of_ne (not_exists.1 hvalue), if_neg hincluding]

/-- What a projection leaves of a document it leaves whole. -/
theorem projectFields_projectFields (fields : Document) :
    projectFields including paths (projectFields including paths fields) = projectFields including paths fields :=
  projectFields_projectFields_of fun _ _ _ _ => projectValue_projectValue

/-! ## Documents that have lost fields -/

/-- A document has lost fields, itself or in the documents in it; the others are the same, in their order. -/
inductive Pruned : Document → Document → Prop where
  | nil : Pruned [] []
  | lost {left fields : Document} {field : String × Value} (h : Pruned left fields) : Pruned left (field :: fields)
  | kept {left fields : Document} {field : String × Value} (h : Pruned left fields) :
    Pruned (field :: left) (field :: fields)
  | within {left fields inner whole : Document} {key : String} (hinner : Pruned inner whole) (h : Pruned left fields) :
    Pruned ((key, .document inner) :: left) ((key, .document whole) :: fields)

theorem leftOf_cases (h : leftOf including rests value = some left) : left = value ∨
    ∃ inner, value = .document inner ∧ left = .document (projectFields including rests inner) := by
  unfold leftOf at h
  by_cases hvalue : ∃ inner, value = .document inner
  · obtain ⟨inner, rfl⟩ := hvalue
    rw [projectValue] at h
    split_ifs at h <;> cases h
    · exact .inl rfl
    · exact .inl rfl
    · exact .inr ⟨inner, rfl, rfl⟩
  · rw [projectValue_of_ne (not_exists.1 hvalue)] at h
    split_ifs at h <;> cases h <;> exact .inl rfl

theorem pruned_projectFields_of (hvalues : ∀ field ∈ fields, ∀ rests inner, field.2 = .document inner →
    Pruned (projectFields including rests inner) inner) : Pruned (projectFields including paths fields) fields := by
  rw [projectFields_eq_filterMap]
  induction fields with
  | nil => exact .nil
  | cons field rest ih =>
    obtain ⟨hfield, hrest⟩ := List.forall_mem_cons.1 hvalues
    obtain ⟨key, value⟩ := field
    rw [List.filterMap_cons]
    cases h : leftOf including (restsOf paths key) value with
    | none => exact .lost (ih hrest)
    | some left =>
      rcases leftOf_cases h with rfl | ⟨inner, rfl, rfl⟩
      · exact .kept (ih hrest)
      · exact .within (hfield _ inner rfl) (ih hrest)

theorem pruned_projectFields_of_eq (h : value = .document fields) :
    Pruned (projectFields including paths fields) fields := by
  induction value using Value.parts_induction generalizing paths fields with
  | step value ih =>
    subst h
    exact pruned_projectFields_of fun field hfield rests inner hinner =>
      ih field.2 (Value.mem_parts_document hfield) hinner

/-- A projection takes fields away and does nothing else. -/
theorem pruned_projectFields (fields : Document) : Pruned (projectFields including paths fields) fields :=
  pruned_projectFields_of_eq rfl

/-! ## Paths -/

/-- A path covers keys that start with its parts. -/
def Covers (path : List Char) (keys : List String) : Prop := Text.splitAt '.' path <+: keys.map String.toList

/-- Keys are covered by one of the paths. -/
def Covered (paths : List (List Char)) (keys : List String) : Prop := ∃ path ∈ paths, Covers path keys

/-- No part of a path is empty. -/
def HasParts (path : List Char) : Prop := [] ∉ Text.splitAt '.' path

/-- A path is a key alone, or a key with another path behind it. -/
theorem splitHead_cases (path : List Char) :
    (Text.splitAt '.' path = [path] ∧ splitHead path = (path, [])) ∨
      ∃ head rest, Text.splitAt '.' path = head :: Text.splitAt '.' rest ∧ splitHead path = (head, rest) := by
  by_cases hpoint : '.' ∈ path
  · obtain ⟨head, rest, rfl, hhead⟩ := List.eq_append_cons_of_mem hpoint
    have hne : ∀ c ∈ head, decide (c ≠ '.') = true := fun c hc => decide_eq_true fun h => hhead (h ▸ hc)
    refine .inr ⟨head, rest, ?_, ?_⟩
    · rw [Text.splitAt_append, Text.splitAt_of_not_mem hhead, List.singleton_append]
    · rw [splitHead, List.takeWhile_append_of_pos hne, List.dropWhile_append_of_pos hne]
      simp
  · have hne : ∀ c ∈ path, decide (c ≠ '.') = true := fun c hc => decide_eq_true fun h => hpoint (h ▸ hc)
    refine .inl ⟨Text.splitAt_of_not_mem hpoint, ?_⟩
    rw [splitHead, List.takeWhile_eq_self_iff.2 hne, List.dropWhile_eq_nil_iff.2 hne, List.drop_nil]

theorem not_covered_nil : ¬ Covered paths [] := by
  rintro ⟨path, -, hcovers⟩
  exact Text.splitAt_ne_nil '.' path (List.prefix_nil.1 hcovers)

theorem not_covered_of_nil (keys : List String) : ¬ Covered [] keys := by
  rintro ⟨path, hpath, -⟩
  cases hpath

theorem covers_cons_iff (hpath : HasParts path) : Covers path (key :: keys) ↔
    splitHead path = (key.toList, []) ∨ ∃ rest, splitHead path = (key.toList, rest) ∧ Covers rest keys := by
  rw [HasParts] at hpath
  rw [Covers, List.map_cons]
  rcases splitHead_cases path with ⟨hparts, hsplit⟩ | ⟨head, rest, hparts, hsplit⟩
  · rw [hparts, hsplit, List.cons_prefix_cons]
    simp only [List.nil_prefix, and_true, Prod.mk.injEq]
    constructor
    · exact .inl
    · rintro (hkey | ⟨-, ⟨hkey, -⟩, -⟩) <;> exact hkey
  · -- a path that goes on has something behind the point
    have hrest : rest ≠ [] := by
      rintro rfl
      exact hpath (by simp [hparts, Text.splitAt])
    rw [hparts, hsplit, List.cons_prefix_cons]
    simp [hrest, Covers]

theorem mem_restsOf_iff {rest : List Char} : rest ∈ restsOf paths key ↔
    ∃ path ∈ paths, splitHead path = (key.toList, rest) := by
  rw [restsOf, List.mem_filterMap]
  refine exists_congr fun path => and_congr_right fun _ => ?_
  rcases splitHead path with ⟨head, behind⟩
  simp

/-- Keys are covered where a path ends with the first of them, or leads on to cover the others. -/
theorem covered_cons_iff (hpaths : ∀ path ∈ paths, HasParts path) :
    Covered paths (key :: keys) ↔ [] ∈ restsOf paths key ∨ Covered (restsOf paths key) keys := by
  rw [Covered, Covered, mem_restsOf_iff]
  constructor
  · rintro ⟨path, hpath, hcovers⟩
    rcases (covers_cons_iff (hpaths path hpath)).1 hcovers with hsplit | ⟨rest, hsplit, hcovers⟩
    · exact .inl ⟨path, hpath, hsplit⟩
    · exact .inr ⟨rest, mem_restsOf_iff.2 ⟨path, hpath, hsplit⟩, hcovers⟩
  · rintro (⟨path, hpath, hsplit⟩ | ⟨rest, hrest, hcovers⟩)
    · exact ⟨path, hpath, (covers_cons_iff (hpaths path hpath)).2 (.inl hsplit)⟩
    · obtain ⟨path, hpath, hsplit⟩ := mem_restsOf_iff.1 hrest
      exact ⟨path, hpath, (covers_cons_iff (hpaths path hpath)).2 (.inr ⟨rest, hsplit, hcovers⟩)⟩

theorem hasParts_of_mem_restsOf (hpaths : ∀ path ∈ paths, HasParts path) (hwhole : [] ∉ restsOf paths key) :
    ∀ rest ∈ restsOf paths key, HasParts rest := by
  intro rest hrest
  obtain ⟨path, hpath, hkey⟩ := mem_restsOf_iff.1 hrest
  rcases splitHead_cases path with ⟨-, hsplit⟩ | ⟨head, behind, hparts, hsplit⟩
  · cases hsplit.symm.trans hkey
    exact absurd hrest hwhole
  · cases hsplit.symm.trans hkey
    have hpath := hpaths path hpath
    rw [HasParts, hparts, List.mem_cons, not_or] at hpath
    exact hpath.2

/-! ## Leaves -/

/-- Keys lead from a value through documents to a value that is no document. -/
inductive Leaf : Value → List String → Value → Prop where
  | here {value : Value} (hvalue : ∀ fields, value ≠ .document fields) : Leaf value [] value
  | behind {fields : Document} {key : String} {value leaf : Value} {keys : List String} (hmem : (key, value) ∈ fields)
    (h : Leaf value keys leaf) : Leaf (.document fields) (key :: keys) leaf

theorem leaf_nil_iff : Leaf value [] leaf ↔ value = leaf ∧ ∀ fields, value ≠ .document fields := by
  constructor
  · rintro ⟨hvalue⟩
    exact ⟨rfl, hvalue⟩
  · rintro ⟨rfl, hvalue⟩
    exact .here hvalue

theorem leaf_document_cons_iff : Leaf (.document fields) (key :: keys) leaf ↔
    ∃ value, (key, value) ∈ fields ∧ Leaf value keys leaf := by
  constructor
  · rintro (_ | ⟨hmem, h⟩)
    exact ⟨_, hmem, h⟩
  · rintro ⟨value, hmem, h⟩
    exact .behind hmem h

/-- Below a key a leaf is left exactly where it is covered and covered leaves are included, or neither. -/
theorem leaf_leftOf_iff (hpaths : ∀ path ∈ paths, HasParts path)
    (hbehind : (∀ rest ∈ restsOf paths key, HasParts rest) →
      ((∃ left, projectValue including (restsOf paths key) value = some left ∧ Leaf left keys leaf) ↔
        Leaf value keys leaf ∧ (Covered (restsOf paths key) keys ↔ including = true))) :
    (∃ left, leftOf including (restsOf paths key) value = some left ∧ Leaf left keys leaf) ↔
      Leaf value keys leaf ∧ (Covered paths (key :: keys) ↔ including = true) := by
  rw [covered_cons_iff hpaths, leftOf]
  by_cases hnone : restsOf paths key = []
  · cases including <;> simp [hnone, not_covered_of_nil]
  · by_cases hwhole : [] ∈ restsOf paths key
    · cases including <;> simp [hnone, hwhole]
    · simp only [if_neg hnone, hwhole, if_false, false_or]
      exact hbehind (hasParts_of_mem_restsOf hpaths hwhole)

/-- A leaf is left exactly where it is covered and covered leaves are included, or neither. -/
theorem leaf_projectValue_iff (hpaths : ∀ path ∈ paths, HasParts path) :
    (∃ left, projectValue including paths value = some left ∧ Leaf left keys leaf) ↔
      Leaf value keys leaf ∧ (Covered paths keys ↔ including = true) := by
  induction keys generalizing paths value with
  | nil =>
    -- the leaf is the value itself, which stays exactly if the paths exclude
    by_cases hvalue : ∃ fields, value = .document fields
    · obtain ⟨fields, rfl⟩ := hvalue
      simp [projectValue, leaf_nil_iff]
    · rw [projectValue_of_ne (not_exists.1 hvalue)]
      cases including <;> simp [not_covered_nil]
  | cons key keys ih =>
    by_cases hvalue : ∃ fields, value = .document fields
    · obtain ⟨fields, rfl⟩ := hvalue
      -- one step down, the paths that go on through the key are what is left of them
      have hfield (inner : Value) :
          (∃ left, leftOf including (restsOf paths key) inner = some left ∧ Leaf left keys leaf) ↔
            Leaf inner keys leaf ∧ (Covered paths (key :: keys) ↔ including = true) := leaf_leftOf_iff hpaths ih
      simp only [projectValue, Option.some.injEq, exists_eq_left', leaf_document_cons_iff, mem_projectFields_iff]
      constructor
      · rintro ⟨left, ⟨inner, hmem, hleft⟩, hleaf⟩
        obtain ⟨hleaf, hcovered⟩ := (hfield inner).1 ⟨left, hleft, hleaf⟩
        exact ⟨⟨inner, hmem, hleaf⟩, hcovered⟩
      · rintro ⟨⟨inner, hmem, hleaf⟩, hcovered⟩
        obtain ⟨left, hleft, hleaf⟩ := (hfield inner).2 ⟨hleaf, hcovered⟩
        exact ⟨left, ⟨inner, hmem, hleft⟩, hleaf⟩
    · rw [projectValue_of_ne (not_exists.1 hvalue)]
      have hleaf : ¬ Leaf value (key :: keys) leaf := by
        rintro (_ | _)
        exact hvalue ⟨_, rfl⟩
      cases including <;> simp [hleaf]

/-! ## Flags -/

/-- Whether one of the paths besides the identifier has a flag. -/
def Selects (projection : Document) (on : Bool) : Prop :=
  ∃ field ∈ projection, field.1 ≠ idKey ∧ isOn field.2 = .ok on

/-- Whether the identifier has a flag. -/
def IdIs (projection : Document) (on : Bool) : Prop :=
  ∃ value, field? projection idKey = some value ∧ isOn value = .ok on

/-- All flags can be read, and those besides the flag of the identifier do not mix. -/
structure Accepted (projection : Document) : Prop where
  flags : ∀ field ∈ projection, ∃ on, isOn field.2 = .ok on
  unmixed : ¬ (Selects projection true ∧ Selects projection false)

/-- Paths are included if their flags are on, or if the identifier stands alone and its flag is on. -/
def Includes (projection : Document) : Prop :=
  Selects projection true ∨ (∀ path ∈ keysOf projection, path = idKey) ∧ IdIs projection true

/-- Keys are covered by a path besides the identifier. -/
def Names (projection : Document) (keys : List String) : Prop :=
  ∃ path ∈ keysOf projection, path ≠ idKey ∧ Covers path.toList keys

/-- Keys below the identifier. -/
def BelowId (keys : List String) : Prop := Covers idKey.toList keys

/--
A projection that includes keeps what its paths cover, and the identifier unless its flag is off. One that
excludes keeps all but what its paths cover, and but the identifier if its flag is off.
-/
def Keeps (projection : Document) (keys : List String) : Prop :=
  (Includes projection → Names projection keys ∨ ¬ IdIs projection false ∧ BelowId keys) ∧
  (¬ Includes projection → ¬ Names projection keys ∧ ¬ (IdIs projection false ∧ BelowId keys))

/-! ## Flags that have been read -/

section

variable {projection : Document} {flags : List (String × Bool)} (h : Read projection flags)

include h

theorem Read.flag_iff {path : String} {on : Bool} :
    field? flags path = some on ↔ ∃ value, field? projection path = some value ∧ isOn value = .ok on := by
  induction h with
  | nil => simp [field?]
  | @cons field flag _ _ hflag _ ih =>
    obtain ⟨key, value⟩ := field
    obtain ⟨_, flagOn⟩ := flag
    obtain ⟨rfl, hon⟩ := hflag
    rw [field?, field?]
    split_ifs
    · simp [hon]
    · exact ih

theorem Read.selects_iff {on : Bool} : Selects projection on ↔ ∃ flag ∈ eraseField flags idKey, flag.2 = on := by
  simp only [eraseField, List.mem_filter, decide_eq_true_eq]
  constructor
  · rintro ⟨field, hfield, hkey, hon⟩
    obtain ⟨flag, hflag, hsame, hread⟩ := exists_of_forall₂_of_mem h hfield
    cases hon.symm.trans hread
    exact ⟨flag, ⟨hflag, hsame ▸ hkey⟩, rfl⟩
  · rintro ⟨flag, ⟨hflag, hkey⟩, rfl⟩
    obtain ⟨field, hfield, hsame, hread⟩ := exists_of_forall₂_of_mem h.flip hflag
    exact ⟨field, hfield, hsame ▸ hkey, hread⟩

theorem Read.any_on : (eraseField flags idKey).any (·.2) = true ↔ Selects projection true := by
  rw [h.selects_iff, List.any_eq_true]

theorem Read.any_off : (eraseField flags idKey).any (!·.2) = true ↔ Selects projection false := by
  rw [h.selects_iff, List.any_eq_true]
  simp only [Bool.not_eq_true']

theorem Read.isEmpty_iff : (eraseField flags idKey).isEmpty = true ↔ ∀ path ∈ keysOf projection, path = idKey := by
  rw [List.isEmpty_iff, ← h.keysOf_eq, eraseField, List.filter_eq_nil_iff, keysOf, List.forall_mem_map]
  simp

theorem Read.idIs_iff {on : Bool} : IdIs projection on ↔ field? flags idKey = some on := h.flag_iff.symm

theorem Read.includes_iff : includes flags = true ↔ Includes projection := by
  rw [includes, Includes, Bool.or_eq_true, Bool.and_eq_true, h.any_on, h.isEmpty_iff, h.idIs_iff, decide_eq_true_eq]

theorem Read.namesId_iff : NamesId flags ↔
    (Includes projection → ¬ IdIs projection false) ∧ (¬ Includes projection → IdIs projection false) := by
  rw [NamesId, ← h.includes_iff, h.idIs_iff]
  cases includes flags <;> simp

theorem Read.covered_iff : Covered (pathsOf flags) keys ↔ Names projection keys ∨ NamesId flags ∧ BelowId keys := by
  simp only [Covered, h.mem_pathsOf_iff, or_and_right, exists_or, Names, BelowId]
  refine or_congr ⟨?_, ?_⟩ (by simp)
  · rintro ⟨_, ⟨key, hkey, hne, rfl⟩, hcovers⟩
    exact ⟨key, hkey, hne, hcovers⟩
  · rintro ⟨key, hkey, hne, hcovers⟩
    exact ⟨_, ⟨key, hkey, hne, rfl⟩, hcovers⟩

/-- What is kept is what is covered where the paths are included, and the rest where they are not. -/
theorem Read.keeps_iff : Keeps projection keys ↔ (Covered (pathsOf flags) keys ↔ includes flags = true) := by
  rw [h.covered_iff, h.namesId_iff, h.includes_iff, Keeps]
  by_cases hincludes : Includes projection <;> simp [hincludes]

theorem Read.hasParts (hpaths : ∀ path ∈ keysOf projection, HasParts path.toList) :
    ∀ path ∈ pathsOf flags, HasParts path := by
  intro path hpath
  rcases h.mem_pathsOf_iff.1 hpath with ⟨key, hkey, -, rfl⟩ | ⟨-, rfl⟩
  · exact hpaths key hkey
  · unfold HasParts
    decide

end

theorem exists_read {projection : Document} (h : ∀ field ∈ projection, ∃ on, isOn field.2 = .ok on) :
    ∃ flags, Read projection flags := by
  cases hflags : readFlags projection with
  | ok flags => exact ⟨flags, read_iff.2 hflags⟩
  | error failure =>
    obtain ⟨field, hfield, hfails⟩ := isOn_of_readFlags_eq_error hflags
    obtain ⟨on, hon⟩ := h field hfield
    cases hon.symm.trans hfails

/-- What cannot be a flag is reported. -/
theorem isOn_eq_error {failure : Failure} (h : isOn value = .error failure) :
    failure = .report (.query "Projection values must be 0/1 or true/false" "projection") := by
  cases value <;> cases h <;> rfl

end Projection

open Projection (Accepted HasParts Keeps Leaf Pruned Read projectFields)

/-- A projection that is not accepted is refused, whatever the document. -/
theorem projectDocument_of_not_accepted {projection : Document} (h : ¬ Accepted projection) (doc : Document) :
    ∃ report, projectDocument doc projection = .error (.report report) ∧ report.kind = .query := by
  have hne : projection ≠ [] := by
    rintro rfl
    exact h ⟨by simp, by simp [Projection.Selects]⟩
  cases hflags : Projection.readFlags projection with
  -- a flag that is none is reported before any mixture is
  | error failure =>
    obtain ⟨field, -, hfield⟩ := Projection.isOn_of_readFlags_eq_error hflags
    rw [Projection.projectDocument_of_readFlags_eq_error hne hflags, Projection.isOn_eq_error hfield]
    exact ⟨_, rfl, rfl⟩
  | ok flags =>
    have hread := Projection.read_iff.2 hflags
    have hmixed : Projection.Selects projection true ∧ Projection.Selects projection false := by
      by_contra hunmixed
      refine h ⟨fun field hfield => ?_, hunmixed⟩
      obtain ⟨flag, -, -, hon⟩ := exists_of_forall₂_of_mem hread hfield
      exact ⟨flag.2, hon⟩
    rw [hread.projectDocument_eq hne, if_pos]
    · exact ⟨_, rfl, rfl⟩
    · rw [Bool.and_eq_true, hread.any_on, hread.any_off]
      exact hmixed

/--
A projection is refused with a report about the query unless its flags can be read and do not mix. If it is
accepted, what it leaves of a document are its leaves that are to be kept, with their values, in documents
that have lost fields and are otherwise the same, and projecting these again changes nothing.
-/
theorem leaf_projectDocument_iff (doc projection : Document) (hne : projection ≠ [])
    (hpaths : ∀ path ∈ keysOf projection, HasParts path.toList) :
    (¬ Accepted projection →
      ∃ report, projectDocument doc projection = .error (.report report) ∧ report.kind = .query) ∧
    (Accepted projection → ∃ left, projectDocument doc projection = .ok left ∧
      (∀ keys leaf, Leaf (.document left) keys leaf ↔ Leaf (.document doc) keys leaf ∧ Keeps projection keys) ∧
      Pruned left doc ∧ projectDocument left projection = .ok left) := by
  refine ⟨fun h => projectDocument_of_not_accepted h doc, fun h => ?_⟩
  obtain ⟨flags, hread⟩ := Projection.exists_read h.flags
  have heq (doc : Document) : projectDocument doc projection =
      .ok (projectFields (Projection.includes flags) (Projection.pathsOf flags) doc) := by
    rw [hread.projectDocument_eq hne, if_neg]
    rw [Bool.and_eq_true, hread.any_on, hread.any_off]
    exact h.unmixed
  refine ⟨_, heq doc, fun keys leaf => ?_, Projection.pruned_projectFields doc, ?_⟩
  · rw [hread.keeps_iff, ← Projection.leaf_projectValue_iff (hread.hasParts hpaths)]
    simp [Projection.projectValue]
  · rw [heq, Projection.projectFields_projectFields]

/-- With a path into a document and no identifier, one leaf of three is kept. -/
theorem leaf_projectDocument_iff_one_of_three :
    [("a.b", Value.bool true), ("_id", .bool false)] ≠ [] ∧
    (∀ path ∈ keysOf [("a.b", Value.bool true), ("_id", .bool false)], HasParts path.toList) ∧
    ∃ left, projectDocument [("_id", .minKey), ("a", .document [("c", .null), ("b", .maxKey)])]
        [("a.b", .bool true), ("_id", .bool false)] = .ok left ∧
      Leaf (.document left) ["a", "b"] .maxKey ∧ ¬ Leaf (.document left) ["a", "c"] .null ∧
      ¬ Leaf (.document left) ["_id"] .minKey := by
  have hpaths : ∀ path ∈ keysOf [("a.b", Value.bool true), ("_id", .bool false)], HasParts path.toList := by
    unfold HasParts
    decide
  have haccepted : Accepted [("a.b", .bool true), ("_id", .bool false)] := by
    refine ⟨by simp [Projection.isOn], ?_⟩
    rintro ⟨-, field, hfield, hkey, hon⟩
    simp only [List.mem_cons, List.not_mem_nil, or_false] at hfield
    rcases hfield with rfl | rfl
    · cases hon
    · exact hkey rfl
  obtain ⟨left, hleft, hleaves, -⟩ := (leaf_projectDocument_iff
    [("_id", .minKey), ("a", .document [("c", .null), ("b", .maxKey)])] _ (by simp) hpaths).2 haccepted
  have hincludes : Projection.Includes [("a.b", .bool true), ("_id", .bool false)] :=
    .inl ⟨_, List.mem_cons_self, by decide, rfl⟩
  have hid : Projection.IdIs [("a.b", .bool true), ("_id", .bool false)] false := ⟨.bool false, rfl, rfl⟩
  -- what is kept starts with the parts of the one path
  have hkeeps (keys : List String) : Keeps [("a.b", .bool true), ("_id", .bool false)] keys ↔
      Projection.Covers "a.b".toList keys := by
    simp only [Keeps, hincludes, hid, Projection.Names]
    simp [keysOf, Projection.idKey]
  refine ⟨by simp, hpaths, left, hleft, ?_, ?_, ?_⟩
  · rw [hleaves, hkeeps]
    have hsecond {α : Type} (first second : α) : second ∈ [first, second] := List.mem_cons_of_mem _ List.mem_cons_self
    refine ⟨.behind (hsecond _ _) (.behind (hsecond _ _) (.here nofun)), ?_⟩
    unfold Projection.Covers
    decide
  · rw [hleaves, hkeeps]
    unfold Projection.Covers
    exact fun h => absurd h.2 (by decide)
  · rw [hleaves, hkeeps]
    unfold Projection.Covers
    exact fun h => absurd h.2 (by decide)

end DocBrowser
