import Mathlib
import DocBrowser.Store.Projection
import DocBrowser.Proofs.ExtendedJson.Renderable
import DocBrowser.Proofs.Failure
/-!
# Projected documents

A projection takes fields away, from a document and from the documents in it, and leaves their order. What
is left of a document can be rendered if the document can. An identifier is left whole or not at all, unless
one of the paths leads below it. The paths come from the flags of the projection, which are read first.
-/

namespace DocBrowser

open ExtendedJson (Writable)

namespace Projection

variable {including : Bool} {paths : List (List Char)} {key : String} {value left : Value} {fields : Document}

/-- What is left of the value of a key, for what follows the key in the paths that start with it. -/
def leftOf (including : Bool) (rests : List (List Char)) (value : Value) : Option Value :=
  if rests = [] then if including then none else some value
  else if [] ∈ rests then if including then some value else none
  else projectValue including rests value

/-- Fields are projected one by one. -/
theorem projectFields_eq_filterMap (fields : Document) :
    projectFields including paths fields = fields.filterMap fun field =>
      (leftOf including (restsOf paths field.1) field.2).map (field.1, ·) := by
  induction fields with
  | nil => rfl
  | cons field rest ih =>
    obtain ⟨key, value⟩ := field
    rw [projectFields, List.filterMap_cons, ← ih, leftOf]
    dsimp only
    split
    · cases including <;> simp [*]
    · rename_i hrests
      rw [if_neg hrests]
      -- a path that ends at the key takes the whole value, others reduce it
      by_cases hwhole : [] ∈ restsOf paths key
      · cases including <;> simp [hwhole]
      · cases projectValue including (restsOf paths key) value <;> simp [hwhole]

theorem mem_projectFields_iff : (key, left) ∈ projectFields including paths fields ↔
    ∃ value, (key, value) ∈ fields ∧ leftOf including (restsOf paths key) value = some left := by
  rw [projectFields_eq_filterMap, List.mem_filterMap]
  constructor
  · rintro ⟨⟨k, value⟩, hmem, h⟩
    obtain ⟨inner, hinner, hpair⟩ := Option.map_eq_some_iff.1 h
    cases hpair
    exact ⟨value, hmem, hinner⟩
  · rintro ⟨value, hmem, h⟩
    exact ⟨(key, value), hmem, by rw [h]; rfl⟩

/-- Whether a value is left whole, or reduced by the paths that lead below its key. -/
inductive IsLeft (including : Bool) (rests : List (List Char)) (value : Value) : Value → Prop
  | whole : IsLeft including rests value value
  | reduced {inner : Value} (hrests : rests ≠ [] ∧ [] ∉ rests) (h : projectValue including rests value = some inner) :
    IsLeft including rests value inner

/-- A field that is left is a field of the document. -/
theorem mem_projectFields (h : (key, left) ∈ projectFields including paths fields) :
    ∃ value, (key, value) ∈ fields ∧ IsLeft including (restsOf paths key) value left := by
  obtain ⟨value, hmem, hleft⟩ := mem_projectFields_iff.1 h
  refine ⟨value, hmem, ?_⟩
  unfold leftOf at hleft
  split_ifs at hleft with hnone _ hwhole
  · cases hleft
    exact .whole
  · cases hleft
    exact .whole
  · exact .reduced ⟨hnone, hwhole⟩ hleft

/-- Keys that are left stay in order. -/
theorem keysOf_projectFields_sublist (fields : Document) :
    (keysOf (projectFields including paths fields)).Sublist (keysOf fields) := by
  rw [projectFields_eq_filterMap]
  induction fields with
  | nil => exact List.Sublist.slnil
  | cons field rest ih =>
    rw [List.filterMap_cons]
    cases leftOf including (restsOf paths field.1) field.2 with
    | none => exact ih.cons field.1
    | some left => exact ih.cons_cons field.1

/-- What passes on to parts, and to documents that have lost keys, passes on to what is left of a value. -/
theorem projectValue_keeps {p : Value → Prop} (hpart : ∀ {value part : Value}, p value → part ∈ value.parts → p part)
    (hlose : ∀ {fields left : Document}, p (.document fields) → (keysOf left).Sublist (keysOf fields) →
      (∀ field ∈ left, p field.2) → p (.document left))
    {value inner : Value} (h : p value) (hinner : projectValue including paths value = some inner) : p inner := by
  induction value using Value.parts_induction generalizing paths inner with
  | step value ih =>
    cases value with
    | document fields =>
      rw [projectValue] at hinner
      cases hinner
      -- a reduced document loses fields and keeps the order of the others
      refine hlose h (keysOf_projectFields_sublist fields) fun ⟨key, left⟩ hfield => ?_
      obtain ⟨value, hvalue, hleft⟩ := mem_projectFields hfield
      have hmem : value ∈ (Value.document fields).parts := Value.mem_parts_document hvalue
      cases hleft with
      | whole => exact hpart h hmem
      | reduced _ hinner => exact ih value hmem (hpart h hmem) hinner
    | _ =>
      unfold projectValue at hinner
      split_ifs at hinner
      cases hinner
      exact h

/-- A key that is left has its whole value, unless a path leads below it. -/
theorem field?_of_projectFields {key : String} (hpaths : ∀ rest ∈ restsOf paths key, rest = []) {fields : Document}
    (hnodup : (keysOf fields).Nodup) {left : Value}
    (h : field? (projectFields including paths fields) key = some left) : field? fields key = some left := by
  obtain ⟨value, hvalue, hleft⟩ := mem_projectFields (mem_of_field?_eq_some h)
  cases hleft with
  | whole => exact (field?_eq_some_iff hnodup).2 hvalue
  | reduced hrests _ =>
    obtain ⟨rest, others, hcons⟩ := List.exists_cons_of_ne_nil hrests.1
    have hmem : rest ∈ restsOf paths key := by simp [hcons]
    exact absurd (hpaths rest hmem ▸ hmem) hrests.2

/-- Whether one of the paths of a projection leads below the identifier. -/
def LeadsBelowId (projection : Document) : Prop :=
  ∃ key ∈ keysOf projection, ∃ rest ∈ restsOf [key.toList] idKey, rest ≠ []

theorem mem_restsOf {key : String} {rest : List Char} :
    rest ∈ restsOf paths key ↔ ∃ path ∈ paths, rest ∈ restsOf [path] key := by
  simp [restsOf]

/-! ## Flags that have been read -/

/-- The flags of a projection, read one by one. -/
def readFlags (projection : Document) : Except Failure (List (String × Bool)) :=
  projection.mapM fun (key, value) => do return (key, ← isOn value)

/-- Whether flags have been read from a projection. -/
def Read (projection : Document) (flags : List (String × Bool)) : Prop :=
  List.Forall₂ (fun field flag => flag.1 = field.1 ∧ isOn field.2 = .ok flag.2) projection flags

/-- Whether the paths with flags are included. -/
def includes (flags : List (String × Bool)) : Bool :=
  (eraseField flags idKey).any (·.2) || ((eraseField flags idKey).isEmpty && field? flags idKey = some true)

/-- Whether the identifier is one of the paths. -/
def NamesId (flags : List (String × Bool)) : Prop :=
  if includes flags then field? flags idKey ≠ some false else field? flags idKey = some false

instance (flags : List (String × Bool)) : Decidable (NamesId flags) :=
  inferInstanceAs (Decidable
    (if includes flags then field? flags idKey ≠ some false else field? flags idKey = some false))

/-- The paths that decide what is left. -/
def pathsOf (flags : List (String × Bool)) : List (List Char) :=
  if NamesId flags then (keysOf (eraseField flags idKey)).map String.toList ++ [idKey.toList]
  else (keysOf (eraseField flags idKey)).map String.toList

theorem read_iff {projection : Document} {flags : List (String × Bool)} :
    Read projection flags ↔ readFlags projection = .ok flags := by
  rw [readFlags, mapM_eq_ok, Read]
  constructor <;> refine fun h => h.imp fun ⟨key, value⟩ flag hflag => ?_
  · obtain ⟨rfl, hon⟩ := hflag
    dsimp only at hon ⊢
    rw [hon]
    rfl
  · obtain ⟨on, hon, hpair⟩ := bind_eq_ok.1 hflag
    cases hpair
    exact ⟨rfl, hon⟩

theorem isOn_of_readFlags_eq_error {projection : Document} {failure : Failure}
    (h : readFlags projection = .error failure) : ∃ field ∈ projection, isOn field.2 = .error failure := by
  obtain ⟨field, hfield, hfails⟩ := exists_of_mapM_eq_error h
  refine ⟨field, hfield, ?_⟩
  cases hon : isOn field.2 with
  | ok on => simp [hon, bind, Except.bind, pure, Except.pure] at hfails
  | error _ =>
    simp only [hon, bind, Except.bind, Except.error.injEq] at hfails
    rw [hfails]

/-- A projection whose flags cannot be read fails as they do. -/
theorem projectDocument_of_readFlags_eq_error {projection : Document} {failure : Failure} (hne : projection ≠ [])
    (h : readFlags projection = .error failure) (doc : Document) : projectDocument doc projection = .error failure := by
  rw [readFlags] at h
  rw [projectDocument, if_neg (by simpa using hne), h]
  rfl

section

variable {projection : Document} {flags : List (String × Bool)} (h : Read projection flags)

include h

theorem Read.keysOf_eq : keysOf flags = keysOf projection := by
  induction h with
  | nil => rfl
  | cons hflag _ ih => exact congrArg₂ _ hflag.1 ih

theorem Read.mem_pathsOf_iff {path : List Char} : path ∈ pathsOf flags ↔
    (∃ key ∈ keysOf projection, key ≠ idKey ∧ key.toList = path) ∨ NamesId flags ∧ path = idKey.toList := by
  have hnamed : path ∈ (keysOf (eraseField flags idKey)).map String.toList ↔
      ∃ key ∈ keysOf projection, key ≠ idKey ∧ key.toList = path := by
    simp only [keysOf_eraseField, h.keysOf_eq, List.mem_map, List.mem_filter, decide_eq_true_eq, and_assoc]
  rw [← hnamed, pathsOf]
  split_ifs with hid <;> simp [hid]

/-- With its flags read, a projection is refused if they mix, and otherwise leaves what its paths leave. -/
theorem Read.projectDocument_eq (hne : projection ≠ []) (doc : Document) : projectDocument doc projection =
    if (eraseField flags idKey).any (·.2) && (eraseField flags idKey).any (!·.2) then
      .error (.report (.query "Cannot mix inclusion and exclusion in a projection" "projection"))
    else .ok (projectFields (includes flags) (pathsOf flags) doc) := by
  have hread := read_iff.1 h
  rw [readFlags] at hread
  rw [projectDocument, if_neg (by simpa using hne), hread]
  rfl

end

end Projection

open Projection (projectFields projectValue)

/-- Projecting a document leaves it whole, or leaves what the paths of the projection, and perhaps the key of the
identifier, leave of it. -/
theorem projectDocument_eq_ok {doc projection left : Document} (h : projectDocument doc projection = .ok left) :
    left = doc ∨ ∃ including paths, left = projectFields including paths doc ∧
      ∀ path ∈ paths, path = Projection.idKey.toList ∨ ∃ key ∈ keysOf projection, path = key.toList := by
  by_cases hne : projection = []
  · subst hne
    cases h
    exact .inl rfl
  · cases hflags : Projection.readFlags projection with
    | error failure =>
      rw [Projection.projectDocument_of_readFlags_eq_error hne hflags] at h
      cases h
    | ok flags =>
      have hread := Projection.read_iff.2 hflags
      rw [hread.projectDocument_eq hne] at h
      split_ifs at h
      cases h
      refine .inr ⟨_, _, rfl, fun path hpath => ?_⟩
      -- a path of the projection, or the id, which is included unasked
      rcases hread.mem_pathsOf_iff.1 hpath with ⟨key, hkey, -, rfl⟩ | ⟨-, rfl⟩
      · exact .inr ⟨key, hkey, rfl⟩
      · exact .inl rfl

/-- An identifier that is left is whole, unless a path leads below it. -/
theorem field?_idKey_of_projectDocument {doc projection left : Document} (hnodup : (keysOf doc).Nodup)
    (hpaths : ¬ Projection.LeadsBelowId projection) (h : projectDocument doc projection = .ok left) {id : Value}
    (hid : field? left Projection.idKey = some id) : field? doc Projection.idKey = some id := by
  rcases projectDocument_eq_ok h with rfl | ⟨including, paths, rfl, hnamed⟩
  · exact hid
  · refine Projection.field?_of_projectFields (fun rest hrest => ?_) hnodup hid
    obtain ⟨path, hpath, hrest⟩ := Projection.mem_restsOf.1 hrest
    rcases hnamed path hpath with rfl | ⟨key, hkey, rfl⟩
    · have hown : Projection.restsOf [Projection.idKey.toList] Projection.idKey = [[]] := by decide
      rwa [hown, List.mem_singleton] at hrest
    · by_contra hne
      exact hpaths ⟨key, hkey, rest, hrest, hne⟩

theorem projectDocument_keeps {p : Value → Prop} (hpart : ∀ {value part : Value}, p value → part ∈ value.parts → p part)
    (hlose : ∀ {fields left : Document}, p (.document fields) → (keysOf left).Sublist (keysOf fields) →
      (∀ field ∈ left, p field.2) → p (.document left))
    {doc projection left : Document} (h : p (.document doc)) (hleft : projectDocument doc projection = .ok left) :
    p (.document left) := by
  rcases projectDocument_eq_ok hleft with rfl | ⟨including, paths, rfl, -⟩
  · exact h
  · exact Projection.projectValue_keeps hpart hlose h (by rw [projectValue])

theorem writable_projectDocument {doc projection left : Document} (h : Writable (.document doc))
    (hleft : projectDocument doc projection = .ok left) : Writable (.document left) :=
  projectDocument_keeps Writable.part Writable.lose h hleft

theorem wellFormed_projectDocument {doc projection left : Document} (h : (Value.document doc).WellFormed)
    (hleft : projectDocument doc projection = .ok left) : (Value.document left).WellFormed :=
  projectDocument_keeps Value.WellFormed.part
    (fun hfields hkeys hvalues => ⟨hfields.1.sublist hkeys, Value.wellFormedFields_iff.2 hvalues⟩) h hleft

end DocBrowser
