import Mathlib
import DocBrowser.Proofs.Filter.Expansions
/-!
# Patterns among the members of arrays

Where a membership operator lists a pattern in its operator form, the pattern itself is put in its place. Nothing
else changes: every other value, the length of every array and the order of all keys stay as they are. No such
form is left behind, so that there is nothing to replace a second time.
-/

namespace DocBrowser

namespace Value

/-! ## Places in a value -/

/-- A step from a value to one of its parts. -/
inductive Step where
  | item (index : ℕ)
  | field (key : String)
  deriving DecidableEq

/-- The part that a step leads to. -/
def part? : Value → Step → Option Value
  | .array items, .item index => items[index]?
  | .document fields, .field key => field? fields key
  | _, _ => none

/-- The value that some steps lead to. -/
def at? (value : Value) : List Step → Option Value
  | [] => some value
  | step :: path => (value.part? step).bind (at? · path)

/-- Values that are the same except for what stands in their parts. -/
inductive SameOutside : Value → Value → Prop where
  | bare {value : Value} (hbare : value.isNested = false) : SameOutside value value
  | array {items items' : List Value} (hlength : items.length = items'.length) :
    SameOutside (.array items) (.array items')
  | document {fields fields' : Document} (hkeys : keysOf fields = keysOf fields') :
    SameOutside (.document fields) (.document fields')

theorem at?_append (value : Value) (front back : List Step) :
    value.at? (front ++ back) = (value.at? front).bind (·.at? back) := by
  induction front generalizing value with
  | nil => rfl
  | cons step front ih =>
    show (value.part? step).bind (at? · (front ++ back)) = ((value.part? step).bind (at? · front)).bind (·.at? back)
    cases value.part? step with
    | none => rfl
    | some part => exact ih part

end Value

namespace Query

open Value (Step SameOutside)

/-! ## Patterns in operator form -/

/--
A document with the key `$regex`, or the keys `$regex` and `$options`, that holds strings: the text of a pattern and
its options, which are empty where there is no key for them.
-/
inductive OperatorForm : Value → String → String → Prop where
  | plain {fields : Document} {pattern : String} (hkeys : ∀ key ∈ keysOf fields, key = "$regex")
    (hpattern : field? fields "$regex" = some (.string pattern)) : OperatorForm (.document fields) pattern ""
  | withOptions {fields : Document} {pattern options : String}
    (hkeys : ∀ key ∈ keysOf fields, key = "$regex" ∨ key = "$options")
    (hpattern : field? fields "$regex" = some (.string pattern))
    (hoptions : field? fields "$options" = some (.string options)) : OperatorForm (.document fields) pattern options

/-- Steps to an item of an array that stands under a membership operator. -/
def ToMember (path : List Step) : Prop :=
  ∃ front key index, path = front ++ [.field key, .item index] ∧ isMembership key = true

/-- Steps to an item of such an array that is a pattern in operator form. -/
def ToPattern (value : Value) (path : List Step) (pattern options : String) : Prop :=
  ToMember path ∧ ∃ item, value.at? path = some item ∧ OperatorForm item pattern options

theorem all_isPatternKey {fields : Document} :
    (fields.all fun (key, _) => key = "$regex" || key = "$options") = true ↔
      ∀ key ∈ keysOf fields, key = "$regex" ∨ key = "$options" := by
  simp [keysOf]

/-- A pattern in operator form stands for the pattern. -/
theorem OperatorForm.regexOfOperator_eq {item : Value} {pattern options : String} (h : OperatorForm item pattern options) :
    regexOfOperator item = .regex pattern options := by
  cases h with
  | @plain fields _ hkeys hpattern =>
    have hall := all_isPatternKey.2 fun key hkey => Or.inl (hkeys key hkey)
    have hnone : field? fields "$options" = none := by
      rw [field?_eq_none_iff]
      intro hmem
      exact absurd (hkeys _ hmem) (by decide)
    rw [regexOfOperator, if_pos hall, hpattern, hnone]
  | withOptions hkeys hpattern hoptions =>
    rw [regexOfOperator, if_pos (all_isPatternKey.2 hkeys), hpattern, hoptions]

/-- Every other value stands for itself. -/
theorem regexOfOperator_eq_self {item : Value} (h : ∀ pattern options, ¬ OperatorForm item pattern options) :
    regexOfOperator item = item := by
  cases item with
  | document fields =>
    rw [regexOfOperator]
    split_ifs with hall
    · -- only keys of a pattern, and a pattern: with options that are a text or none it is an operator
      rw [all_isPatternKey] at hall
      split
      · rename_i pattern hpattern hnone
        rw [field?_eq_none_iff] at hnone
        refine absurd (.plain ?_ hpattern) (h pattern "")
        intro key hkey
        rcases hall key hkey with hregex | hoptions
        · exact hregex
        · exact absurd (hoptions ▸ hkey) hnone
      · rename_i pattern options hpattern hoptions
        exact absurd (.withOptions hall hpattern hoptions) (h pattern options)
      · rfl
    · rfl
  | _ => rfl

theorem not_operatorForm_regexOfOperator (item : Value) (pattern options : String) :
    ¬ OperatorForm (regexOfOperator item) pattern options := by
  by_cases h : ∃ pattern options, OperatorForm item pattern options
  · obtain ⟨pattern', options', hform⟩ := h
    rw [hform.regexOfOperator_eq]
    intro hregex
    cases hregex
  · have hnone : ∀ pattern options, ¬ OperatorForm item pattern options := by
      intro pattern options hform
      exact h ⟨pattern, options, hform⟩
    rw [regexOfOperator_eq_self hnone]
    exact hnone pattern options

/-! ## What becomes of a value, by its place -/

/-- Where a value stands, as far as it matters to what becomes of it. -/
inductive Place where
  | elsewhere
  | under (key : String)
  /-- It is an item of an array that stands under a membership operator. -/
  | member

namespace Place

/-- Where the items of an array stand. -/
def ofItems : Place → Place
  | .under key => if isMembership key then .member else .elsewhere
  | _ => .elsewhere

/-- Where the part stands that a step leads to. -/
def next (place : Place) : Step → Place
  | .item _ => place.ofItems
  | .field key => .under key

/-- Where the value stands that some steps lead to. -/
def after (place : Place) (path : List Step) : Place := path.foldl next place

/-- What becomes of a value. -/
def native : Place → Value → Value
  | .elsewhere, value => nativeRegexIn value
  | .under key, value => nativeRegexInField key value
  | .member, value => regexOfOperator (nativeRegexIn value)

/-- Whether a value at a place is replaced: it is a pattern in operator form as a member. -/
def Replaces (place : Place) (value : Value) : Prop :=
  place = .member ∧ ∃ pattern options, OperatorForm value pattern options

end Place

theorem under_after_iff {path : List Step} {key : String} :
    Place.elsewhere.after path = .under key ↔ ∃ front, path = front ++ [.field key] := by
  -- from the right, since the place is settled by the last steps
  induction path using List.reverseRecOn with
  | nil => simp [Place.after]
  | append_singleton front step _ =>
    rw [Place.after, List.foldl_append]
    show (Place.after .elsewhere front).next step = .under key ↔ _
    cases step with
    | item index =>
      have hne : (Place.after .elsewhere front).ofItems ≠ .under key := by
        unfold Place.ofItems
        split
        · split_ifs <;> simp
        · simp
      simpa [Place.next] using hne
    | field key' =>
      show Place.under key' = .under key ↔ _
      constructor
      · intro h
        exact ⟨front, by rw [Place.under.inj h]⟩
      · rintro ⟨front', hpath⟩
        have hlast := (List.append_inj' hpath rfl).2
        simpa using hlast

/-- An item of an array under a membership operator is known by the last two steps to it. -/
theorem member_after_iff {path : List Step} : Place.elsewhere.after path = .member ↔ ToMember path := by
  induction path using List.reverseRecOn with
  | nil => simp [Place.after, ToMember]
  | append_singleton front step _ =>
    rw [Place.after, List.foldl_append]
    show (Place.after .elsewhere front).next step = .member ↔ _
    -- a path to a member ends in a field and an index, so its last step is the index
    have hlast {front' : List Step} {key : String} {index : ℕ}
        (hpath : front ++ [step] = front' ++ [.field key, .item index]) :
        front = front' ++ [.field key] ∧ step = .item index := by
      have hpath' : front ++ [step] = (front' ++ [.field key]) ++ [.item index] := by
        rw [hpath, List.append_assoc]
        rfl
      have hparts := List.append_inj' hpath' rfl
      exact ⟨hparts.1, by simpa using hparts.2⟩
    cases step with
    | field key =>
      refine iff_of_false (fun h => by cases h) ?_
      rintro ⟨front', key', index, hpath, -⟩
      cases (hlast hpath).2
    | item index =>
      show (Place.after .elsewhere front).ofItems = .member ↔ _
      constructor
      · intro h
        -- an index leads to a member only from directly under the key
        cases hplace : Place.elsewhere.after front with
        | under key =>
          rw [hplace, Place.ofItems] at h
          obtain ⟨front', rfl⟩ := under_after_iff.1 hplace
          refine ⟨front', key, index, by simp, ?_⟩
          by_contra hkey
          rw [if_neg hkey] at h
          cases h
        | _ =>
          rw [hplace] at h
          cases h
      · rintro ⟨front', key, index', hpath, hkey⟩
        rw [under_after_iff.2 ⟨front', (hlast hpath).1⟩, Place.ofItems, if_pos hkey]

theorem nativeRegexInField_eq_string_iff {key text : String} {value : Value} :
    nativeRegexInField key value = .string text ↔ value = .string text := by
  cases value with
  | array items =>
    rw [nativeRegexInField]
    split_ifs <;> simp
  | document fields =>
    rw [nativeRegexInField]
    simp
  | _ => rfl

theorem keysOf_nativeRegexInFields (fields : Document) : keysOf (nativeRegexInFields fields) = keysOf fields := by
  rw [nativeRegexInFields_eq_map, keysOf, keysOf, List.map_map]
  rfl

theorem field?_nativeRegexInFields (fields : Document) (key : String) :
    field? (nativeRegexInFields fields) key = (field? fields key).map (nativeRegexInField key) := by
  induction fields with
  | nil => rfl
  | cons field rest ih =>
    rw [nativeRegexInFields, field?, field?]
    by_cases hkey : field.1 = key
    · rw [if_pos hkey, if_pos hkey, hkey]
      rfl
    · rw [if_neg hkey, if_neg hkey, ih]

/-- What is replaced inside of a document neither makes nor breaks a pattern in operator form. -/
theorem operatorForm_nativeRegexIn_iff {value : Value} {pattern options : String} :
    OperatorForm (nativeRegexIn value) pattern options ↔ OperatorForm value pattern options := by
  cases value with
  | document fields =>
    -- a text is left as it is, and nothing becomes a text, so the fields of the form are the same
    have hstring (key text : String) : field? (nativeRegexInFields fields) key = some (.string text) ↔
        field? fields key = some (.string text) := by
      rw [field?_nativeRegexInFields, Option.map_eq_some_iff]
      simp [nativeRegexInField_eq_string_iff]
    rw [nativeRegexIn]
    constructor
    · intro h
      cases h with
      | plain hkeys hpattern =>
        rw [keysOf_nativeRegexInFields] at hkeys
        exact .plain hkeys ((hstring _ _).1 hpattern)
      | withOptions hkeys hpattern hoptions =>
        rw [keysOf_nativeRegexInFields] at hkeys
        exact .withOptions hkeys ((hstring _ _).1 hpattern) ((hstring _ _).1 hoptions)
    · intro h
      cases h with
      | plain hkeys hpattern =>
        rw [← keysOf_nativeRegexInFields] at hkeys
        exact .plain hkeys ((hstring _ _).2 hpattern)
      | withOptions hkeys hpattern hoptions =>
        rw [← keysOf_nativeRegexInFields] at hkeys
        exact .withOptions hkeys ((hstring _ _).2 hpattern) ((hstring _ _).2 hoptions)
  | array items =>
    rw [nativeRegexIn]
    constructor <;> intro h <;> cases h
  | _ => rfl

namespace Place

variable {place : Place}

/-- A pattern in operator form becomes the pattern where it is a member. -/
theorem native_of_operatorForm {value : Value} {pattern options : String} (h : OperatorForm value pattern options) :
    Place.member.native value = .regex pattern options :=
  (operatorForm_nativeRegexIn_iff.2 h).regexOfOperator_eq

theorem native_of_bare {value : Value} (h : value.isNested = false) : place.native value = value := by
  cases value with
  | array | document => cases h
  | _ => cases place <;> rfl

theorem native_array (items : List Value) : place.native (.array items) = .array (items.map place.ofItems.native) := by
  cases place with
  | elsewhere =>
    show nativeRegexIn (.array items) = _
    rw [nativeRegexIn, nativeRegexInItems_eq_map]
    rfl
  | under key =>
    show nativeRegexInField key (.array items) = _
    -- the items of a list of candidates are members; those of any other list start anew
    by_cases hkey : isMembership key = true
    · have hitems : (Place.under key).ofItems = .member := if_pos hkey
      rw [nativeRegexInField_of_membership hkey, hitems]
      rfl
    · have hitems : (Place.under key).ofItems = .elsewhere := if_neg hkey
      rw [Bool.not_eq_true] at hkey
      rw [nativeRegexInField_of_not_membership hkey, nativeRegexIn, nativeRegexInItems_eq_map, hitems]
      rfl
  | member =>
    show regexOfOperator (nativeRegexIn (.array items)) = _
    rw [nativeRegexIn, nativeRegexInItems_eq_map]
    rfl

theorem native_document {fields : Document} (h : ¬ place.Replaces (.document fields)) :
    place.native (.document fields) = .document (nativeRegexInFields fields) := by
  cases place with
  | elsewhere => rfl
  | under key => rfl
  | member =>
    have hnone : ∀ pattern options, ¬ OperatorForm (nativeRegexIn (.document fields)) pattern options := by
      intro pattern options hform
      exact h ⟨rfl, pattern, options, operatorForm_nativeRegexIn_iff.1 hform⟩
    exact regexOfOperator_eq_self hnone

/-- The part of what becomes of a value is what becomes of its part. -/
theorem part?_native {value : Value} (h : ¬ place.Replaces value) (step : Step) :
    (place.native value).part? step = (value.part? step).map (place.next step).native := by
  cases value with
  | array items =>
    rw [native_array]
    cases step with
    | item index => exact List.getElem?_map ..
    | field key => rfl
  | document fields =>
    rw [native_document h]
    cases step with
    | item index => rfl
    | field key => exact field?_nativeRegexInFields fields key
  | _ =>
    rw [native_of_bare rfl]
    cases step <;> rfl

/-- What some steps lead to in what becomes of a value, if nothing on the way is replaced. -/
theorem at?_native {value : Value} {path : List Step}
    (h : ∀ front back inner, path = front ++ back → back ≠ [] → value.at? front = some inner →
      ¬ (place.after front).Replaces inner) :
    (place.native value).at? path = (value.at? path).map (place.after path).native := by
  induction path generalizing place value with
  | nil => rfl
  | cons step path ih =>
    -- nothing is replaced on the way, so the first step leads to the part's own image
    have hhere : ¬ place.Replaces value := h [] (step :: path) value rfl (List.cons_ne_nil _ _) rfl
    show ((place.native value).part? step).bind (Value.at? · path) =
      ((value.part? step).bind (Value.at? · path)).map ((place.next step).after path).native
    rw [part?_native hhere]
    cases hpart : value.part? step with
    | none => rfl
    | some part =>
      apply ih
      intro front back inner hpath hback hinner
      apply h (step :: front) back inner (by rw [hpath]; rfl) hback
      show (value.part? step).bind (Value.at? · front) = some inner
      rw [hpart]
      exact hinner

/-- What becomes of a value that is not replaced differs from it only in its parts. -/
theorem sameOutside_native {value : Value} (h : ¬ place.Replaces value) : SameOutside value (place.native value) := by
  cases value with
  | array items =>
    rw [native_array]
    exact .array (List.length_map _).symm
  | document fields =>
    rw [native_document h]
    exact .document (keysOf_nativeRegexInFields fields).symm
  | _ =>
    rw [native_of_bare rfl]
    exact .bare rfl

/-- Nothing is replaced a second time. -/
theorem native_native (place : Place) (value : Value) : place.native (place.native value) = place.native value := by
  induction value using Value.parts_induction generalizing place with
  | step value ih =>
    by_cases hreplaces : place.Replaces value
    · -- what was replaced is a pattern now, which holds nothing
      obtain ⟨rfl, pattern, options, hform⟩ := hreplaces
      rw [native_of_operatorForm hform]
      rfl
    · by_cases hnested : value.isNested = true
      · cases value with
        | array items =>
          rw [native_array, native_array, List.map_map]
          congr 1
          apply List.map_congr_left
          intro item hitem
          exact ih item hitem place.ofItems
        | document fields =>
          -- what was not replaced keeps its keys and texts, so it is not replaced the second time
          have hreplaces' : ¬ place.Replaces (.document (nativeRegexInFields fields)) := by
            rintro ⟨hplace, pattern, options, hform⟩
            exact hreplaces ⟨hplace, pattern, options, operatorForm_nativeRegexIn_iff.1 hform⟩
          rw [native_document hreplaces, native_document hreplaces', nativeRegexInFields_eq_map,
            nativeRegexInFields_eq_map, List.map_map]
          congr 1
          apply List.map_congr_left
          intro field hfield
          have hfixed := ih field.2 (Value.mem_parts_document hfield) (.under field.1)
          exact congrArg (field.1, ·) hfixed
        | _ => cases hnested
      · rw [Bool.not_eq_true] at hnested
        rw [native_of_bare hnested, native_of_bare hnested]

end Place

/-! ## Filters -/

theorem toPattern_iff {value : Value} {path : List Step} {pattern options : String} :
    ToPattern value path pattern options ↔
      ∃ item, value.at? path = some item ∧ Place.elsewhere.after path = .member ∧ OperatorForm item pattern options := by
  rw [ToPattern, member_after_iff]
  constructor
  · rintro ⟨hmember, item, hitem, hform⟩
    exact ⟨item, hitem, hmember, hform⟩
  · rintro ⟨item, hitem, hmember, hform⟩
    exact ⟨hmember, item, hitem, hform⟩

/-- Inside of a pattern in operator form stands no other. -/
theorem OperatorForm.not_inside {item inner : Value} {pattern options : String} (h : OperatorForm item pattern options)
    {path : List Step} (hpath : path ≠ []) (hinner : item.at? path = some inner) (pattern' options' : String) :
    ¬ OperatorForm inner pattern' options' := by
  obtain ⟨step, path, rfl⟩ := List.exists_cons_of_ne_nil hpath
  -- an operator holds texts alone, and a text holds nothing
  have hstring : ∀ part, item.part? step = some part → ∃ text, part = .string text := by
    intro part hpart
    cases step with
    | item index => cases h <;> cases hpart
    | field key =>
      have hkey {fields : Document} (hpart : field? fields key = some part) : key ∈ keysOf fields := by
        by_contra hkey
        rw [field?_eq_none_iff.2 hkey] at hpart
        cases hpart
      cases h with
      | @plain fields _ hkeys hpattern =>
        have hfield : field? fields key = some part := hpart
        rw [hkeys key (hkey hfield), hpattern] at hfield
        exact ⟨pattern, (Option.some.inj hfield).symm⟩
      | @withOptions fields _ _ hkeys hpattern hoptions =>
        have hfield : field? fields key = some part := hpart
        rcases hkeys key (hkey hfield) with hregex | hoption
        · rw [hregex, hpattern] at hfield
          exact ⟨pattern, (Option.some.inj hfield).symm⟩
        · rw [hoption, hoptions] at hfield
          exact ⟨options, (Option.some.inj hfield).symm⟩
  obtain ⟨part, hpart, hbelow⟩ := Option.bind_eq_some_iff.1 hinner
  obtain ⟨text, rfl⟩ := hstring part hpart
  intro hform
  cases path with
  | nil =>
    cases hbelow
    cases hform
  | cons step' path => cases step' <;> cases hbelow

variable {filter : Document} {path : List Step}

/-- What some steps lead to in a filter of patterns, if no pattern in operator form on the way is replaced. -/
theorem at?_nativeRegex (h : ∀ front back, path = front ++ back → back ≠ [] →
      ∀ pattern options, ¬ ToPattern (.document filter) front pattern options) :
    (Value.document (nativeRegex filter)).at? path =
      ((Value.document filter).at? path).map (Place.elsewhere.after path).native := by
  show (Place.elsewhere.native (.document filter)).at? path = _
  apply Place.at?_native
  rintro front back inner hpath hback hinner ⟨hmember, pattern, options, hform⟩
  exact h front back hpath hback pattern options (toPattern_iff.2 ⟨inner, hinner, hmember, hform⟩)

theorem at?_nativeRegex_of_toPattern {pattern options : String} (h : ToPattern (.document filter) path pattern options) :
    (Value.document (nativeRegex filter)).at? path = some (.regex pattern options) := by
  obtain ⟨item, hitem, hmember, hform⟩ := toPattern_iff.1 h
  rw [at?_nativeRegex, hitem, hmember]
  · exact congrArg some (Place.native_of_operatorForm hform)
  · -- one that is replaced on the way would hold this one
    intro front back hpath hback pattern' options' hfront
    obtain ⟨outer, houter, -, hform'⟩ := toPattern_iff.1 hfront
    rw [hpath, Value.at?_append, houter] at hitem
    exact hform'.not_inside hback hitem pattern options hform

theorem not_toPattern_nativeRegex (pattern options : String) :
    ¬ ToPattern (.document (nativeRegex filter)) path pattern options := by
  intro h
  obtain ⟨item, hitem, hmember, hform⟩ := toPattern_iff.1 h
  by_cases hway : ∃ front back pattern options, path = front ++ back ∧ back ≠ [] ∧
      ToPattern (.document filter) front pattern options
  · -- nothing stands inside of what has been replaced
    obtain ⟨front, back, pattern', options', hpath, hback, hfront⟩ := hway
    obtain ⟨step, back, rfl⟩ := List.exists_cons_of_ne_nil hback
    rw [hpath, Value.at?_append, at?_nativeRegex_of_toPattern hfront] at hitem
    cases step <;> cases hitem
  · rw [at?_nativeRegex, hmember] at hitem
    · obtain ⟨original, -, rfl⟩ := Option.map_eq_some_iff.1 hitem
      exact not_operatorForm_regexOfOperator (nativeRegexIn original) pattern options hform
    · intro front back hpath hback pattern' options' hfront
      exact hway ⟨front, back, pattern', options', hpath, hback, hfront⟩

/-- Apart from the patterns that are replaced, everything stays in its place. -/
theorem sameOutside_at?_nativeRegex (h : ∀ front back, path = front ++ back →
      ∀ pattern options, ¬ ToPattern (.document filter) front pattern options) :
    Option.Rel SameOutside ((Value.document filter).at? path) ((Value.document (nativeRegex filter)).at? path) := by
  rw [at?_nativeRegex fun front back hpath _ => h front back hpath]
  cases hvalue : (Value.document filter).at? path with
  | none => exact .none
  | some value =>
    apply Option.Rel.some
    apply Place.sameOutside_native
    rintro ⟨hmember, pattern, options, hform⟩
    exact h path [] (List.append_nil _).symm pattern options (toPattern_iff.2 ⟨value, hvalue, hmember, hform⟩)

/--
In a filter with native patterns no array of a membership operator has a pattern in operator form as an item. Each
one in the filter has become the pattern, and whatever steps do not lead to or through one of them lead to the
same value but for its parts. A second time nothing is replaced.
-/
theorem nativeRegex_complete_confined_idempotent (filter : Document) :
    (∀ path pattern options, ¬ ToPattern (.document (nativeRegex filter)) path pattern options) ∧
      (∀ path pattern options, ToPattern (.document filter) path pattern options →
        (Value.document (nativeRegex filter)).at? path = some (.regex pattern options)) ∧
      (∀ path, (∀ front back, path = front ++ back →
          ∀ pattern options, ¬ ToPattern (.document filter) front pattern options) →
        Option.Rel SameOutside ((Value.document filter).at? path) ((Value.document (nativeRegex filter)).at? path)) ∧
      nativeRegex (nativeRegex filter) = nativeRegex filter := by
  refine ⟨fun _ => not_toPattern_nativeRegex, fun _ _ _ => at?_nativeRegex_of_toPattern,
    fun _ => sameOutside_at?_nativeRegex, ?_⟩
  have hfixed := Place.elsewhere.native_native (.document filter)
  exact Value.document.inj hfixed

/-- An array inside of the members is not looked into. -/
example :
    let plain : Value := .document [("$regex", .string "b")]
    let members : List Value := [.document [("$options", .string "i"), ("$regex", .string "^a")], .array [plain], plain]
    nativeRegex [("name", .document [("$nin", .array members)])] =
      [("name", .document [("$nin", .array [.regex "^a" "i", .array [plain], .regex "b" ""])])] := rfl

end Query

end DocBrowser
