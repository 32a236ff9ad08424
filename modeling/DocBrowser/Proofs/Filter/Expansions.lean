import Mathlib
import DocBrowser.Proofs.Filter.Trials
import DocBrowser.Proofs.Store.Queries
/-!
# Operators and the combinations they stand for

Membership of a list is a combination of conditions, one for each member, and a filter is a combination of
filters of one key each. A pattern in its operator form is the pattern itself as a member. Membership finds
the value at its path before it looks at the members, so only a path that cannot be followed tells an empty
list from an empty combination.
-/

namespace DocBrowser

/-! ## Trials behind one another -/

section

variable {ε α β : Type}

theorem anyM_map (f : α → β) (p : β → Except ε Bool) (items : List α) :
    (items.map f).anyM p = items.anyM fun item => p (f item) := by
  refine anyM_congr ?_
  rw [List.forall₂_map_left_iff, List.forall₂_same]
  exact fun _ _ => rfl

theorem map_not_inj {x y : Except ε Bool} : x.map (!·) = y.map (!·) ↔ x = y := by
  refine ⟨fun h => ?_, fun h => by rw [h]⟩
  cases x <;> cases y <;> simp_all [Except.map]

/-- A first step may be taken once or for every item, unless it fails and there is no item. -/
theorem bind_anyM_iff {x : Except ε α} {p : α → β → Except ε Bool} {items : List β} :
    (x >>= fun a => items.anyM (p a)) = items.anyM (fun item => x >>= fun a => p a item) ↔
      items ≠ [] ∨ ∃ a, x = .ok a := by
  cases x with
  | ok a => exact iff_of_true rfl (.inr ⟨a, rfl⟩)
  | error e =>
    cases items with
    | nil =>
      refine iff_of_false ?_ (by simp)
      intro h
      cases h
    | cons item rest => exact iff_of_true (by rw [List.anyM_cons]; rfl) (.inl (List.cons_ne_nil _ _))

end

/-! ## Patterns as members -/

namespace Query

theorem nativeRegexInField_of_not_membership {key : String} (h : isMembership key = false) (value : Value) :
    nativeRegexInField key value = nativeRegexIn value := by
  cases value with
  | array items => rw [nativeRegexInField, if_neg (by simp [h]), nativeRegexIn]
  | document fields => rw [nativeRegexInField, nativeRegexIn]
  | _ => rfl

theorem nativeRegexInField_of_membership {key : String} (h : isMembership key = true) (items : List Value) :
    nativeRegexInField key (.array items) = .array (items.map fun item => regexOfOperator (nativeRegexIn item)) := by
  rw [nativeRegexInField, if_pos h, nativeRegexInItems_eq_map, List.map_map]
  rfl

theorem isMembership_of_not_startsWith {key : String} (h : key.startsWith "$" = false) : isMembership key = false := by
  rw [isMembership, Bool.or_eq_false_iff, decide_eq_false_iff_not, decide_eq_false_iff_not]
  constructor
  · rintro rfl
    rw [String.startsWith_string_eq_false_iff] at h
    exact h (by decide)
  · rintro rfl
    rw [String.startsWith_string_eq_false_iff] at h
    exact h (by decide)

end Query

namespace Filter

open Query (nativeRegex nativeRegexIn regexOfOperator)

/--
The operators that a pattern between slashes compiles to: its text as `$regex` and its options, where it has
any, as `$options`.
-/
inductive PatternForm : Value → Prop where
  | plain (pattern : String) : PatternForm (.document [("$regex", .string pattern)])
  | withOptions (pattern options : String) :
    PatternForm (.document [("$regex", .string pattern), ("$options", .string options)])
  | optionsFirst (pattern options : String) :
    PatternForm (.document [("$options", .string options), ("$regex", .string pattern)])

variable {value : Option Value}

theorem isOperators_nativeRegexIn (item : Value) : isOperators (nativeRegexIn item) = isOperators item := by
  cases item with
  | document fields =>
    rw [nativeRegexIn, isOperators, isOperators, Query.nativeRegexInFields_eq_map, List.isEmpty_map, List.all_map]
    rfl
  | _ => rfl

/-- Only operators are taken for a pattern. -/
theorem regexOfOperator_of_not_isOperators {item : Value} (h : isOperators item = false) : regexOfOperator item = item := by
  cases item with
  | document fields =>
    rw [regexOfOperator]
    split_ifs with hkeys
    · -- keys of patterns are operators, so there are none of them
      have hall : fields.all (·.1.startsWith "$") = true := by
        rw [List.all_eq_true] at hkeys ⊢
        intro field hfield
        have hkey := hkeys field hfield
        simp only [Bool.or_eq_true, decide_eq_true_eq] at hkey
        rw [String.startsWith_string_iff]
        rcases hkey with hkey | hkey <;> rw [hkey] <;> decide
      rw [isOperators, hall, Bool.and_true, Bool.not_eq_false'] at h
      rw [List.isEmpty_iff.1 h]
      rfl
    · rfl
  | _ => rfl

theorem startsWith_regex : "$regex".startsWith "$" = true := by
  rw [String.startsWith_string_iff]
  decide

theorem startsWith_options : "$options".startsWith "$" = true := by
  rw [String.startsWith_string_iff]
  decide

theorem PatternForm.isOperators {item : Value} (h : PatternForm item) : isOperators item = true := by
  cases h <;> simp [Filter.isOperators, startsWith_regex, startsWith_options]

theorem PatternForm.nativeRegexIn_eq {item : Value} (h : PatternForm item) : nativeRegexIn item = item := by
  cases h <;> rfl

theorem equals_regex (pattern options : String) :
    equals value (.regex pattern options) = (candidates value).anyM (patternMatches pattern options) := by
  rw [equals]

/-- The operators of a pattern are passed by the values in which the pattern is found. -/
theorem meets_patternForm {item : Value} (h : PatternForm item) : meets value item = equals value (regexOfOperator item) := by
  have hregex (options : Option Value) (pattern given : String)
      (hoptions : patternOf (.string pattern) options = .ok (pattern, given)) :
      applyNamed value options "$regex" (.string pattern) = equals value (.regex pattern given) := by
    rw [applyNamed_of_ne (by decide), applyOperator, hoptions, equals_regex]
    rfl
  -- options are read by the pattern beside them and are met by everything themselves
  have hoptions (options : Option Value) (given : String) :
      applyNamed value options "$options" (.string given) = .ok true := by
    rw [applyNamed_of_ne (by decide)]
    rfl
  have hoperators := h.isOperators
  cases h with
  | plain pattern =>
    rw [meets_of_isOperators hoperators, applyOperators_eq_allM, allM_singleton]
    exact hregex none pattern "" rfl
  | withOptions pattern given =>
    rw [meets_of_isOperators hoperators, applyOperators_eq_allM, List.allM_cons, allM_singleton, hoptions,
      hregex _ pattern given rfl]
    show _ = equals value (.regex pattern given)
    -- the options stand behind the pattern and are asked only if the pattern is met
    cases equals value (.regex pattern given) with
    | error e => rfl
    | ok found => cases found <;> rfl
  | optionsFirst pattern given =>
    rw [meets_of_isOperators hoperators, applyOperators_eq_allM, List.allM_cons, allM_singleton, hoptions,
      hregex _ pattern given rfl]
    rfl

/-- A condition that is no operators, or those of a pattern, is met by what is equal to it as a member. -/
theorem meets_nativeRegexIn {item : Value} (h : isOperators item = true → PatternForm item) :
    meets value (nativeRegexIn item) = equals value (regexOfOperator (nativeRegexIn item)) := by
  cases hitem : isOperators item with
  | true =>
    rw [(h hitem).nativeRegexIn_eq]
    exact meets_patternForm (h hitem)
  | false =>
    have hnative : isOperators (nativeRegexIn item) = false := (isOperators_nativeRegexIn item).trans hitem
    rw [meets_of_not_isOperators hnative, regexOfOperator_of_not_isOperators hnative]

/-! ## Filters of one key -/

section

variable {doc : Document} {key : String}

theorem matchesFields_singleton (doc : Document) (key : String) (condition : Value) :
    matchesFields doc [(key, condition)] = matchesField doc key condition := by
  rw [matchesFields_eq_allM, allM_singleton]

theorem isCombination_of_not_startsWith (h : key.startsWith "$" = false) : isCombination key = false := by
  simp only [isCombination, Bool.or_eq_false_iff, decide_eq_false_iff_not]
  refine ⟨⟨?_, ?_⟩, ?_⟩
  all_goals
    rintro rfl
    rw [String.startsWith_string_eq_false_iff] at h
    exact h (by decide)

/-- At a path, the value is found first. -/
theorem matchesFields_path (h : key.startsWith "$" = false) (doc : Document) (condition : Value) :
    matchesFields doc [(key, condition)] = doc.resolve key >>= fun found => meets found condition := by
  rw [matchesFields_singleton, matchesField_of_not_combination (isCombination_of_not_startsWith h), matchesValue,
    if_neg (by simp [h])]

theorem isOperators_singleton {operator : String} (h : operator.startsWith "$" = true) (operand : Value) :
    isOperators (.document [(operator, operand)]) = true := by
  simp [isOperators, h]

theorem meets_singleton {operator : String} (h : operator.startsWith "$" = true) (hnot : operator ≠ "$not")
    (found : Option Value) (operand : Value) :
    meets found (.document [(operator, operand)]) =
      applyOperator found (field? [(operator, operand)] "$options") operator operand := by
  rw [meets_of_isOperators (isOperators_singleton h operand), applyOperators_eq_allM, allM_singleton,
    applyNamed_of_ne hnot]

/-- Filters of one key each, with a condition for each item. -/
def alternatives (key : String) (items : List Value) : List Value := items.map fun item => .document [(key, item)]

/-- The filters of one key each that a filter is made of. -/
def conjuncts (filter : Document) : List Value := filter.map fun field => .document [field]

theorem matchesFields_combination {combination : String} (h : isCombination combination = true) (doc : Document)
    {items : List Value} (hitems : items.all isDocument = true) :
    matchesFields doc [(combination, .array items)] = combine doc combination items := by
  rw [matchesFields_singleton, matchesField_combination h, if_pos hitems]

theorem isDocument_alternatives (key : String) (items : List Value) : (alternatives key items).all isDocument = true := by
  rw [alternatives, List.all_map, List.all_eq_true]
  exact fun _ _ => rfl

theorem anyM_alternatives (h : key.startsWith "$" = false) (doc : Document) (items : List Value) :
    (alternatives key items).anyM (matchesDocument doc) =
      items.anyM fun item => doc.resolve key >>= fun found => meets found item := by
  rw [alternatives, anyM_map]
  congr 1
  funext item
  rw [matchesDocument, matchesFields_path h]

/-- The conditions of a filter are tried as the filters of one key each are. -/
theorem matchesFields_conjuncts (doc filter : Document) :
    matchesFields doc filter = matchesFields doc [("$and", .array (conjuncts filter))] := by
  have hdocuments : (conjuncts filter).all isDocument = true := by
    rw [conjuncts, List.all_map, List.all_eq_true]
    exact fun _ _ => rfl
  rw [matchesFields_combination (by decide) doc hdocuments, combine, if_pos rfl, matchesFields_eq_allM]
  apply allM_congr
  rw [conjuncts, List.forall₂_map_right_iff, List.forall₂_same]
  intro field _
  rw [matchesDocument]
  exact (matchesFields_singleton doc field.1 field.2).symm

/-! ## Filters with their patterns as members -/

theorem nativeRegex_members {operator : String} (hkey : key.startsWith "$" = false)
    (h : Query.isMembership operator = true) (items : List Value) :
    nativeRegex [(key, .document [(operator, .array items)])] =
      [(key, .document [(operator, .array (items.map fun item => regexOfOperator (nativeRegexIn item)))])] := by
  rw [nativeRegex, Query.nativeRegexInFields_eq_map, List.map_singleton,
    Query.nativeRegexInField_of_not_membership (Query.isMembership_of_not_startsWith hkey), nativeRegexIn,
    Query.nativeRegexInFields_eq_map, List.map_singleton, Query.nativeRegexInField_of_membership h]

theorem nativeRegex_combination {combination : String} (h : Query.isMembership combination = false)
    (filters : List Document) :
    nativeRegex [(combination, .array (filters.map .document))] =
      [(combination, .array (filters.map fun filter => .document (nativeRegex filter)))] := by
  rw [nativeRegex, Query.nativeRegexInFields_eq_map, List.map_singleton,
    Query.nativeRegexInField_of_not_membership h, nativeRegexIn, Query.nativeRegexInItems_eq_map, List.map_map]
  rfl

theorem nativeRegex_alternatives {combination : String} (h : Query.isMembership combination = false)
    (hkey : key.startsWith "$" = false) (items : List Value) :
    nativeRegex [(combination, .array (alternatives key items))] =
      [(combination, .array (alternatives key (items.map nativeRegexIn)))] := by
  have hfilters : alternatives key items = (items.map fun item => [(key, item)]).map .document := by
    rw [alternatives, List.map_map]
    rfl
  rw [hfilters, nativeRegex_combination h, alternatives, List.map_map, List.map_map]
  congr 4
  funext item
  rw [Function.comp_apply, Function.comp_apply, nativeRegex, Query.nativeRegexInFields_eq_map, List.map_singleton,
    Query.nativeRegexInField_of_not_membership (Query.isMembership_of_not_startsWith hkey)]

theorem nativeRegex_conjuncts (filter : Document) :
    nativeRegex [("$and", .array (conjuncts filter))] = [("$and", .array (conjuncts (nativeRegex filter)))] := by
  have hfilters : conjuncts filter = (filter.map fun field => [field]).map .document := by
    rw [conjuncts, List.map_map]
    rfl
  rw [hfilters, nativeRegex_combination (by decide), conjuncts, nativeRegex, Query.nativeRegexInFields_eq_map,
    List.map_map, List.map_map]
  rfl

/-! ## Membership -/

/-- Membership finds the value at the path, and then looks at the members. -/
theorem matchesFields_members (hkey : key.startsWith "$" = false) (doc : Document) {items : List Value}
    (hitems : ∀ item ∈ items, isOperators item = true → PatternForm item) :
    (doc.resolve key >>= fun found => (items.map fun item => regexOfOperator (nativeRegexIn item)).anyM (equals found)) =
        (alternatives key (items.map nativeRegexIn)).anyM (matchesDocument doc) ↔
      items ≠ [] ∨ ∃ found, doc.resolve key = .ok found := by
  have hleft (found : Option Value) :
      (items.map fun item => regexOfOperator (nativeRegexIn item)).anyM (equals found) =
        items.anyM fun item => meets found (nativeRegexIn item) := by
    rw [anyM_map]
    apply anyM_congr
    rw [List.forall₂_same]
    exact fun item hitem => (meets_nativeRegexIn (hitems item hitem)).symm
  simp only [hleft]
  rw [anyM_alternatives hkey, anyM_map]
  exact bind_anyM_iff

theorem map_bind_not {x : Except Failure (Option Value)} {p : Option Value → Except Failure Bool} :
    (x >>= fun found => (p found).map (!·)) = (x >>= p).map (!·) := by
  cases x <;> rfl

/--
Membership of a list and the combination of one condition for each member give the same answer or the same
failure, for members that are no operators but those of a pattern, unless the list is empty and the path
cannot be followed. A filter always answers as the combination of its conditions.
-/
theorem membership_eq_alternatives_iff (hkey : key.startsWith "$" = false) (doc : Document) {items : List Value}
    (hitems : ∀ item ∈ items, isOperators item = true → PatternForm item) :
    ((doc.matchesFilter (nativeRegex [(key, .document [("$in", .array items)])]) =
        doc.matchesFilter (nativeRegex [("$or", .array (alternatives key items))])) ↔
      items ≠ [] ∨ ∃ found, doc.resolve key = .ok found) ∧
    ((doc.matchesFilter (nativeRegex [(key, .document [("$nin", .array items)])]) =
        doc.matchesFilter (nativeRegex [("$nor", .array (alternatives key items))])) ↔
      items ≠ [] ∨ ∃ found, doc.resolve key = .ok found) ∧
    ∀ filter : Document, doc.matchesFilter filter = doc.matchesFilter [("$and", .array (conjuncts filter))] ∧
      doc.matchesFilter (nativeRegex filter) = doc.matchesFilter (nativeRegex [("$and", .array (conjuncts filter))]) := by
  have hin (found : Option Value) (members : List Value) :
      meets found (.document [("$in", .array members)]) = members.anyM (equals found) :=
    meets_singleton (by rw [String.startsWith_string_iff]; decide) (by decide) found _
  have hnin (found : Option Value) (members : List Value) :
      meets found (.document [("$nin", .array members)]) = (members.anyM (equals found)).map (!·) :=
    meets_singleton (by rw [String.startsWith_string_iff]; decide) (by decide) found _
  have hmembers := matchesFields_members hkey doc hitems
  refine ⟨?_, ?_, fun filter => ⟨matchesFields_conjuncts doc filter, ?_⟩⟩
  · -- one member is enough, as one filter is
    rw [Document.matchesFilter, Document.matchesFilter, nativeRegex_members hkey (by decide),
      nativeRegex_alternatives (by decide) hkey, matchesFields_path hkey,
      matchesFields_combination (by decide) doc (isDocument_alternatives _ _), combine, if_neg (by decide), if_pos rfl]
    simp only [hin]
    exact hmembers
  · -- both sides turn the answer around
    rw [Document.matchesFilter, Document.matchesFilter, nativeRegex_members hkey (by decide),
      nativeRegex_alternatives (by decide) hkey, matchesFields_path hkey,
      matchesFields_combination (by decide) doc (isDocument_alternatives _ _), combine, if_neg (by decide),
      if_neg (by decide)]
    simp only [hnin]
    rw [map_bind_not, map_not_inj]
    exact hmembers
  · rw [nativeRegex_conjuncts]
    exact matchesFields_conjuncts doc (nativeRegex filter)

end

/-- A pattern with options and a number as members, on a list of texts. -/
theorem membership_eq_alternatives_pattern :
    let doc : Document := [("tags", .array [.string "Xy", .null])]
    let items : List Value := [.int32 ⟨1, by decide, by decide⟩,
      .document [("$options", .string "i"), ("$regex", .string "^x")]]
    "tags".startsWith "$" = false ∧ (∀ item ∈ items, isOperators item = true → PatternForm item) ∧
    doc.matchesFilter (nativeRegex [("tags", .document [("$in", .array items)])]) =
      doc.matchesFilter (nativeRegex [("$or", .array (alternatives "tags" items))]) := by
  intro doc items
  have hkey : "tags".startsWith "$" = false := by
    rw [String.startsWith_string_eq_false_iff]
    decide
  have hitems : ∀ item ∈ items, isOperators item = true → PatternForm item := by
    rw [List.forall_mem_cons, List.forall_mem_singleton]
    exact ⟨fun h => Bool.noConfusion h, fun _ => .optionsFirst "^x" "i"⟩
  exact ⟨hkey, hitems, (membership_eq_alternatives_iff hkey doc hitems).1.2 (.inl (List.cons_ne_nil _ _))⟩

/-- At a path that cannot be followed, membership of the empty list fails, and the empty combination is not met. -/
theorem membership_ne_alternatives_superscript :
    let doc : Document := [("a", .array [.int32 ⟨1, by decide, by decide⟩])]
    doc.matchesFilter (nativeRegex [("a.²", .document [("$in", .array [])])]) =
      .error (.conversion (positionMessage ['²'])) ∧
    doc.matchesFilter (nativeRegex [("$or", .array (alternatives "a.²" []))]) = .ok false := by
  intro doc
  have hkey : "a.²".startsWith "$" = false := by
    rw [String.startsWith_string_eq_false_iff]
    decide
  have hresolve : doc.resolve "a.²" = .error (.conversion (positionMessage ['²'])) := by rfl
  -- a membership resolves its path even for no candidates, an alternative of none resolves nothing
  constructor
  · rw [Document.matchesFilter, nativeRegex_members hkey (by decide), matchesFields_path hkey, hresolve]
    rfl
  · rw [Document.matchesFilter, nativeRegex_alternatives (by decide) hkey,
      matchesFields_combination (by decide) doc (isDocument_alternatives _ _)]
    rfl

end Filter

end DocBrowser
