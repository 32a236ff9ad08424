import Mathlib
import DocBrowser.Proofs.Filter.Trials
import DocBrowser.Proofs.Store.Answers
import DocBrowser.Proofs.Value.Widths
/-!
# Filters and the widths of numbers

A filter gives the same result when numbers of 32 bits are stored with 64 bits, in the document and in itself,
as long as it compares with bare numbers. What it compares for equality with an array or a document in which
there is a number that 32 bits can hold tells the widths apart, and so does what it orders against an array
or a document.
-/

namespace DocBrowser

namespace Filter

open Value (Widened WidenedItems WidenedFields FoundWidened rank_of_sortKey rank_ne_of_isNested
  narrowFreeInside_of_not_isNested)

/-! ## Comparisons -/

section

variable {value value' : Option Value}

theorem forall₂_candidates (h : Option.Rel Widened value value') :
    List.Forall₂ Widened (candidates value) (candidates value') := by
  cases h with
  | none => exact .nil
  | @some own own' h =>
    cases h with
    | array h => exact .cons (.array h) h.forall₂
    | document h => exact .cons (.document h) .nil
    | number h => exact .cons (.number h) .nil
    | bare hbare =>
      cases own with
      | array => cases hbare
      | _ => exact .cons (.bare hbare) .nil

theorem patternMatches_widened {candidate candidate' : Value} (h : Widened candidate candidate') (pattern options : String) :
    patternMatches pattern options candidate = patternMatches pattern options candidate' := by
  cases h <;> rfl

theorem anyM_patternMatches_widened (h : Option.Rel Widened value value') (pattern options : String) :
    (candidates value).anyM (patternMatches pattern options) = (candidates value').anyM (patternMatches pattern options) :=
  anyM_congr ((forall₂_candidates h).imp fun _ _ hcandidate => patternMatches_widened hcandidate pattern options)

theorem equals_widened (h : Option.Rel Widened value value') {expected expected' : Value}
    (hexpected : Widened expected expected') (hinside : expected.NarrowFreeInside) :
    equals value expected = equals value' expected' := by
  have hequal : (candidates value).anyM (Value.equal · expected) = (candidates value').anyM (Value.equal · expected') :=
    anyM_congr ((forall₂_candidates h).imp fun _ _ hcandidate => hcandidate.equal_eq hexpected hinside)
  -- patterns and null are asked in another way than by equality, and neither is ever widened
  cases hexpected with
  | @bare expected hbare =>
    cases expected with
    | regex pattern options => exact anyM_patternMatches_widened h pattern options
    | null =>
      cases h with
      | none => rfl
      | some => exact hequal
    | array | document => cases hbare
    | _ => exact hequal
  | _ => exact hequal

/-- What is ordered by its text is of another rank than a bare bound. -/
theorem compareKey_widened {candidate candidate' bound : Value} (h : Widened candidate candidate')
    (hbound : bound.isNested = false) {key : SortKey} (hkey : bound.sortKey = .ok key) (test : Ordering → Bool) :
    (candidate.sortKey >>= fun own => return own.rank = key.rank && test (own.compare key) : Except Failure Bool) =
      (candidate'.sortKey >>= fun own => return own.rank = key.rank && test (own.compare key)) := by
  cases hnested : candidate.isNested with
  | false => rw [h.sortKey_eq hnested]
  | true =>
    have hother {value : Value} (hvalue : value.isNested = true) (own : SortKey) (hown : value.sortKey = .ok own) :
        (return own.rank = key.rank && test (own.compare key) : Except Failure Bool) = .ok false := by
      have hrank := rank_ne_of_isNested hvalue hbound
      rw [← rank_of_sortKey hown, ← rank_of_sortKey hkey] at hrank
      rw [decide_eq_false hrank]
      rfl
    exact h.sortKey.bind_eq (hother hnested) (hother (h.isNested_eq ▸ hnested))

theorem compares_widened (h : Option.Rel Widened value value') {bound bound' : Value} (hbound : Widened bound bound')
    (hbare : bound.isNested = false) (test : Ordering → Bool) :
    compares value bound test = compares value' bound' test := by
  rw [compares, compares, ← hbound.sortKey_eq hbare]
  cases hkey : bound.sortKey with
  | error failure => rfl
  | ok key =>
    exact anyM_congr ((forall₂_candidates h).imp fun _ _ hcandidate => compareKey_widened hcandidate hbare hkey test)

theorem asksForPresence_widened {operand operand' : Value} (h : Widened operand operand') :
    asksForPresence operand = asksForPresence operand' := by
  cases h with
  | number h => rw [asksForPresence, asksForPresence, h]
  | _ => rfl

theorem patternOf_widened {operand operand' : Value} (h : Widened operand operand') {options options' : Option Value}
    (hoptions : Option.Rel Widened options options') : patternOf operand options = patternOf operand' options' := by
  cases h with
  | bare =>
    cases operand with
    | string =>
      cases hoptions with
      | none => rfl
      | some hoptions => cases hoptions <;> rfl
    | _ => rfl
  | _ => rfl

/-! ## Operators -/

/--
Whether the widths of numbers do not matter to an operator: arrays and documents that it looks for have no
number in them that 32 bits can hold, and nothing is ordered against an array or a document.
-/
structure IgnoresWidth (operator : String) (operand : Value) : Prop where
  equal : operator = "$eq" ∨ operator = "$ne" → operand.NarrowFreeInside
  member : operator = "$in" ∨ operator = "$nin" → ∀ items, operand = .array items → ∀ item ∈ items, item.NarrowFreeInside
  negated : operator = "$not" → ∀ items, operand = .array items → operand.NarrowFreeInside
  bound : operator = "$gt" ∨ operator = "$gte" ∨ operator = "$lt" ∨ operator = "$lte" → operand.isNested = false

theorem anyM_equals_widened (h : Option.Rel Widened value value') {items items' : List Value}
    (hitems : WidenedItems items items') (hinside : ∀ item ∈ items, item.NarrowFreeInside) :
    items.anyM (equals value) = items'.anyM (equals value') := by
  apply anyM_congr
  induction items generalizing items' with
  | nil =>
    cases hitems
    exact .nil
  | cons item rest ih =>
    cases hitems with
    | cons first others =>
      rw [List.forall_mem_cons] at hinside
      exact .cons (equals_widened h first hinside.1) (ih others hinside.2)

theorem isSome_widened (h : Option.Rel Widened value value') : value.isSome = value'.isSome := by
  cases h <;> rfl

theorem applyOperator_widened (h : Option.Rel Widened value value') {options options' : Option Value}
    (hoptions : Option.Rel Widened options options') {operator : String} {operand operand' : Value}
    (hoperand : Widened operand operand') (hignores : IgnoresWidth operator operand) :
    applyOperator value options operator operand = applyOperator value' options' operator operand' := by
  unfold applyOperator
  -- in the order of the operators: equality, bounds, membership, presence, patterns
  split
  · exact equals_widened h hoperand (hignores.equal (.inl rfl))
  · rw [equals_widened h hoperand (hignores.equal (.inr rfl))]
  · exact compares_widened h hoperand (hignores.bound (by simp)) _
  · exact compares_widened h hoperand (hignores.bound (by simp)) _
  · exact compares_widened h hoperand (hignores.bound (by simp)) _
  · exact compares_widened h hoperand (hignores.bound (by simp)) _
  · cases hoperand with
    | array hitems => exact anyM_equals_widened h hitems (hignores.member (.inl rfl) _ rfl)
    | bare hbare => cases operand <;> first | rfl | cases hbare
    | _ => rfl
  · cases hoperand with
    | array hitems =>
      have hmembers := anyM_equals_widened h hitems (hignores.member (.inr rfl) _ rfl)
      simp only [hmembers]
    | bare hbare => cases operand <;> first | rfl | cases hbare
    | _ => rfl
  · rw [asksForPresence_widened hoperand, isSome_widened h]
  · rw [patternOf_widened hoperand hoptions]
    congr 1
    funext pattern
    exact anyM_patternMatches_widened h pattern.1 pattern.2
  · rfl
  · rfl

end

/-! ## Documents of operators -/

/-- What is applied by one operator: that operator itself, and what a document under `$not` applies. -/
inductive Applies (operator : String) (operand : Value) : String → Value → Prop where
  | here : Applies operator operand operator operand
  | negated {outer inner : String} {fields : Document} {value : Value} (houter : outer = "$not")
    (hmem : (inner, value) ∈ fields) (h : Applies operator operand inner value) :
    Applies operator operand outer (.document fields)

theorem Applies.eq_of_ne {operator outer : String} {operand value : Value} (h : Applies operator operand outer value)
    (hne : outer ≠ "$not") : operator = outer ∧ operand = value := by
  cases h with
  | here => exact ⟨rfl, rfl⟩
  | negated houter => exact absurd houter hne

/-- What a condition tests for: equality with itself, or what its operators apply. -/
inductive Tests (operator : String) (operand : Value) : Value → Prop where
  | literal (h : isOperators operand = false) (hoperator : operator = "$eq") : Tests operator operand operand
  | operators {fields : Document} {inner : String} {value : Value} (h : isOperators (.document fields) = true)
    (hmem : (inner, value) ∈ fields) (happlies : Applies operator operand inner value) :
    Tests operator operand (.document fields)

section

variable {value value' : Option Value}

theorem isOperators_widened {condition condition' : Value} (h : Widened condition condition') :
    isOperators condition = isOperators condition' := by
  cases h with
  | document h => exact isOperators_eq_of_perm (h.keysOf_eq ▸ .refl _)
  | _ => rfl

mutual

/-- By induction on the operand: operators stand in an operand only under `$not`. -/
theorem applyNamed_widened (h : Option.Rel Widened value value') {options options' : Option Value}
    (hoptions : Option.Rel Widened options options') {operator : String} {operand operand' : Value}
    (hoperand : Widened operand operand')
    (hignores : ∀ inner own, Applies inner own operator operand → IgnoresWidth inner own) :
    applyNamed value options operator operand = applyNamed value' options' operator operand' := by
  by_cases hnot : operator = "$not"
  · subst hnot
    -- a negation of anything but operators is an equality
    have hliteral {operand operand' : Value} (hne : ∀ fields, operand ≠ .document fields)
        (hne' : ∀ fields, operand' ≠ .document fields) (hwide : Widened operand operand')
        (hinside : operand.NarrowFreeInside) :
        applyNamed value options "$not" operand = applyNamed value' options' "$not" operand' := by
      rw [applyNamed_not_of_ne hne, applyNamed_not_of_ne hne', equals_widened h hwide hinside]
    cases hoperand with
    | document hfields =>
      rw [applyNamed_not_document, applyNamed_not_document, applyOperators_eq_allM, applyOperators_eq_allM,
        allM_congr (forall₂_applyNamed_widened h (hfields.field? "$options") hfields
          fun field hfield inner own happlies => hignores inner own (.negated rfl hfield happlies))]
    | number hwide => exact hliteral (by simp) (by simp) (.number hwide) (narrowFreeInside_of_not_isNested rfl)
    | array hitems => exact hliteral (by simp) (by simp) (.array hitems) ((hignores _ _ .here).negated rfl _ rfl)
    | bare hbare =>
      have hne : ∀ fields, operand ≠ .document fields := by
        rintro fields rfl
        cases hbare
      exact hliteral hne hne (.bare hbare) (narrowFreeInside_of_not_isNested hbare)
  · rw [applyNamed_of_ne hnot, applyNamed_of_ne hnot]
    exact applyOperator_widened h hoptions hoperand (hignores _ _ .here)

theorem forall₂_applyNamed_widened (h : Option.Rel Widened value value') {options options' : Option Value}
    (hoptions : Option.Rel Widened options options') {fields fields' : Document} (hfields : WidenedFields fields fields')
    (hignores : ∀ field ∈ fields, ∀ inner own, Applies inner own field.1 field.2 → IgnoresWidth inner own) :
    List.Forall₂ (fun field field' => applyNamed value options field.1 field.2 =
      applyNamed value' options' field'.1 field'.2) fields fields' := by
  cases hfields with
  | nil => exact .nil
  | cons first others =>
    rw [List.forall_mem_cons] at hignores
    exact .cons (applyNamed_widened h hoptions first hignores.1)
      (forall₂_applyNamed_widened h hoptions others hignores.2)

end

/-- Conditions are met alike where all that they test for ignores widths. -/
theorem meets_widened (h : Option.Rel Widened value value') {condition condition' : Value}
    (hcondition : Widened condition condition')
    (hignores : ∀ operator operand, Tests operator operand condition → IgnoresWidth operator operand) :
    meets value condition = meets value' condition' := by
  -- a literal is compared as a whole, operators are applied one by one
  cases hoperators : isOperators condition with
  | false =>
    have hinside := (hignores _ _ (.literal hoperators rfl)).equal (.inl rfl)
    rw [meets_of_not_isOperators hoperators, meets_of_not_isOperators (isOperators_widened hcondition ▸ hoperators),
      equals_widened h hcondition hinside]
  | true =>
    cases hcondition with
    | document hfields =>
      have hoperators' := isOperators_widened (.document hfields) ▸ hoperators
      rw [meets_of_isOperators hoperators, meets_of_isOperators hoperators', applyOperators_eq_allM,
        applyOperators_eq_allM]
      refine allM_congr (forall₂_applyNamed_widened h (hfields.field? "$options") hfields ?_)
      exact fun field hfield inner own happlies => hignores inner own (.operators hoperators hfield happlies)
    | bare hbare =>
      cases condition with
      | document => cases hbare
      | _ => cases hoperators
    | _ => cases hoperators

end

/-! ## Filters -/

/-- Whether the widths of numbers do not matter to any condition of a filter. -/
def IgnoresWidths (filter : Document) : Prop :=
  ∀ path condition, Asks path condition filter →
    ∀ operator operand, Tests operator operand condition → IgnoresWidth operator operand

theorem IgnoresWidths.of_subset {filter part : Document} (h : IgnoresWidths filter) (hpart : ∀ field ∈ part, field ∈ filter) :
    IgnoresWidths part := by
  intro path condition hasks
  refine h path condition ?_
  cases hasks with
  | here hmem hpath => exact .here (hpart _ hmem) hpath
  | combined hmem hkey hinner hasks => exact .combined (hpart _ hmem) hkey hinner hasks

variable {doc doc' : Document}

theorem matchesValue_widened (hdoc : WidenedFields doc doc') {key : String} {condition condition' : Value}
    (hcondition : Widened condition condition')
    (hignores : ∀ operator operand, Tests operator operand condition → IgnoresWidth operator operand) :
    matchesValue doc key condition = matchesValue doc' key condition' := by
  rw [matchesValue, matchesValue]
  split_ifs
  · rfl
  · have hfound := (Widened.document hdoc).resolve (pathParts key)
    rw [Document.resolve, Document.resolve]
    generalize (Value.document doc).resolve (pathParts key) = found at hfound
    generalize (Value.document doc').resolve (pathParts key) = found' at hfound
    cases hfound with
    | failed failure => rfl
    | found h => exact meets_widened h hcondition hignores

theorem all_isDocument_widened {items items' : List Value} (h : WidenedItems items items') :
    items.all isDocument = items'.all isDocument := by
  induction items generalizing items' with
  | nil =>
    cases h
    rfl
  | cons item rest ih =>
    cases h with
    | @cons _ item' _ _ first others =>
      have hfirst : isDocument item = isDocument item' := by cases first <;> rfl
      rw [List.all_cons, List.all_cons, hfirst, ih others]

mutual

/-- By induction on the filter: a condition holds further filters only in a combination. -/
theorem matchesField_widened (hdoc : WidenedFields doc doc') {key : String} {condition condition' : Value}
    (hcondition : Widened condition condition') (hignores : IgnoresWidths [(key, condition)]) :
    matchesField doc key condition = matchesField doc' key condition' := by
  cases hkey : isCombination key with
  | false =>
    rw [matchesField_of_not_combination hkey, matchesField_of_not_combination hkey]
    exact matchesValue_widened hdoc hcondition (hignores key condition (.here List.mem_cons_self hkey))
  | true =>
    cases hcondition with
    | array hitems =>
      -- the branches of a combination, each a filter of its own
      have hfilters := forall₂_matchesDocument_widened hdoc hitems fun inner hinner path asked hasks =>
        hignores path asked (.combined List.mem_cons_self hkey hinner hasks)
      rw [matchesField_combination hkey, matchesField_combination hkey, combine, combine,
        all_isDocument_widened hitems, allM_congr hfilters, anyM_congr hfilters]
    | bare hbare =>
      have hne : ∀ items, condition ≠ .array items := by
        rintro items rfl
        cases hbare
      rw [matchesField_combination_of_ne hkey doc hne, matchesField_combination_of_ne hkey doc' hne]
    | _ =>
      rw [matchesField_combination_of_ne hkey doc (by simp), matchesField_combination_of_ne hkey doc' (by simp)]

theorem forall₂_matchesField_widened (hdoc : WidenedFields doc doc') {filter filter' : Document}
    (hfilter : WidenedFields filter filter') (hignores : IgnoresWidths filter) :
    List.Forall₂ (fun field field' => matchesField doc field.1 field.2 = matchesField doc' field'.1 field'.2)
      filter filter' := by
  cases hfilter with
  | nil => exact .nil
  | cons first others =>
    have hfirst := hignores.of_subset (List.forall_mem_singleton.2 List.mem_cons_self)
    have hothers := hignores.of_subset fun _ => List.mem_cons_of_mem _
    exact .cons (matchesField_widened hdoc first hfirst) (forall₂_matchesField_widened hdoc others hothers)

theorem forall₂_matchesDocument_widened (hdoc : WidenedFields doc doc') {items items' : List Value}
    (hitems : WidenedItems items items') (hignores : ∀ inner, .document inner ∈ items → IgnoresWidths inner) :
    List.Forall₂ (fun item item' => matchesDocument doc item = matchesDocument doc' item') items items' := by
  cases hitems with
  | nil => exact .nil
  | @cons item item' rest rest' first others =>
    have hfirst : matchesDocument doc item = matchesDocument doc' item' := by
      cases first with
      | document hfields =>
        rw [matchesDocument, matchesDocument, matchesFields_eq_allM, matchesFields_eq_allM]
        exact allM_congr (forall₂_matchesField_widened hdoc hfields (hignores _ List.mem_cons_self))
      | bare hbare =>
        cases item with
        | document => cases hbare
        | _ => simp [matchesDocument]
      | _ => simp [matchesDocument]
    exact .cons hfirst (forall₂_matchesDocument_widened hdoc others fun inner hinner =>
      hignores inner (List.mem_cons_of_mem _ hinner))

end

/--
A filter gives the same result, or the same failure, whatever numbers of 32 bits are stored with 64 bits in it
and in the document, unless it compares an array or a document that has such a number in it, or orders values
against an array or a document.
-/
theorem matchesFilter_widened {filter filter' : Document} (hdoc : WidenedFields doc doc')
    (hfilter : WidenedFields filter filter') (hignores : IgnoresWidths filter) :
    doc.matchesFilter filter = doc'.matchesFilter filter' := by
  rw [Document.matchesFilter, Document.matchesFilter, matchesFields_eq_allM, matchesFields_eq_allM]
  exact allM_congr (forall₂_matchesField_widened hdoc hfilter hignores)

/-- Stored with 64 bits, a number passes the operators that it passed before, behind its field and in an array. -/
theorem matchesFilter_widened_bare :
    let five : Value := .int32 ⟨5, by decide, by decide⟩
    let wideFive : Value := .int64 ⟨5, by decide, by decide⟩
    let doc : Document := [("n", .array [five, .string "x"])]
    let doc' : Document := [("n", .array [wideFive, .string "x"])]
    let filter : Document := [("n", .document [("$gte", five), ("$in", .array [five, .null])])]
    let filter' : Document := [("n", .document [("$gte", five), ("$in", .array [wideFive, .null])])]
    Value.WidenedFields doc doc' ∧ Value.WidenedFields filter filter' ∧ IgnoresWidths filter ∧
      doc.matchesFilter filter = doc'.matchesFilter filter' := by
  intro five wideFive doc doc' filter filter'
  have hfive : Widened five wideFive := .number rfl
  have hdoc : WidenedFields doc doc' := .cons (.array (.cons hfive (Value.widenedItems_refl _))) .nil
  have hfilter : WidenedFields filter filter' :=
    .cons (.document (.cons (Value.widened_refl five) (.cons (.array (.cons hfive (Value.widenedItems_refl _))) .nil))) .nil
  have hignores : IgnoresWidths filter := by
    have hoperators : isOperators (.document [("$gte", five), ("$in", .array [five, .null])]) = true := by
      simp [isOperators, String.startsWith_string_iff]
    have hbound : IgnoresWidth "$gte" five := ⟨by simp, by simp, by simp, fun _ => rfl⟩
    have hmember : IgnoresWidth "$in" (.array [five, .null]) :=
      ⟨by simp, fun _ _ hitems => by cases hitems; simp [Value.NarrowFreeInside, Value.parts, five], by simp, by simp⟩
    -- the filter asks one path, with a bound and a list of candidates
    intro path condition hasks operator operand htests
    cases hasks with
    | combined hmem => cases List.mem_singleton.1 hmem
    | here hmem =>
      cases List.mem_singleton.1 hmem
      cases htests with
      | literal hliteral => rw [hoperators] at hliteral; cases hliteral
      | operators _ hmem happlies =>
        rcases List.mem_cons.1 hmem with hmem | hmem
        · cases hmem
          obtain ⟨rfl, rfl⟩ := happlies.eq_of_ne (by decide)
          exact hbound
        · cases List.mem_singleton.1 hmem
          obtain ⟨rfl, rfl⟩ := happlies.eq_of_ne (by decide)
          exact hmember
  exact ⟨hdoc, hfilter, hignores, matchesFilter_widened hdoc hfilter hignores⟩

/-- An array of a number is equal to an array of the number with 32 bits, and not to the one with 64 bits. -/
theorem matchesFilter_ne_widened_nested :
    let one : Value := .int32 ⟨1, by decide, by decide⟩
    let doc : Document := [("a", .array [one])]
    let doc' : Document := [("a", .array [.int64 ⟨1, by decide, by decide⟩])]
    let filter : Document := [("a", .array [one])]
    Value.WidenedFields doc doc' ∧ doc.matchesFilter filter = .ok true ∧ doc'.matchesFilter filter = .ok false := by
  intro one doc doc' filter
  exact ⟨.cons (.array (.cons (.number rfl) .nil)) .nil, by cbv, by cbv⟩

end Filter

end DocBrowser
