import Mathlib
import DocBrowser.Proofs.Filter.Trials
import DocBrowser.Proofs.Value.Equality
import DocBrowser.Query.Compile
/-!
# The order of conditions

The conditions of a filter, the operators of a condition, the filters of a combination and the members of a
list may stand in any order. What is tried first decides which failure is seen, but two orders that give an
answer give the same one. At each level the entries are first paired with what they become, one by one, and
then put into another order.
-/

namespace DocBrowser

/-- Where keys are distinct, their order does not matter to what stands with them. -/
theorem field?_eq_of_perm {α : Type} {fields fields' : List (String × α)} (hkeys : (keysOf fields).Nodup)
    (order : fields.Perm fields') (key : String) : field? fields key = field? fields' key := by
  have hkeys' : (keysOf fields').Nodup := (order.map _).nodup_iff.1 hkeys
  ext value
  rw [field?_eq_some_iff hkeys, field?_eq_some_iff hkeys', order.mem_iff]

namespace Filter

/-! ## Values that differ in the order of their keys -/

/-- Values that are the same, or documents that are the same but for the order of their keys. -/
inductive Permuted : Value → Value → Prop where
  | same (value : Value) : Permuted value value
  | document {fields fields' : Document} (hkeys : (keysOf fields).Nodup) (order : fields.Perm fields') :
    Permuted (.document fields) (.document fields')

theorem sameFields_congr {bs bs' : Document} (h : ∀ key, field? bs key = field? bs' key) (as : Document) :
    Value.sameFields as bs = Value.sameFields as bs' := by
  induction as with
  | nil => rw [Value.sameFields, Value.sameFields]
  | cons field rest ih => rw [Value.sameFields, Value.sameFields, h, ih]

theorem Permuted.equal_eq {expected expected' : Value} (h : Permuted expected expected') (value : Value) :
    value.equal expected = value.equal expected' := by
  cases h with
  | same => rfl
  | @document bs bs' hkeys order =>
    have hsame : value.same (.document bs) = value.same (.document bs') := by
      cases value with
      | document as =>
        rw [Value.same, Value.same, order.length_eq, sameFields_congr (field?_eq_of_perm hkeys order)]
      | _ => simp [Value.same]
    rw [Value.equal, Value.equal, hsame]
    rfl

theorem Permuted.equals_eq {expected expected' : Value} (h : Permuted expected expected') (value : Option Value) :
    equals value expected = equals value expected' := by
  cases h with
  | same => rfl
  | document hkeys order =>
    show (candidates value).anyM _ = (candidates value).anyM _
    exact anyM_congr (List.forall₂_same.2 fun candidate _ => (Permuted.document hkeys order).equal_eq candidate)

/-! ## Operators in another order -/

mutual

/-- Operands of one operator that differ in the order of what they hold. -/
inductive OperandReordered : String → Value → Value → Prop where
  | same (operator : String) (operand : Value) : OperandReordered operator operand operand
  | literal {operator : String} {operand operand' : Value} (hoperator : operator = "$eq" ∨ operator = "$ne")
    (hpermuted : Permuted operand operand') : OperandReordered operator operand operand'
  | members {operator : String} {items between items' : List Value} (hoperator : operator = "$in" ∨ operator = "$nin")
    (hpaired : List.Forall₂ Permuted items between) (order : between.Perm items') :
    OperandReordered operator (.array items) (.array items')
  | negated {operator : String} {fields between fields' : Document} (hoperator : operator = "$not")
    (hkeys : (keysOf fields).Nodup) (hpaired : OperatorsPaired fields between) (order : between.Perm fields') :
    OperandReordered operator (.document fields) (.document fields')

/-- The same operators, one by one, with operands that differ in the order of what they hold. -/
inductive OperatorsPaired : Document → Document → Prop where
  | nil : OperatorsPaired [] []
  | cons {operator : String} {operand operand' : Value} {rest rest' : Document}
    (hoperand : OperandReordered operator operand operand') (hrest : OperatorsPaired rest rest') :
    OperatorsPaired ((operator, operand) :: rest) ((operator, operand') :: rest')

end

theorem OperatorsPaired.keysOf_eq {fields fields' : Document} (h : OperatorsPaired fields fields') :
    keysOf fields = keysOf fields' := by
  induction fields generalizing fields' with
  | nil =>
    cases h
    rfl
  | cons field rest ih =>
    cases h with
    | cons _ hrest => exact congrArg (List.cons _) (ih hrest)

/-- Options are the same on both sides. -/
theorem OperatorsPaired.options_eq {fields fields' : Document} (h : OperatorsPaired fields fields') :
    field? fields "$options" = field? fields' "$options" := by
  induction fields generalizing fields' with
  | nil =>
    cases h
    rfl
  | cons field rest ih =>
    cases h with
    | @cons operator operand operand' _ _ hoperand hrest =>
      rw [field?, field?, ih hrest]
      by_cases hoptions : operator = "$options"
      · -- no other order is known for the operand of `$options`
        subst hoptions
        cases hoperand with
        | same => rfl
        | literal hoperator => exact absurd hoperator (by decide)
        | members hoperator => exact absurd hoperator (by decide)
        | negated hoperator => exact absurd hoperator (by decide)
      · rw [if_neg hoptions, if_neg hoptions]

variable (value : Option Value)

/-- Operators in any order, given that they do not contradict one another one by one. -/
theorem OperatorsPaired.compatible_applyOperators {fields between fields' : Document} (hkeys : (keysOf fields).Nodup)
    (hpaired : OperatorsPaired fields between) (order : between.Perm fields')
    (h : ∀ options, List.Forall₂ (fun field field' => Compatible (applyNamed value options field.1 field.2)
      (applyNamed value options field'.1 field'.2)) fields between) :
    Compatible (applyOperators value (field? fields "$options") fields)
      (applyOperators value (field? fields' "$options") fields') := by
  have hoptions : field? fields "$options" = field? fields' "$options" :=
    hpaired.options_eq.trans (field?_eq_of_perm (hpaired.keysOf_eq ▸ hkeys) order "$options")
  rw [← hoptions, applyOperators_eq_allM, applyOperators_eq_allM]
  exact compatible_allM (h _) order

mutual

/-- By induction on the operators: an operand is read as operators only under `$not`. -/
theorem OperandReordered.compatible (options : Option Value) {operator : String} {operand operand' : Value}
    (h : OperandReordered operator operand operand') :
    Compatible (applyNamed value options operator operand) (applyNamed value options operator operand') := by
  cases h with
  | same => exact .refl _
  | literal hoperator hpermuted =>
    rcases hoperator with rfl | rfl
    all_goals
      rw [applyNamed_of_ne (by decide), applyNamed_of_ne (by decide), applyOperator, applyOperator, hpermuted.equals_eq]
      exact .refl _
  -- candidates are asked in another order: the answers agree where both are given
  | members hoperator hpaired order =>
    have hequals (item item' : Value) (hpermuted : Permuted item item') :
        Compatible (equals value item) (equals value item') := by
      rw [hpermuted.equals_eq]
      exact .refl _
    have hmembers := compatible_anyM (hpaired.imp hequals) order
    rcases hoperator with rfl | rfl
    · rw [applyNamed_of_ne (by decide), applyNamed_of_ne (by decide)]
      exact hmembers
    · rw [applyNamed_of_ne (by decide), applyNamed_of_ne (by decide)]
      exact hmembers.not
  | negated hoperator hkeys hpaired order =>
    rw [hoperator, applyNamed_not_document, applyNamed_not_document]
    exact (hpaired.compatible_applyOperators value hkeys order fun options => hpaired.compatible options).not

theorem OperatorsPaired.compatible (options : Option Value) {fields fields' : Document} (h : OperatorsPaired fields fields') :
    List.Forall₂ (fun field field' => Compatible (applyNamed value options field.1 field.2)
      (applyNamed value options field'.1 field'.2)) fields fields' := by
  cases h with
  | nil => exact .nil
  | cons hoperand hrest => exact .cons (hoperand.compatible options) (hrest.compatible options)

end

/-! ## Filters in another order -/

mutual

/-- Conditions at one key that differ in the order of what they hold. -/
inductive ConditionReordered : String → Value → Value → Prop where
  | same (key : String) (condition : Value) : ConditionReordered key condition condition
  | literal {key : String} {condition condition' : Value} (hkey : isCombination key = false)
    (hcondition : isOperators condition = false) (hpermuted : Permuted condition condition') :
    ConditionReordered key condition condition'
  | operators {key : String} {fields between fields' : Document} (hkey : isCombination key = false)
    (hcondition : isOperators (.document fields) = true) (hkeys : (keysOf fields).Nodup)
    (hpaired : OperatorsPaired fields between) (order : between.Perm fields') :
    ConditionReordered key (.document fields) (.document fields')
  | combined {key : String} {filters between filters' : List Value} (hkey : isCombination key = true)
    (hpaired : FiltersPaired filters between) (order : between.Perm filters') :
    ConditionReordered key (.array filters) (.array filters')

/-- The same keys, one by one, with conditions that differ in the order of what they hold. -/
inductive ConditionsPaired : Document → Document → Prop where
  | nil : ConditionsPaired [] []
  | cons {key : String} {condition condition' : Value} {rest rest' : Document}
    (hcondition : ConditionReordered key condition condition') (hrest : ConditionsPaired rest rest') :
    ConditionsPaired ((key, condition) :: rest) ((key, condition') :: rest')

/-- Filters, one by one, that differ in the order of what they hold. -/
inductive FiltersPaired : List Value → List Value → Prop where
  | nil : FiltersPaired [] []
  | cons {filter between filter' : Document} {rest rest' : List Value} (hpaired : ConditionsPaired filter between)
    (order : between.Perm filter') (hrest : FiltersPaired rest rest') :
    FiltersPaired (.document filter :: rest) (.document filter' :: rest')

end

/--
Filters that differ in the order of their conditions, of the filters in their combinations, of their
operators, at whatever depth, of the members of their lists and of the keys of the documents that values are
compared with for equality.
-/
inductive Reordered (filter filter' : Document) : Prop where
  | intro {between : Document} (hpaired : ConditionsPaired filter between) (order : between.Perm filter')

theorem FiltersPaired.all_isDocument {filters filters' : List Value} (h : FiltersPaired filters filters') :
    filters.all isDocument = true ∧ filters'.all isDocument = true := by
  induction filters generalizing filters' with
  | nil =>
    cases h
    exact ⟨rfl, rfl⟩
  | cons filter rest ih =>
    cases h with
    | cons _ _ hrest => simpa [isDocument] using ih hrest

theorem compatible_combine (doc : Document) (key : String) {filters between filters' : List Value}
    (h : List.Forall₂ (fun filter filter' => Compatible (matchesDocument doc filter) (matchesDocument doc filter'))
      filters between) (order : between.Perm filters') :
    Compatible (combine doc key filters) (combine doc key filters') := by
  rw [combine, combine]
  split_ifs
  · exact compatible_allM h order
  · exact compatible_anyM h order
  · exact (compatible_anyM h order).not

/-- What is found at a path does not depend on the condition. -/
theorem compatible_matchesValue (doc : Document) (key : String) {condition condition' : Value}
    (h : ∀ found, Compatible (meets found condition) (meets found condition')) :
    Compatible (matchesValue doc key condition) (matchesValue doc key condition') := by
  rw [matchesValue, matchesValue]
  split_ifs
  · exact .refl _
  · cases doc.resolve key with
    | error e => exact .refl _
    | ok found => exact h found

theorem Permuted.meets_eq {condition condition' : Value} (h : Permuted condition condition')
    (hcondition : isOperators condition = false) (found : Option Value) :
    meets found condition = meets found condition' := by
  have hcondition' : isOperators condition' = false := by
    cases h with
    | same => exact hcondition
    | document hkeys order => exact (isOperators_eq_of_perm (order.map _)).symm.trans hcondition
  rw [meets_of_not_isOperators hcondition, meets_of_not_isOperators hcondition', h.equals_eq]

theorem OperatorsPaired.compatible_meets {fields between fields' : Document} (hoperators : isOperators (.document fields) = true)
    (hkeys : (keysOf fields).Nodup) (hpaired : OperatorsPaired fields between) (order : between.Perm fields')
    (found : Option Value) : Compatible (meets found (.document fields)) (meets found (.document fields')) := by
  have hperm : (keysOf fields).Perm (keysOf fields') := hpaired.keysOf_eq ▸ order.map _
  rw [meets_of_isOperators hoperators, meets_of_isOperators ((isOperators_eq_of_perm hperm).symm.trans hoperators)]
  exact hpaired.compatible_applyOperators found hkeys order fun options => hpaired.compatible found options

mutual

/-- By induction on the filter: a condition holds further filters only in a combination. -/
theorem ConditionReordered.compatible (doc : Document) {key : String} {condition condition' : Value}
    (h : ConditionReordered key condition condition') :
    Compatible (matchesField doc key condition) (matchesField doc key condition') := by
  cases h with
  | same => exact .refl _
  | literal hkey hcondition hpermuted =>
    rw [matchesField_of_not_combination hkey, matchesField_of_not_combination hkey]
    apply compatible_matchesValue
    intro found
    rw [hpermuted.meets_eq hcondition]
    exact .refl _
  | operators hkey hoperators hkeys hpaired order =>
    rw [matchesField_of_not_combination hkey, matchesField_of_not_combination hkey]
    exact compatible_matchesValue doc key (hpaired.compatible_meets hoperators hkeys order)
  | combined hkey hpaired order =>
    -- whether every branch is a document does not depend on their order, so both sides are combined
    have hdocuments := hpaired.all_isDocument
    rw [matchesField_combination hkey, matchesField_combination hkey, if_pos hdocuments.1,
      if_pos (order.all_eq ▸ hdocuments.2)]
    exact compatible_combine doc key (hpaired.compatible doc) order

theorem ConditionsPaired.compatible (doc : Document) {fields fields' : Document} (h : ConditionsPaired fields fields') :
    List.Forall₂ (fun field field' => Compatible (matchesField doc field.1 field.2) (matchesField doc field'.1 field'.2))
      fields fields' := by
  cases h with
  | nil => exact .nil
  | cons hcondition hrest => exact .cons (hcondition.compatible doc) (hrest.compatible doc)

theorem FiltersPaired.compatible (doc : Document) {filters filters' : List Value} (h : FiltersPaired filters filters') :
    List.Forall₂ (fun filter filter' => Compatible (matchesDocument doc filter) (matchesDocument doc filter'))
      filters filters' := by
  cases h with
  | nil => exact .nil
  | cons hpaired order hrest =>
    refine .cons ?_ (hrest.compatible doc)
    rw [matchesDocument, matchesDocument, matchesFields_eq_allM, matchesFields_eq_allM]
    exact compatible_allM (hpaired.compatible doc) order

end

/-- Filters that differ in the order of their conditions give the same answer, where both give one. -/
theorem matchesFilter_reordered {filter filter' : Document} (h : Reordered filter filter') {doc : Document}
    {answer answer' : Bool} (hanswer : doc.matchesFilter filter = .ok answer)
    (hanswer' : doc.matchesFilter filter' = .ok answer') : answer = answer' := by
  obtain ⟨hpaired, order⟩ := h
  rw [Document.matchesFilter, matchesFields_eq_allM] at hanswer hanswer'
  exact compatible_allM (hpaired.compatible doc) order answer answer' hanswer hanswer'

/-- Two conditions, one of them a combination, that are turned around at every level. -/
theorem matchesFilter_reordered_everywhere :
    let doc : Document := [("a", .string "Xy"), ("n", .int32 ⟨3, by decide, by decide⟩)]
    let one : Value := .int32 ⟨1, by decide, by decide⟩
    let five : Value := .int32 ⟨5, by decide, by decide⟩
    let filter : Document := [
      ("$or", .array [
        .document [("a", .document [("$regex", .string "^x"), ("$options", .string "i")])],
        .document [("n", .document [("$in", .array [one, five])])]]),
      ("n", .document [("$not", .document [("$eq", five), ("$exists", .bool true)])])]
    let filter' : Document := [
      ("n", .document [("$not", .document [("$exists", .bool true), ("$eq", five)])]),
      ("$or", .array [
        .document [("n", .document [("$in", .array [five, one])])],
        .document [("a", .document [("$options", .string "i"), ("$regex", .string "^x")])]])]
    Reordered filter filter' ∧ ∃ answer answer', doc.matchesFilter filter = .ok answer ∧
      doc.matchesFilter filter' = .ok answer' ∧ answer = answer' := by
  intro doc one five filter filter'
  have hoperators {operator : String} (h : ['$'] <+: operator.toList) (operand : Value) (rest : Document)
      (hrest : rest.all (·.1.startsWith "$") = true) : isOperators (.document ((operator, operand) :: rest)) = true := by
    simp [isOperators, hrest, String.startsWith_string_iff, h]
  -- the pattern and its options, the candidates, and the operators that are negated, each swapped
  have hpattern : ConditionReordered "a" (.document [("$regex", .string "^x"), ("$options", .string "i")])
      (.document [("$options", .string "i"), ("$regex", .string "^x")]) :=
    .operators (by decide) (hoperators (by decide) _ _ (by simp [String.startsWith_string_iff])) (by decide)
      (.cons (.same _ _) (.cons (.same _ _) .nil)) (.swap _ _ _)
  have hmembers : ConditionReordered "n" (.document [("$in", .array [one, five])]) (.document [("$in", .array [five, one])]) :=
    .operators (by decide) (hoperators (by decide) _ _ rfl) (by decide)
      (.cons (.members (.inl rfl) (.cons (.same _) (.cons (.same _) .nil)) (.swap _ _ _)) .nil) (.refl _)
  have hnegated : ConditionReordered "n" (.document [("$not", .document [("$eq", five), ("$exists", .bool true)])])
      (.document [("$not", .document [("$exists", .bool true), ("$eq", five)])]) :=
    .operators (by decide) (hoperators (by decide) _ _ rfl) (by decide)
      (.cons (.negated rfl (by decide) (.cons (.same _ _) (.cons (.same _ _) .nil)) (.swap _ _ _)) .nil) (.refl _)
  have h : Reordered filter filter' :=
    ⟨.cons (.combined (by decide) (.cons (.cons hpattern .nil) (.refl _) (.cons (.cons hmembers .nil) (.refl _) .nil))
      (.swap _ _ _)) (.cons hnegated .nil), .swap _ _ _⟩
  have hanswer : doc.matchesFilter filter = .ok true := by cbv
  have hanswer' : doc.matchesFilter filter' = .ok true := by cbv
  exact ⟨h, true, true, hanswer, hanswer', matchesFilter_reordered h hanswer hanswer'⟩

end Filter

end DocBrowser
