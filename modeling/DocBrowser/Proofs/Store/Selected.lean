import Mathlib
import DocBrowser.Proofs.Failure
import DocBrowser.Store.Memory
/-!
# The documents behind a result

A query filters the stored documents, sorts them, cuts a window out of them, and projects each one that is
left. So every document of the result has one stored document that it was projected from.
-/

namespace DocBrowser

/-! ## Sorting -/

namespace Sorting

section

variable {α : Type} (less : α → α → Bool)

theorem insert_perm (sorted : List α) (item : α) : (insert less sorted item).Perm (item :: sorted) := by
  rw [insert]
  exact List.perm_middle.trans (by rw [List.take_append_drop])

theorem firstRun_perm (items : List α) : ((firstRun less items).1 ++ (firstRun less items).2).Perm items := by
  rw [firstRun]
  dsimp only
  split_ifs
  · exact ((List.reverse_perm _).append_right _).trans (by rw [List.take_append_drop])
  · rw [List.take_append_drop]

theorem foldl_insert_perm (run rest : List α) : (rest.foldl (insert less) run).Perm (run ++ rest) := by
  induction rest generalizing run with
  | nil => simp
  | cons item rest ih =>
    rw [List.foldl_cons]
    exact (ih _).trans (((insert_perm less run item).append_right rest).trans List.perm_middle.symm)

/-- Sorting neither adds nor loses items. -/
theorem sort_perm (items : List α) : (sort less items).Perm items := by
  rw [sort]
  exact (foldl_insert_perm less _ _).trans (firstRun_perm less items)

theorem sortDown_perm (items : List α) : (sortDown less items).Perm items := by
  rw [sortDown]
  exact (List.reverse_perm _).trans ((sort_perm less _).trans (List.reverse_perm _))

end

/-- Documents are sorted with the keys that they are ordered by. -/
theorem map_snd_of_keyed {path : String} {docs : List Document} {keyed : List (SortKey × Document)}
    (h : List.Forall₂ (fun doc pair => (do return (← keyAt path doc, doc)) = Except.ok pair) docs keyed) :
    keyed.map (·.2) = docs := by
  induction h with
  | nil => rfl
  | cons hpair _ ih =>
    obtain ⟨key, -, hpair⟩ := bind_eq_ok.1 hpair
    cases hpair
    rw [List.map_cons, ih]

theorem byPath_perm {path : String} {direction : Value} {docs sorted : List Document}
    (h : byPath path direction docs = .ok sorted) : sorted.Perm docs := by
  obtain ⟨down, -, h⟩ := bind_eq_ok.1 h
  obtain ⟨keyed, hkeyed, h⟩ := bind_eq_ok.1 h
  have hdocs := map_snd_of_keyed (mapM_eq_ok.1 hkeyed)
  cases h
  refine List.Perm.trans (List.Perm.map _ ?_) (.of_eq hdocs)
  split_ifs
  · exact sortDown_perm _ _
  · exact sort_perm _ _

end Sorting

/-- A sort order neither adds nor loses documents. -/
theorem sortDocuments_perm {docs sorted : List Document} {order : Document} (h : sortDocuments docs order = .ok sorted) :
    sorted.Perm docs := by
  induction order generalizing sorted with
  | nil =>
    cases h
    exact .refl _
  | cons first rest ih =>
    obtain ⟨path, direction⟩ := first
    rw [sortDocuments] at h
    obtain ⟨behind, hbehind, h⟩ := bind_eq_ok.1 h
    exact (Sorting.byPath_perm h).trans (ih hbehind)

/-! ## Results -/

namespace Store

theorem window_sublist {α : Type} (skip limit : ℕ) (items : List α) : (window skip limit items).Sublist items := by
  unfold window
  split_ifs
  · exact List.drop_sublist _ _
  · exact (List.take_sublist _ _).trans (List.drop_sublist _ _)

/-- The stored documents that a query asks for, before they are projected. -/
def selected (store : Store) (query : Query.Options) : Except Failure (List Document) := do
  let found ← store.documents.filterM (·.matchesFilter query.filter)
  let sorted ← sortDocuments found query.sort
  return window query.skip query.limit sorted

theorem mem_of_selected {store : Store} {query : Query.Options} {docs : List Document}
    (h : store.selected query = .ok docs) : ∀ doc ∈ docs, doc ∈ store.documents := by
  obtain ⟨found, hfound, h⟩ := bind_eq_ok.1 h
  obtain ⟨sorted, hsorted, h⟩ := bind_eq_ok.1 h
  cases h
  intro doc hdoc
  have hmem := (window_sublist _ _ _).mem hdoc
  exact (filterM_sublist hfound).mem ((sortDocuments_perm hsorted).mem_iff.1 hmem)

/-- A result is a window into the sorted documents that are found, projected one by one. -/
theorem list_eq_ok {store : Store} {query : Query.Options} {shown : List Document} {total : ℕ} :
    store.list query = .ok (shown, total) ↔
      ∃ found sorted, store.documents.filterM (·.matchesFilter query.filter) = .ok found ∧
        sortDocuments found query.sort = .ok sorted ∧ total = found.length ∧
        List.Forall₂ (fun doc left => projectDocument doc query.projection = .ok left)
          (window query.skip query.limit sorted) shown := by
  rw [list]
  constructor
  · intro h
    obtain ⟨found, hfound, h⟩ := bind_eq_ok.1 h
    obtain ⟨sorted, hsorted, h⟩ := bind_eq_ok.1 h
    obtain ⟨lefts, hlefts, h⟩ := bind_eq_ok.1 h
    cases h
    exact ⟨found, sorted, hfound, hsorted, rfl, mapM_eq_ok.1 hlefts⟩
  · rintro ⟨found, sorted, hfound, hsorted, rfl, hlefts⟩
    exact bind_eq_ok.2 ⟨found, hfound, bind_eq_ok.2 ⟨sorted, hsorted, bind_eq_ok.2 ⟨shown, mapM_eq_ok.2 hlefts, rfl⟩⟩⟩

/-- A result is what is selected, projected document by document. -/
theorem selected_of_list {store : Store} {query : Query.Options} {shown : List Document} {total : ℕ}
    (h : store.list query = .ok (shown, total)) :
    ∃ docs, store.selected query = .ok docs ∧
      List.Forall₂ (fun doc left => projectDocument doc query.projection = .ok left) docs shown := by
  obtain ⟨found, sorted, hfound, hsorted, -, hlefts⟩ := list_eq_ok.1 h
  exact ⟨_, bind_eq_ok.2 ⟨found, hfound, bind_eq_ok.2 ⟨sorted, hsorted, rfl⟩⟩, hlefts⟩

end Store

end DocBrowser
