import Mathlib
import DocBrowser.Proofs.Store.Lookup
import DocBrowser.Proofs.Store.Selected
/-!
# Pages of a result

A query filters, sorts, cuts a window out of what is left and projects it. So windows of one size that stand
side by side cut the whole result into pages: each document of the result is on one page, in its place, and
every page comes with the number of all documents that match.
-/

namespace DocBrowser.Store

section

variable {α β : Type}

/-- Windows of one size, side by side, cut out the front of a list. -/
theorem flatMap_window {size : ℕ} (hsize : 0 < size) (items : List α) (count : ℕ) :
    (List.range count).flatMap (fun page => window (page * size) size items) = items.take (count * size) := by
  induction count with
  | zero => simp
  | succ count ih =>
    rw [List.range_succ, List.flatMap_append, ih, List.flatMap_singleton, window, if_neg hsize.ne', Nat.succ_mul,
      List.take_add]

theorem forall₂_window {r : α → β → Prop} {as : List α} {bs : List β} (h : List.Forall₂ r as bs) (skip limit : ℕ) :
    List.Forall₂ r (window skip limit as) (window skip limit bs) := by
  unfold window
  split_ifs
  · exact List.forall₂_drop skip h
  · exact List.forall₂_take limit (List.forall₂_drop skip h)

end

/-- The documents that match a filter, in the order of the store. -/
def matching (store : Store) (filter : Document) : List Document :=
  store.documents.filter fun doc => holds (doc.matchesFilter filter)

theorem filterM_eq_ok {store : Store} {filter : Document} {found : List Document} :
    store.documents.filterM (·.matchesFilter filter) = .ok found ↔
      (∀ doc ∈ store.documents, ∃ answer, doc.matchesFilter filter = .ok answer) ∧ found = store.matching filter := by
  have hkept (h : ∀ doc ∈ store.documents, ∃ answer, doc.matchesFilter filter = .ok answer) :
      store.documents.filterM (·.matchesFilter filter) = .ok (store.matching filter) := by
    refine filterM_of_forall fun doc hdoc => ?_
    obtain ⟨answer, hanswer⟩ := h doc hdoc
    rw [hanswer, holds]
  constructor
  · intro h
    have hanswers := forall_of_filterM h
    exact ⟨hanswers, Except.ok.inj (h.symm.trans (hkept hanswers))⟩
  · rintro ⟨h, rfl⟩
    exact hkept h

/-- What is found are the matches, where every document can be compared with the filter. -/
theorem list_matching_eq_ok {store : Store} {query : Query.Options} {shown : List Document} {total : ℕ} :
    store.list query = .ok (shown, total) ↔
      (∀ doc ∈ store.documents, ∃ answer, doc.matchesFilter query.filter = .ok answer) ∧
      total = (store.matching query.filter).length ∧
      ∃ sorted, sortDocuments (store.matching query.filter) query.sort = .ok sorted ∧
        List.Forall₂ (fun doc left => projectDocument doc query.projection = .ok left)
          (window query.skip query.limit sorted) shown := by
  rw [list_eq_ok]
  constructor
  · rintro ⟨found, sorted, hfound, hsorted, htotal, hlefts⟩
    obtain ⟨hanswers, rfl⟩ := filterM_eq_ok.1 hfound
    exact ⟨hanswers, htotal, sorted, hsorted, hlefts⟩
  · rintro ⟨hanswers, htotal, sorted, hsorted, hlefts⟩
    exact ⟨_, sorted, filterM_eq_ok.2 ⟨hanswers, rfl⟩, hsorted, htotal, hlefts⟩

/-- A result is cut into pages of one size. -/
structure Paged (store : Store) (query : Query.Options) (size : ℕ) (docs : List Document) (total : ℕ)
    (sorted : List Document) (page : ℕ → List Document) : Prop where
  answered : ∀ doc ∈ store.documents, ∃ answer, doc.matchesFilter query.filter = .ok answer
  sorted_eq : sortDocuments (store.matching query.filter) query.sort = .ok sorted
  /-- Sorted, each match stands there once. -/
  sorted_perm : sorted.Perm (store.matching query.filter)
  total_eq : total = (store.matching query.filter).length
  /-- The whole result is projected from all matches. -/
  projected : List.Forall₂ (fun doc left => projectDocument doc query.projection = .ok left) sorted docs
  /-- Each page is the answer to its own window, with the total of all. -/
  answers : ∀ number, store.list { query with skip := number * size, limit := size } = .ok (page number, total)
  /-- Each page is projected from matches that follow one another. -/
  consecutive : ∀ number, List.Forall₂ (fun doc left => projectDocument doc query.projection = .ok left)
    ((sorted.drop (number * size)).take size) (page number)
  /-- As many pages as hold all matches are the whole result, one after the other. -/
  whole : ∀ count, total ≤ count * size → (List.range count).flatMap page = docs

/--
Where a query without a window has an answer, so has every page of it, and the pages cut that answer into
parts of one size.
-/
theorem exists_paged (store : Store) (query : Query.Options) {size : ℕ} (hsize : 1 ≤ size) {docs : List Document}
    {total : ℕ} (h : store.list { query with skip := 0, limit := 0 } = .ok (docs, total)) :
    ∃ sorted page, Paged store query size docs total sorted page := by
  obtain ⟨hanswers, htotal, sorted, hsorted, hdocs⟩ := list_matching_eq_ok.1 h
  have hprojected : List.Forall₂ (fun doc left => projectDocument doc query.projection = .ok left) sorted docs := hdocs
  have hlength : docs.length = total := by
    rw [← hprojected.length_eq, htotal]
    exact (sortDocuments_perm hsorted).length_eq
  -- each document is projected by itself, so a window of what is shown shows a window of what is sorted
  have hpage (number : ℕ) := forall₂_window hprojected (number * size) size
  refine ⟨sorted, fun number => window (number * size) size docs, ?_⟩
  exact {
    answered := hanswers
    sorted_eq := hsorted
    sorted_perm := sortDocuments_perm hsorted
    total_eq := htotal
    projected := hprojected
    answers := fun number => list_matching_eq_ok.2 ⟨hanswers, htotal, sorted, hsorted, hpage number⟩
    consecutive := fun number => by simpa [window, Nat.ne_of_gt hsize] using hpage number
    whole := fun count hcount => by
      rw [flatMap_window hsize, List.take_of_length_le (hlength.trans_le hcount)] }

/-- Three documents with flags, or nothing in the place of one. -/
def threeFlags : Store where
  documents := [[("flag", .bool false)], [("flag", .null)], [("flag", .bool true)]]
  ids := { time := 0, process := [0, 0, 0, 0, 0], counter := 0 }

/-- Asks for all documents, the highest flag first. -/
def highestFirst : Query.Options := { sort := [("flag", .int32 ⟨-1, by decide, by decide⟩)] }

/-- Three documents, the highest first, on pages of two. -/
theorem exists_paged_three_by_two :
    1 ≤ 2 ∧
    threeFlags.list highestFirst = .ok ([[("flag", .bool true)], [("flag", .bool false)], [("flag", .null)]], 3) ∧
    ∃ sorted page, Paged threeFlags highestFirst 2
      [[("flag", .bool true)], [("flag", .bool false)], [("flag", .null)]] 3 sorted page := by
  have hlist : threeFlags.list highestFirst =
      .ok ([[("flag", .bool true)], [("flag", .bool false)], [("flag", .null)]], 3) := by cbv
  exact ⟨by decide, hlist, exists_paged threeFlags highestFirst (by decide) hlist⟩

end DocBrowser.Store
