import Mathlib
import DocBrowser.History
import DocBrowser.Proofs.Text.CodePoint
import DocBrowser.Proofs.Text.Words
/-!
# Saved queries as a bounded list without repetitions

Saved queries hold no line ends, so the file of saved queries reads back as it was written. Dropping the
oldest entries whenever there are too many leaves the same as dropping them once at the end, also where an
entry that was dropped is saved again. A text that cannot be encoded empties the file instead.
-/

namespace DocBrowser.History

/-! ## The file -/

/-- No line end stands in a line. -/
theorem isLineEnd_of_mem_splitLines {cs line : List Char} (h : line ∈ Text.splitLines cs) :
    ∀ c ∈ line, Text.isLineEnd c = false := by
  fun_induction Text.splitLines cs generalizing line with
  | case1 => cases h
  | case2 rest ih =>
    rcases List.mem_cons.1 h with rfl | h
    · simp
    · exact ih h
  | case3 c rest _ hend ih =>
    rcases List.mem_cons.1 h with rfl | h
    · simp
    · exact ih h
  | case4 c rest _ hend ih =>
    have hend : Text.isLineEnd c = false := Bool.eq_false_of_not_eq_true hend
    -- a character of a line goes to the front of the next line found, or opens the last one
    cases hlines : Text.splitLines rest with
    | nil =>
      rw [hlines, Text.extendFirstLine, List.mem_singleton] at h
      simpa [h] using hend
    | cons first lines =>
      rw [hlines] at ih
      rw [hlines, Text.extendFirstLine, List.mem_cons] at h
      rcases h with rfl | h
      · exact List.forall_mem_cons.2 ⟨hend, ih List.mem_cons_self⟩
      · exact ih (List.mem_cons_of_mem _ h)

/-- A line of the file: it ends nowhere and is not blank. -/
structure IsEntry (line : List Char) : Prop where
  lineEnd : ∀ c ∈ line, Text.isLineEnd c = false
  visible : Text.trim line ≠ []

theorem isEntry_of_mem_entriesOf {text line : List Char} (h : line ∈ entriesOf text) : IsEntry line := by
  obtain ⟨hline, hvisible⟩ := List.mem_filter.1 h
  exact ⟨isLineEnd_of_mem_splitLines hline, by simpa using hvisible⟩

theorem isEntry_of_mem_entries {history : History} {line : List Char} (h : line ∈ history.entries) : IsEntry line := by
  unfold entries at h
  split at h
  · exact isEntry_of_mem_entriesOf h
  · cases h

/-- Collapsed text is an entry, if there is any. -/
theorem isEntry_collapse {text : List Char} (h : Text.collapse text ≠ []) : IsEntry (Text.collapse text) := by
  refine ⟨fun c hc => ?_, ?_⟩
  · by_contra hend
    have hend : Text.isLineEnd c = true := Bool.eq_true_of_not_eq_false hend
    have hspace := Text.eq_space_of_mem_collapse hc (Text.isBlank_of_isLineEnd hend)
    subst hspace
    exact absurd hend (by decide)
  · obtain hnil | ⟨c, rest, hc, hcollapse⟩ := Text.collapse_cases text
    · exact absurd hnil h
    · rw [hcollapse]
      exact List.ne_nil_of_mem (Text.mem_trim List.mem_cons_self hc)

/-- Entries that are written are read back. -/
theorem entriesOf_fileOf {lines : List (List Char)} (h : ∀ line ∈ lines, IsEntry line) :
    entriesOf (fileOf lines) = lines := by
  have hreturn : '\r' ∉ fileOf lines := by
    intro hmem
    obtain ⟨_, hclosed, hmem⟩ := List.mem_flatten.1 hmem
    obtain ⟨line, hline, rfl⟩ := List.mem_map.1 hclosed
    rcases List.mem_append.1 hmem with hmem | hmem
    · exact absurd ((h line hline).lineEnd _ hmem) (by decide)
    · exact absurd hmem (by decide)
  have hclosed : ∀ line ∈ lines, ∀ c ∈ line, Text.isLineEnd c = false := fun line hline => (h line hline).lineEnd
  have hsplit : Text.splitLines (fileOf lines) = lines := Text.splitLines_unlines hclosed
  rw [entriesOf, Text.universalNewlines_of_not_mem hreturn, hsplit, List.filter_eq_self]
  exact fun line hline => decide_eq_true (h line hline).visible

theorem newest_sublist {α : Type} (limit : ℤ) (lines : List α) : (newest limit lines).Sublist lines := by
  unfold newest
  split_ifs <;> exact List.drop_sublist _ _

/-- What saving answers is what the file holds behind it. -/
theorem entries_save (history : History) (text : List Char) : (history.save text).2.entries = (history.save text).1 := by
  unfold save
  split
  · rfl
  · rename_i entry hentry
    refine entriesOf_fileOf fun line hline => ?_
    rcases List.mem_append.1 ((newest_sublist _ _).mem hline) with hline | hline
    · exact isEntry_of_mem_entries (List.mem_of_mem_filter hline)
    · rw [List.mem_singleton.1 hline]
      exact isEntry_collapse hentry

theorem save_of_collapse_eq_nil (history : History) {text : List Char} (h : Text.collapse text = []) :
    history.save text = (history.entries, history) := by
  unfold save
  rw [h]

theorem save_of_collapse_ne_nil (history : History) {text : List Char} (h : Text.collapse text ≠ []) :
    (history.save text).1 = record history.limit history.entries (Text.collapse text) := by
  unfold save
  split
  · exact absurd ‹_› h
  · rfl

/-! ## Dropping the oldest -/

theorem newest_of_pos {α : Type} {limit : ℤ} (h : 0 < limit) (lines : List α) :
    newest limit lines = lines.rtake limit.toNat :=
  if_pos h

section

variable {α : Type} [DecidableEq α]

/-- An element that comes once more leaves its earlier place. -/
theorem dedup_concat (as : List α) (a : α) : (as ++ [a]).dedup = as.dedup.filter (· ≠ a) ++ [a] := by
  induction as with
  | nil => simp
  | cons b as ih =>
    rw [List.cons_append]
    by_cases hmem : b ∈ as
    · rw [List.dedup_cons_of_mem hmem, List.dedup_cons_of_mem (by simp [hmem]), ih]
    · rw [List.dedup_cons_of_notMem hmem]
      by_cases hb : b = a
      · rw [List.dedup_cons_of_mem (by simp [hb]), ih, List.filter_cons_of_neg (by simp [hb])]
      · rw [List.dedup_cons_of_notMem (by simp [hmem, hb]), ih, List.filter_cons_of_pos (by simpa using hb),
          List.cons_append]

omit [DecidableEq α] in
/-- Only the last elements count for the last ones of a longer list, if there are enough of them. -/
theorem rtake_append_of_le {n : ℕ} {front back : List α} (h : n ≤ back.length) :
    (front ++ back).rtake n = back.rtake n := by
  rw [List.rtake, List.rtake, List.length_append, Nat.add_sub_assoc h, List.drop_append, Nat.add_sub_cancel_left,
    List.drop_eq_nil_of_le (Nat.le_add_right _ _), List.nil_append]

/-- Without repetitions at most one element is equal to another one. -/
theorem length_le_length_filter {as : List α} (h : as.Nodup) (a : α) : as.length ≤ (as.filter (· ≠ a)).length + 1 := by
  have hcount : as.count a ≤ 1 := List.nodup_iff_count_le_one.1 h a
  have hsum : as.length = (as.filter (· ≠ a)).length + (as.filter fun b => !decide (b ≠ a)).length :=
    List.length_eq_length_filter_add _
  have hrest : (as.filter fun b => !decide (b ≠ a)).length = as.count a := by
    rw [List.count, List.countP_eq_length_filter]
    congr 2
    funext b
    by_cases hb : b = a <;> simp [hb]
  omega

/-- An element that is put behind the last ones has the same last ones with it as behind all of them. -/
theorem rtake_filter_rtake {n : ℕ} {as : List α} (hn : 1 ≤ n) (h : as.Nodup) (a : α) :
    ((as.rtake n).filter (· ≠ a) ++ [a]).rtake n = (as.filter (· ≠ a) ++ [a]).rtake n := by
  by_cases hlength : as.length ≤ n
  · have hall : as.rtake n = as := by rw [List.rtake, Nat.sub_eq_zero_of_le hlength, List.drop_zero]
    rw [hall]
  · -- what was dropped is too far in front, whether or not the element is among the others
    have hback : (as.rtake n).length = n := by
      rw [List.rtake, List.length_drop]
      omega
    have hkept := length_le_length_filter (List.Nodup.sublist (List.drop_sublist _ as) h : (as.rtake n).Nodup) a
    have hsplit : as.filter (· ≠ a) = (as.rdrop n).filter (· ≠ a) ++ (as.rtake n).filter (· ≠ a) := by
      rw [← List.filter_append, List.rdrop, List.rtake, List.take_append_drop]
    have henough : n ≤ ((as.rtake n).filter (· ≠ a) ++ [a]).length := by
      rw [List.length_append, List.length_singleton]
      omega
    rw [hsplit, List.append_assoc, rtake_append_of_le henough]

end

/-! ## Texts of any code points -/

theorem record_map {α β : Type} [DecidableEq α] [DecidableEq β] {f : α → β} (hf : Function.Injective f) (limit : ℤ)
    (entries : List α) (entry : α) :
    record limit (entries.map f) (f entry) = (record limit entries entry).map f := by
  have hfilter : (entries.map f).filter (· ≠ f entry) = (entries.filter (· ≠ entry)).map f := by
    rw [List.filter_map]
    congr 1
    exact List.filter_congr fun other _ => by simp [hf.eq_iff]
  simp only [record, newest, hfilter, ← List.map_singleton, ← List.map_append, List.length_map, ← List.map_drop]
  split_ifs <;> rfl

/-- What is saved last is among the newest entries. -/
theorem mem_record {α : Type} [DecidableEq α] {limit : ℤ} (hlimit : 1 ≤ limit) (entries : List α) (entry : α) :
    entry ∈ record limit entries entry := by
  obtain ⟨n, hn⟩ : ∃ n, limit.toNat = n + 1 := ⟨limit.toNat - 1, by omega⟩
  rw [record, newest_of_pos (by omega), hn, List.rtake_concat_succ]
  exact List.mem_append_right _ List.mem_cons_self

theorem rawFileOf_ofChars (entries : List (List Char)) :
    rawFileOf (entries.map RawText.ofChars) = RawText.ofChars (fileOf entries) := by
  simp [rawFileOf, fileOf, RawText.ofChars, List.map_flatten, Function.comp_def]

/-- Saving a text of characters is saving its characters. -/
theorem saveRaw_ofChars (history : History) (cs : List Char) :
    history.saveRaw (RawText.ofChars cs) =
      (.ok ((history.save cs).1.map RawText.ofChars), (history.save cs).2) := by
  unfold saveRaw save
  rw [RawText.collapse_ofChars]
  cases hentry : Text.collapse cs with
  | nil => rfl
  | cons c rest =>
    have hrecord := record_map RawText.ofChars_injective history.limit history.entries (c :: rest)
    have hfile := congrArg RawText.encoded (rawFileOf_ofChars (record history.limit history.entries (c :: rest)))
    rw [RawText.encoded_ofChars, ← hrecord] at hfile
    simp only [RawText.ofChars, List.map_cons] at hfile hrecord ⊢
    simp only [hfile]
    rw [hrecord]

theorem limit_saveRaw (history : History) (text : RawText) : (history.saveRaw text).2.limit = history.limit := by
  unfold saveRaw
  split
  · rfl
  · dsimp only
    split <;> rfl

/-- A text with a surrogate is not saved, and the file is empty behind it. -/
theorem saveRaw_of_surrogate {history : History} (hlimit : 1 ≤ history.limit) {text : RawText}
    (h : text.chars? = none) :
    (∃ message, (history.saveRaw text).1 = .error (.conversion message)) ∧
      (history.saveRaw text).2 = { history with file := some [] } := by
  obtain ⟨offset, hmem⟩ := RawText.chars?_eq_none_iff.1 h
  have hcollapse := RawText.surrogate_mem_collapse hmem
  unfold saveRaw
  cases hentry : text.collapse with
  | nil => simp [hentry] at hcollapse
  | cons point rest =>
    -- the entry is the last one that the file is to hold, so its surrogate is in the text of the file
    have hfile : .surrogate offset ∈
        rawFileOf (record history.limit (history.entries.map RawText.ofChars) (point :: rest)) := by
      refine List.mem_flatten.2 ⟨_, List.mem_map_of_mem (mem_record hlimit _ _), ?_⟩
      exact List.mem_append_left _ (hentry ▸ hcollapse)
    simp only [RawText.encoded_of_surrogate hfile]
    exact ⟨⟨_, rfl⟩, trivial⟩

/-! ## Runs -/

/-- What is asked of saved queries. -/
inductive Call where
  | save (text : RawText)
  | clear

/-- Does what is asked for. -/
def perform (history : History) : Call → History
  | .save text => (history.saveRaw text).2
  | .clear => history.clear

/-- The saved queries behind calls, without a file at first. -/
def run (limit : ℤ) (calls : List Call) : History := calls.foldl perform { limit }

/-- The texts behind a call. -/
def Call.add (texts : List RawText) : Call → List RawText
  | .save text => texts ++ [text]
  | .clear => []

/-- The texts that calls have saved since they were cleared, in order. -/
def savedTexts (calls : List Call) : List RawText := calls.foldl Call.add []

/-- The texts that are left behind a call: one that cannot be encoded takes all earlier ones with it. -/
def Call.keep (texts : List RawText) : Call → List RawText
  | .save text => if text.chars?.isSome then texts ++ [text] else []
  | .clear => []

/-- The texts that are left of those that calls have saved, in order. -/
def keptTexts (calls : List Call) : List RawText := calls.foldl Call.keep []

/-- Texts that are not blank, collapsed, and each of them only where it comes last. -/
def distinctQueries (texts : List RawText) : List RawText := ((texts.map RawText.collapse).filter (· ≠ [])).dedup

theorem distinctQueries_concat_blank (texts : List RawText) {text : RawText} (h : text.collapse = []) :
    distinctQueries (texts ++ [text]) = distinctQueries texts := by
  simp [distinctQueries, h]

theorem distinctQueries_concat (texts : List RawText) {text : RawText} (h : text.collapse ≠ []) :
    distinctQueries (texts ++ [text]) = (distinctQueries texts).filter (· ≠ text.collapse) ++ [text.collapse] := by
  rw [distinctQueries, List.map_append, List.filter_append, List.map_singleton,
    List.filter_cons_of_pos (by simpa using h), List.filter_nil, dedup_concat, distinctQueries]

theorem run_concat (limit : ℤ) (calls : List Call) (call : Call) :
    run limit (calls ++ [call]) = (run limit calls).perform call :=
  List.foldl_concat _ _ _ _

theorem savedTexts_concat (calls : List Call) (call : Call) :
    savedTexts (calls ++ [call]) = call.add (savedTexts calls) :=
  List.foldl_concat _ _ _ _

theorem keptTexts_concat (calls : List Call) (call : Call) :
    keptTexts (calls ++ [call]) = call.keep (keptTexts calls) :=
  List.foldl_concat _ _ _ _

theorem limit_run (limit : ℤ) (calls : List Call) : (run limit calls).limit = limit := by
  induction calls using List.reverseRecOn with
  | nil => rfl
  | append_singleton calls call ih =>
    rw [run_concat]
    cases call with
    | clear => exact ih
    | save text => exact (limit_saveRaw _ text).trans ih

/-- Everything is left of what was saved exactly if all of it can be encoded. -/
theorem keptTexts_eq_savedTexts_iff (calls : List Call) :
    keptTexts calls = savedTexts calls ↔ ∀ text ∈ savedTexts calls, text.chars? ≠ none := by
  induction calls using List.reverseRecOn with
  | nil => simp [keptTexts, savedTexts]
  | append_singleton calls call ih =>
    rw [keptTexts_concat, savedTexts_concat]
    cases call with
    | clear => simp [Call.keep, Call.add]
    | save text => cases h : text.chars? <;> simp [Call.keep, Call.add, h, ih, or_imp, forall_and]

/-- Saving leaves the newest of what all texts leave, if what was there is the newest of what the earlier ones leave. -/
theorem save_eq_rtake {history : History} {limit : ℤ} {texts : List RawText} (hlimit : 1 ≤ limit)
    (hsame : history.limit = limit)
    (h : history.entries.map RawText.ofChars = (distinctQueries texts).rtake limit.toNat) (cs : List Char) :
    (history.save cs).1.map RawText.ofChars =
      (distinctQueries (texts ++ [RawText.ofChars cs])).rtake limit.toNat := by
  have hcollapse := RawText.collapse_ofChars cs
  by_cases hblank : Text.collapse cs = []
  · rw [save_of_collapse_eq_nil history hblank, distinctQueries_concat_blank texts (by rw [hcollapse, hblank]; rfl)]
    exact h
  · have hvisible : (RawText.ofChars cs).collapse ≠ [] := by
      rw [hcollapse]
      simpa [RawText.ofChars] using hblank
    rw [save_of_collapse_ne_nil history hblank, ← record_map RawText.ofChars_injective, record, hsame,
      newest_of_pos (by omega), h, distinctQueries_concat texts hvisible, hcollapse]
    exact rtake_filter_rtake (by omega) (List.nodup_dedup _) _

theorem entries_clear (history : History) : history.clear.entries = [] := rfl

theorem entries_run {limit : ℤ} (hlimit : 1 ≤ limit) (calls : List Call) :
    (run limit calls).entries.map RawText.ofChars = (distinctQueries (keptTexts calls)).rtake limit.toNat := by
  induction calls using List.reverseRecOn with
  | nil => simp [run, entries, keptTexts, distinctQueries, List.rtake]
  | append_singleton calls call ih =>
    rw [run_concat, keptTexts_concat]
    have hnone : (distinctQueries []).rtake limit.toNat = [] := by simp [distinctQueries, List.rtake]
    cases call with
    | clear => rw [perform, entries_clear, Call.keep, hnone, List.map_nil]
    | save text =>
      rw [perform]
      rcases RawText.eq_ofChars_or_surrogate text with ⟨cs, rfl⟩ | ⟨hsurrogate, -⟩
      · rw [saveRaw_ofChars, entries_save, Call.keep, if_pos (by simp)]
        exact save_eq_rtake hlimit (limit_run limit calls) ih cs
      · have hlimit' : 1 ≤ (run limit calls).limit := by rwa [limit_run]
        rw [(saveRaw_of_surrogate hlimit' hsurrogate).2, Call.keep, if_neg (by simp [hsurrogate]), hnone]
        rfl

/--
Whatever was saved and cleared before, the entries are the newest of the texts that are left since, collapsed and
each kept once where it was saved last. Saving a text of characters answers the same, and that is what the file then
holds; saving any other text fails and leaves no entry. What is left is all that was saved since the entries were
cleared exactly if these are texts of characters.
-/
theorem entries_run_eq_rtake {limit : ℤ} (hlimit : 1 ≤ limit) (calls : List Call) :
    (run limit calls).entries.map RawText.ofChars = (distinctQueries (keptTexts calls)).rtake limit.toNat ∧
    (∀ text : RawText, text.chars? ≠ none →
      ((run limit calls).saveRaw text).1 = .ok ((distinctQueries (keptTexts calls ++ [text])).rtake limit.toNat) ∧
      ((run limit calls).saveRaw text).2.entries.map RawText.ofChars =
        (distinctQueries (keptTexts calls ++ [text])).rtake limit.toNat) ∧
    (∀ text : RawText, text.chars? = none →
      (∃ message, ((run limit calls).saveRaw text).1 = .error (.conversion message)) ∧
      ((run limit calls).saveRaw text).2.entries = []) ∧
    (keptTexts calls = savedTexts calls ↔ ∀ text ∈ savedTexts calls, text.chars? ≠ none) := by
  have hentries := entries_run hlimit calls
  have hsame := limit_run limit calls
  refine ⟨hentries, fun text htext => ?_, fun text htext => ?_, keptTexts_eq_savedTexts_iff calls⟩
  · obtain ⟨cs, rfl⟩ := (RawText.eq_ofChars_or_surrogate text).resolve_right fun h => htext h.1
    have hsaved := save_eq_rtake hlimit hsame hentries cs
    rw [saveRaw_ofChars]
    exact ⟨congrArg Except.ok hsaved, (congrArg _ (entries_save _ cs)).trans hsaved⟩
  · obtain ⟨hfailed, hfile⟩ := saveRaw_of_surrogate (hsame ▸ hlimit) htext
    exact ⟨hfailed, by rw [hfile]; rfl⟩

/-- An entry that was dropped comes back, and a paragraph separator in a query is a space. -/
theorem entries_run_dropped_again :
    let calls : List Call := [.save "a".toList, .save "b\u2029 c".toList, .save "d".toList]
    (run 2 calls).entries = ["b c".toList, "d".toList] ∧
    ((run 2 calls).saveRaw " a ".toList).1 = .ok ["d".toList, "a".toList] ∧
    ((run 2 calls).saveRaw " a ".toList).2.entries = ["d".toList, "a".toList] := by
  intro calls
  obtain ⟨hentries, hsave, -, -⟩ := @entries_run_eq_rtake 2 (by decide) calls
  obtain ⟨hresult, hfile⟩ := hsave " a ".toList (by simp)
  have hbefore : (distinctQueries (keptTexts calls)).rtake (2 : ℤ).toNat =
      ["b c".toList, "d".toList].map RawText.ofChars := by decide
  have hbehind : (distinctQueries (keptTexts calls ++ [RawText.ofChars " a ".toList])).rtake (2 : ℤ).toNat =
      ["d".toList, "a".toList].map RawText.ofChars := by decide
  have hinjective := List.map_injective_iff.2 RawText.ofChars_injective
  exact ⟨hinjective (hentries.trans hbefore), hresult.trans (congrArg Except.ok hbehind),
    hinjective (hfile.trans hbehind)⟩

/-- A text with a surrogate takes the query that was saved before it with it, where both should be there. -/
theorem not_entries_run_surrogate :
    let calls : List Call := [.save "\x7b a: 1 \x7d".toList, .save [.surrogate 0]]
    (run 10 calls).entries = [] ∧ (distinctQueries (savedTexts calls)).rtake 10 =
      [RawText.ofChars "\x7b a: 1 \x7d".toList, [.surrogate 0]] := by
  intro calls
  refine ⟨?_, by decide⟩
  have hentries := @entries_run 10 (by decide) calls
  have hkept : keptTexts calls = [] := by decide
  simpa [hkept, distinctQueries, List.rtake] using hentries

end DocBrowser.History
