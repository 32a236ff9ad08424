import Mathlib
import DocBrowser.Text.Blank
import DocBrowser.Proofs.Text.Digits
import DocBrowser.Proofs.Text.Lines
/-!
# Collapsed text

Collapsing a text leaves its visible characters where they are and one space for each run of white space
between them. What is left of the text behind a visible character depends on that text alone, so a text can
be collapsed piece by piece.
-/

namespace DocBrowser.Text

variable {c : Char} {cs rest : List Char}

/-! ## Words -/

theorem words_cons_of_blank (hc : isBlank c = true) (cs : List Char) : words (c :: cs) = words cs := by
  rw [words, wordsBy.eq_def]
  simp [hc, words]

theorem words_singleton (hc : isBlank c = false) : words [c] = [[c]] := by
  rw [words, wordsBy.eq_def]
  simp [hc]

theorem words_cons_blank {d : Char} (hc : isBlank c = false) (hd : isBlank d = true) (cs : List Char) :
    words (c :: d :: cs) = [c] :: words (d :: cs) := by
  rw [words, wordsBy.eq_def]
  simp [hc, hd, words]

theorem words_cons_visible {d : Char} {word : List Char} {others : List (List Char)} (hc : isBlank c = false)
    (hd : isBlank d = false) (h : words (d :: cs) = word :: others) :
    words (c :: d :: cs) = (c :: word) :: others := by
  rw [words] at h
  rw [words, wordsBy.eq_def]
  simp [hc, hd, h]

/-- The first word starts with the first character, if that is visible. -/
theorem exists_words_cons (hc : isBlank c = false) (cs : List Char) :
    ∃ word others, words (c :: cs) = (c :: word) :: others := by
  induction cs generalizing c with
  | nil => exact ⟨[], [], words_singleton hc⟩
  | cons d cs ih =>
    cases hd : isBlank d with
    | true => exact ⟨[], _, words_cons_blank hc hd cs⟩
    | false =>
      obtain ⟨word, others, h⟩ := ih hd
      exact ⟨d :: word, others, words_cons_visible hc hd h⟩

/-- Words have characters. -/
theorem ne_nil_of_mem_words {word : List Char} (h : word ∈ words cs) : word ≠ [] := by
  -- the cases are those of the recursion: a blank, the last character, the end of a word, the inside of one
  induction cs generalizing word with
  | nil => cases h
  | cons c cs ih =>
    cases hc : isBlank c with
    | true => exact ih (words_cons_of_blank hc cs ▸ h)
    | false =>
      cases cs with
      | nil =>
        rw [words_singleton hc, List.mem_singleton] at h
        simp [h]
      | cons d cs =>
        cases hd : isBlank d with
        | true =>
          rw [words_cons_blank hc hd, List.mem_cons] at h
          rcases h with rfl | h
          · simp
          · exact ih h
        | false =>
          obtain ⟨first, others, hwords⟩ := exists_words_cons hd cs
          rw [words_cons_visible hc hd hwords, List.mem_cons] at h
          rcases h with rfl | h
          · simp
          · exact ih (by rw [hwords]; exact List.mem_cons_of_mem _ h)

/-! ## Collapsed piece by piece -/

/-- What is left of a text behind a visible character: a space where white space is followed by a word. -/
def collapseBehind (cs : List Char) : List Char :=
  if cs.head?.any isBlank ∧ collapse cs ≠ [] then ' ' :: collapse cs else collapse cs

@[simp] theorem collapse_nil : collapse [] = [] := rfl

@[simp] theorem collapseBehind_nil : collapseBehind [] = [] := rfl

theorem collapse_cons_of_blank (hc : isBlank c = true) (cs : List Char) : collapse (c :: cs) = collapse cs := by
  rw [collapse, words_cons_of_blank hc, collapse]

/-- A word is joined to what is left of the text behind it. -/
theorem collapse_cons_of_visible (hc : isBlank c = false) (cs : List Char) :
    collapse (c :: cs) = c :: collapseBehind cs := by
  cases cs with
  | nil => rw [collapse, words_singleton hc, joinWith, collapseBehind_nil]
  | cons d cs =>
    cases hd : isBlank d with
    | true =>
      rw [collapse, words_cons_blank hc hd, collapseBehind, collapse, List.head?_cons, Option.any_some, hd]
      cases hwords : words (d :: cs) with
      | nil => simp [joinWith]
      | cons word others =>
        -- words have characters, so there is something to separate
        have hmem : word ∈ words (d :: cs) := by simp [hwords]
        have hword : word ≠ [] := ne_nil_of_mem_words hmem
        have hjoined : joinWith [' '] (word :: others) ≠ [] := by
          rw [joinWith_cons]
          exact List.append_ne_nil_of_left_ne_nil hword _
        simp [joinWith, hjoined]
    | false =>
      obtain ⟨word, others, hwords⟩ := exists_words_cons hd cs
      rw [collapse, words_cons_visible hc hd hwords, collapseBehind, List.head?_cons, Option.any_some, hd, collapse,
        hwords]
      cases others <;> simp [joinWith]

theorem collapseBehind_cons_of_visible (hc : isBlank c = false) (cs : List Char) :
    collapseBehind (c :: cs) = c :: collapseBehind cs := by
  simp [collapseBehind, hc, collapse_cons_of_visible hc]

theorem collapseBehind_cons_of_blank (hc : isBlank c = true) (cs : List Char) :
    collapseBehind (c :: cs) = if collapse cs = [] then [] else ' ' :: collapse cs := by
  rw [collapseBehind, collapse_cons_of_blank hc, List.head?_cons, Option.any_some, hc]
  split_ifs with h h' <;> simp_all

/-- White space in front of white space leaves nothing more. -/
theorem collapseBehind_cons_cases (hc : isBlank c = true) (cs : List Char) :
    collapseBehind (c :: cs) = collapseBehind cs ∨ collapseBehind (c :: cs) = ' ' :: collapseBehind cs := by
  rw [collapseBehind_cons_of_blank hc]
  cases cs with
  | nil => exact .inl rfl
  | cons d cs =>
    cases hd : isBlank d with
    | true =>
      rw [collapseBehind_cons_of_blank hd, collapse_cons_of_blank hd]
      exact .inl rfl
    | false =>
      rw [collapseBehind_cons_of_visible hd, collapse_cons_of_visible hd, if_neg (List.cons_ne_nil _ _)]
      exact .inr rfl

/-- What is left of a text starts with a visible character. -/
theorem collapse_cases (cs : List Char) :
    collapse cs = [] ∨ ∃ c rest, isBlank c = false ∧ collapse cs = c :: rest := by
  induction cs with
  | nil => exact .inl rfl
  | cons c cs ih =>
    cases hc : isBlank c with
    | true =>
      rw [collapse_cons_of_blank hc]
      exact ih
    | false => exact .inr ⟨c, _, hc, collapse_cons_of_visible hc cs⟩

/-- The only white space that is left is the space. -/
theorem eq_space_of_mem_collapse {d : Char} (h : d ∈ collapse cs) (hd : isBlank d = true) : d = ' ' := by
  -- a blank hands over from `collapse` to `collapseBehind` and back, so both are proved at once
  have hboth : (d ∈ collapse cs → d = ' ') ∧ (d ∈ collapseBehind cs → d = ' ') := by
    clear h
    induction cs with
    | nil => simp
    | cons c cs ih =>
      cases hc : isBlank c with
      | true =>
        rw [collapse_cons_of_blank hc, collapseBehind_cons_of_blank hc]
        refine ⟨ih.1, fun h => ?_⟩
        split_ifs at h with hnil
        · cases h
        · exact (List.mem_cons.1 h).elim id ih.1
      | false =>
        have hne : d ≠ c := by
          rintro rfl
          exact absurd hc (by simp [hd])
        rw [collapse_cons_of_visible hc, collapseBehind_cons_of_visible hc, List.mem_cons, or_iff_right hne]
        exact ⟨ih.2, ih.2⟩
  exact hboth.1 h

/-- Collapsing takes nothing visible away. -/
theorem squeeze_collapse (cs : List Char) : squeeze (collapse cs) = squeeze cs := by
  -- both states of the collapsing, since each hands the rest of the text to the other
  have hboth : squeeze (collapse cs) = squeeze cs ∧ squeeze (collapseBehind cs) = squeeze cs := by
    induction cs with
    | nil => exact ⟨rfl, rfl⟩
    | cons c cs ih =>
      cases hc : isBlank c with
      | true =>
        have hspace : squeeze (' ' :: collapse cs) = squeeze (collapse cs) := by simp [squeeze, isBlank]
        have hcs : squeeze (c :: cs) = squeeze cs := by simp [squeeze, hc]
        rw [collapse_cons_of_blank hc, collapseBehind_cons_of_blank hc, hcs, ← ih.1]
        refine ⟨rfl, ?_⟩
        split_ifs with hnil
        · rw [hnil]
        · exact hspace
      | false =>
        have hvisible (ds : List Char) : squeeze (c :: ds) = c :: squeeze ds := by simp [squeeze, hc]
        rw [collapse_cons_of_visible hc, collapseBehind_cons_of_visible hc, hvisible, hvisible, ih.2]
        exact ⟨rfl, rfl⟩
  exact hboth.1

theorem collapse_ne_nil (h : c ∈ cs) (hc : isBlank c = false) : collapse cs ≠ [] := by
  intro hnil
  have hmem : c ∈ squeeze (collapse cs) := by
    rw [squeeze_collapse]
    exact List.mem_filter.2 ⟨h, by simp [hc]⟩
  rw [hnil] at hmem
  cases hmem

/-- Whether a text ends in a visible character, if it has any. -/
def EndsVisible (cs : List Char) : Prop := ∀ c ∈ cs.getLast?, isBlank c = false

/-- Behind a visible character a text is collapsed on its own. -/
theorem collapse_append (h : EndsVisible cs) (rest : List Char) :
    (cs ≠ [] → collapse (cs ++ rest) = collapse cs ++ collapseBehind rest) ∧
      collapseBehind (cs ++ rest) = collapseBehind cs ++ collapseBehind rest := by
  induction cs with
  | nil => simp
  | cons c cs ih =>
    cases hc : isBlank c with
    | true =>
      -- white space does not end the text, so a visible character is behind it
      have hne : cs ≠ [] := by
        rintro rfl
        exact absurd (h c rfl) (by simp [hc])
      have hcs : EndsVisible cs := by
        intro d hd
        exact h d (by rw [List.getLast?_cons, hd]; rfl)
      have hlast := List.getLast?_eq_some_getLast hne
      have hleft : collapse cs ≠ [] := collapse_ne_nil (List.getLast_mem hne) (hcs _ hlast)
      have happend := (ih hcs).1 hne
      rw [List.cons_append, collapse_cons_of_blank hc, collapse_cons_of_blank hc, collapseBehind_cons_of_blank hc,
        collapseBehind_cons_of_blank hc, happend, if_neg hleft, if_neg (List.append_ne_nil_of_left_ne_nil hleft _)]
      exact ⟨fun _ => rfl, rfl⟩
    | false =>
      have hcs : EndsVisible cs := by
        intro d hd
        exact h d (by rw [List.getLast?_cons, hd]; rfl)
      rw [List.cons_append, collapse_cons_of_visible hc, collapse_cons_of_visible hc,
        collapseBehind_cons_of_visible hc, collapseBehind_cons_of_visible hc, (ih hcs).2]
      exact ⟨fun _ => rfl, rfl⟩

/-! ## Read piece by piece -/

/-- Whether collapsing leaves a piece of text as it is, whatever follows it. -/
def Stays (piece : List Char) : Prop := ∀ rest, collapseBehind (piece ++ rest) = piece ++ collapseBehind rest

theorem Stays.take_drop {n : ℕ} (h : Stays (cs.take n)) :
    (collapseBehind cs).take n = cs.take n ∧ (collapseBehind cs).drop n = collapseBehind (cs.drop n) := by
  have hsplit := h (cs.drop n)
  rw [List.take_append_drop] at hsplit
  rcases Nat.le_total n cs.length with hle | hle
  · have hlength : (cs.take n).length = n := List.length_take_of_le hle
    rw [hsplit]
    exact ⟨List.take_left' hlength, List.drop_left' hlength⟩
  · rw [List.drop_eq_nil_of_le hle, List.take_of_length_le hle, collapseBehind_nil, List.append_nil] at hsplit
    rw [hsplit, List.drop_eq_nil_of_le hle]
    exact ⟨rfl, rfl⟩

/-- A piece without white space stays. -/
theorem stays_of_visible {piece : List Char} (h : ∀ c ∈ piece, isBlank c = false) : Stays piece := by
  intro rest
  induction piece with
  | nil => rfl
  | cons c piece ih =>
    rw [List.cons_append, collapseBehind_cons_of_visible (h c List.mem_cons_self),
      ih fun d hd => h d (List.mem_cons_of_mem _ hd), List.cons_append]

/-- Collapsed text between visible characters stays. -/
theorem stays_of_collapse (hc : isBlank c = false) (hend : EndsVisible (c :: cs)) (h : collapse (c :: cs) = c :: cs) :
    Stays (c :: cs) := by
  intro rest
  have happend := (collapse_append hend rest).1 (by simp)
  rw [h, List.cons_append, collapse_cons_of_visible hc] at happend
  rw [List.cons_append, collapseBehind_cons_of_visible hc, happend, List.cons_append]

/-- In front of the first visible character nothing is left. -/
theorem collapse_eq_collapseBehind (cs : List Char) : collapse cs = collapseBehind (cs.dropWhile isBlank) := by
  induction cs with
  | nil => rfl
  | cons c cs ih =>
    cases hc : isBlank c with
    | true => rw [collapse_cons_of_blank hc, ih, List.dropWhile_cons_of_pos hc]
    | false =>
      rw [List.dropWhile_cons_of_neg (by simp [hc]), collapse_cons_of_visible hc, collapseBehind_cons_of_visible hc]

theorem dropWhile_isBlank_collapse (cs : List Char) : (collapse cs).dropWhile isBlank = collapse cs := by
  obtain hnil | ⟨c, rest, hc, hcollapse⟩ := collapse_cases cs
  · rw [hnil, List.dropWhile_nil]
  · rw [hcollapse, List.dropWhile_cons_of_neg (by simp [hc])]

/-- Skipping white space finds the same character before and after collapsing. -/
theorem dropWhile_isBlank_collapseBehind (cs : List Char) :
    (collapseBehind cs).dropWhile isBlank = collapseBehind (cs.dropWhile isBlank) := by
  rw [← collapse_eq_collapseBehind, collapseBehind]
  split_ifs
  · rw [List.dropWhile_cons_of_pos (by decide), dropWhile_isBlank_collapse]
  · exact dropWhile_isBlank_collapse cs

/-- What is trimmed stays as it is. -/
theorem trim_trim (cs : List Char) : trim (trim cs) = trim cs := by
  have hstart : StopsAt isBlank (trimStart cs) := stopsAt_dropWhile _ cs
  obtain ⟨gap, hgap, -⟩ := exists_eq_trim_append hstart
  have htrim : trim (trimStart cs) = trim cs := congrArg trimEnd (dropWhile_of_stopsAt hstart)
  rw [htrim] at hgap
  refine trim_of_stopsAt (StopsAt.of_append (hgap ▸ hstart)) ?_
  rw [trim, trimEnd, dropEndWhile, List.reverse_reverse]
  exact stopsAt_dropWhile _ _

section

variable {p : Char → Bool} (hp : ∀ c, p c = true → isBlank c = false)

include hp

/-- The first character is in a class without white space before and after collapsing, or neither is. -/
theorem head?_any_collapseBehind (cs : List Char) : (collapseBehind cs).head?.any p = cs.head?.any p := by
  have hno (d : Char) (hd : isBlank d = true) : p d = false := by
    cases h : p d with
    | false => rfl
    | true =>
      rw [hp d h] at hd
      cases hd
  cases cs with
  | nil => rfl
  | cons c cs =>
    cases hc : isBlank c with
    | true =>
      -- a run of blanks is left out or becomes one space: `p` holds of neither
      rw [collapseBehind_cons_of_blank hc, List.head?_cons, Option.any_some, hno c hc]
      split_ifs
      · rfl
      · exact hno ' ' (by decide)
    | false => rw [collapseBehind_cons_of_visible hc, List.head?_cons, List.head?_cons]

theorem stopsAt_collapseBehind (h : StopsAt p cs) : StopsAt p (collapseBehind cs) := by
  have hany : (collapseBehind cs).head?.any p = false := by
    rw [head?_any_collapseBehind hp]
    cases cs with
    | nil => rfl
    | cons c cs => exact stopsAt_cons.1 h
  intro c hc
  rwa [hc] at hany

theorem collapseBehind_takeWhile (cs : List Char) :
    collapseBehind cs = cs.takeWhile p ++ collapseBehind (cs.dropWhile p) := by
  have hstays : Stays (cs.takeWhile p) := stays_of_visible fun c hc => hp c (List.mem_takeWhile_imp hc)
  rw [← hstays, List.takeWhile_append_dropWhile]

/-- A run of a class without white space is the same before and after collapsing. -/
theorem takeWhile_collapseBehind (cs : List Char) : (collapseBehind cs).takeWhile p = cs.takeWhile p := by
  rw [collapseBehind_takeWhile hp, takeWhile_run (fun c hc => List.mem_takeWhile_imp hc)
    (stopsAt_collapseBehind hp (stopsAt_dropWhile p cs))]

theorem drop_takeWhile_collapseBehind (cs : List Char) :
    (collapseBehind cs).drop (cs.takeWhile p).length = collapseBehind (cs.drop (cs.takeWhile p).length) := by
  rw [collapseBehind_takeWhile hp, List.drop_left, drop_length_takeWhile]

end

/-- A visible character starts a text before and after collapsing, or neither. -/
theorem starts_collapseBehind (hc : isBlank c = false) (cs : List Char) :
    (∃ rest, cs = c :: rest ∧ collapseBehind cs = c :: collapseBehind rest) ∨
      (∀ rest, cs ≠ c :: rest) ∧ ∀ rest, collapseBehind cs ≠ c :: rest := by
  have hp : ∀ d, (d == c) = true → isBlank d = false := by
    rintro d hd
    rw [beq_iff_eq] at hd
    exact hd ▸ hc
  have hany := head?_any_collapseBehind hp cs
  by_cases hstart : ∃ rest, cs = c :: rest
  · obtain ⟨rest, rfl⟩ := hstart
    exact .inl ⟨rest, rfl, collapseBehind_cons_of_visible hc rest⟩
  · refine .inr ⟨fun rest hrest => hstart ⟨rest, hrest⟩, fun rest hrest => ?_⟩
    rw [hrest, List.head?_cons, Option.any_some, beq_self_eq_true] at hany
    cases cs with
    | nil => cases hany
    | cons d cs => exact hstart ⟨cs, by rw [beq_iff_eq.1 hany.symm]⟩

/-- A word without white space starts the same texts before and after collapsing. -/
theorem isPrefixOf_collapseBehind {word : List Char} (h : ∀ c ∈ word, isBlank c = false) (cs : List Char) :
    word.isPrefixOf (collapseBehind cs) = word.isPrefixOf cs := by
  induction word generalizing cs with
  | nil => simp
  | cons c word ih =>
    obtain ⟨hc, hword⟩ := List.forall_mem_cons.1 h
    cases cs with
    | nil => rfl
    | cons d cs =>
      cases hd : isBlank d with
      | true =>
        -- a word has no blank, so it starts neither with the blanks of `cs` nor with the space put for them
        have hne (other : Char) (hother : isBlank other = true) : (c == other) = false := by
          rw [beq_eq_false_iff_ne]
          rintro rfl
          rw [hc] at hother
          cases hother
        rw [collapseBehind_cons_of_blank hd, List.isPrefixOf, hne d hd, Bool.false_and]
        split_ifs
        · rfl
        · rw [List.isPrefixOf, hne ' ' (by decide), Bool.false_and]
      | false => rw [collapseBehind_cons_of_visible hd, List.isPrefixOf, List.isPrefixOf, ih hword]

end DocBrowser.Text
