import Mathlib
import DocBrowser.Text.Blank
import DocBrowser.Text.Lines
/-!
# Lines of a text

Where a text has no carriage return, its lines are the runs between its line ends: a line end cuts
it in two, and a line that holds anything visible is not blank.
-/

namespace DocBrowser.Text

/-! ## Visible characters -/

theorem isBlank_of_isLineEnd {c : Char} (h : isLineEnd c = true) : isBlank c = true := by
  simp only [isLineEnd, isBlank, Bool.or_eq_true, Bool.and_eq_true, decide_eq_true_eq, beq_iff_eq] at h ⊢
  omega

theorem mem_dropWhile {p : Char → Bool} {c : Char} {cs : List Char} (h : c ∈ cs) (hc : p c = false) :
    c ∈ cs.dropWhile p := by
  rw [← List.takeWhile_append_dropWhile (p := p) (l := cs), List.mem_append] at h
  rcases h with h | h
  · exact absurd (List.mem_takeWhile_imp h) (by simp [hc])
  · exact h

/-- Trimming keeps every visible character. -/
theorem mem_trim {c : Char} {cs : List Char} (h : c ∈ cs) (hc : isBlank c = false) : c ∈ trim cs := by
  rw [trim, trimStart, trimEnd, dropEndWhile, List.mem_reverse]
  exact mem_dropWhile (List.mem_reverse.2 (mem_dropWhile h hc)) hc

theorem squeeze_append (cs cs' : List Char) : squeeze (cs ++ cs') = squeeze cs ++ squeeze cs' := List.filter_append _ _

theorem squeeze_eq_nil {cs : List Char} (h : ∀ c ∈ cs, isBlank c = true) : squeeze cs = [] := by
  simpa [squeeze] using h

/-- Whether a line is not blank. -/
def isVisible (line : List Char) : Bool := trim line ≠ []

theorem isVisible_of_mem {c : Char} {line : List Char} (h : c ∈ line) (hc : isBlank c = false) :
    isVisible line = true :=
  decide_eq_true (List.ne_nil_of_mem (mem_trim h hc))

/-! ## Line ends -/

theorem universalNewlines_of_not_mem {cs : List Char} (h : '\r' ∉ cs) : universalNewlines cs = cs := by
  induction cs with
  | nil => rfl
  | cons c rest ih =>
    rw [List.mem_cons, not_or] at h
    rw [universalNewlines, ih h.2]
    · rintro _ rfl
      exact absurd rfl h.1
    · rintro rfl
      exact absurd rfl h.1

theorem splitLines_cons {c : Char} (rest : List Char) (h : c ≠ '\r') :
    splitLines (c :: rest) = if isLineEnd c then [] :: splitLines rest else extendFirstLine c (splitLines rest) := by
  rw [splitLines]
  rintro _ rfl
  exact absurd rfl h

/-- The first line ends at the first line end. -/
theorem splitLines_append_cons {line rest : List Char} {e : Char} (hline : ∀ c ∈ line, isLineEnd c = false)
    (he : isLineEnd e = true) (hreturn : e ≠ '\r') : splitLines (line ++ e :: rest) = line :: splitLines rest := by
  induction line with
  | nil => rw [List.nil_append, splitLines_cons rest hreturn, if_pos he]
  | cons c line ih =>
    have hc := hline c (by simp)
    have hc' : c ≠ '\r' := by
      rintro rfl
      exact absurd hc (by decide)
    rw [List.cons_append, splitLines_cons _ hc', ih fun x hx => hline x (List.mem_cons_of_mem _ hx), hc]
    rfl

/-- No line is lost where a newline follows, so what follows is cut for itself. -/
theorem splitLines_append_newline {cs : List Char} (rest : List Char) (h : '\r' ∉ cs) :
    splitLines (cs ++ '\n' :: rest) = splitLines (cs ++ ['\n']) ++ splitLines rest ∧
      splitLines (cs ++ ['\n']) ≠ [] := by
  have hnewline : '\n' ≠ '\r' := by decide
  have hend : isLineEnd '\n' = true := by decide
  induction cs with
  | nil => simp [splitLines_cons _ hnewline, hend, splitLines]
  | cons c cs ih =>
    rw [List.mem_cons, not_or] at h
    obtain ⟨hsplit, hne⟩ := ih h.2
    rw [List.cons_append, List.cons_append, splitLines_cons _ (Ne.symm h.1), splitLines_cons _ (Ne.symm h.1), hsplit]
    split_ifs
    · simp
    · -- the first line grows, and that is a line in front of the newline
      obtain ⟨line, lines, hcons⟩ := List.exists_cons_of_ne_nil hne
      rw [hcons]
      simp [extendFirstLine]

/-- Every character other than a line end stands in some line. -/
theorem exists_mem_splitLines {c : Char} {cs : List Char} (hreturn : '\r' ∉ cs) (h : c ∈ cs)
    (hc : isLineEnd c = false) : ∃ line ∈ splitLines cs, c ∈ line := by
  induction cs with
  | nil => simp at h
  | cons d cs ih =>
    rw [List.mem_cons, not_or] at hreturn
    rw [splitLines_cons _ (Ne.symm hreturn.1)]
    rcases List.mem_cons.1 h with rfl | h
    · -- the character itself is put at the front of the first line
      rw [hc, if_neg Bool.false_ne_true]
      cases splitLines cs with
      | nil => exact ⟨[c], by simp [extendFirstLine], by simp⟩
      | cons line lines => exact ⟨c :: line, by simp [extendFirstLine], by simp⟩
    · obtain ⟨line, hline, hmem⟩ := ih hreturn.2 h
      split_ifs
      · exact ⟨line, List.mem_cons_of_mem _ hline, hmem⟩
      · -- only the first line grows, and it keeps what it has
        cases hlines : splitLines cs with
        | nil => simp [hlines] at hline
        | cons first lines =>
          rw [hlines] at hline
          rcases List.mem_cons.1 hline with rfl | hline
          · exact ⟨d :: line, by simp [extendFirstLine], List.mem_cons_of_mem _ hmem⟩
          · exact ⟨line, by simp [extendFirstLine, hline], hmem⟩

/-! ## Texts of lines -/

/-- Lines with a newline behind each. -/
def unlines (lines : List (List Char)) : List Char := (lines.map (· ++ ['\n'])).flatten

@[simp] theorem unlines_nil : unlines [] = [] := rfl

@[simp] theorem unlines_cons (line : List Char) (lines : List (List Char)) :
    unlines (line :: lines) = line ++ '\n' :: unlines lines := by
  simp [unlines]

/-- Lines without line ends are cut as they were put together. -/
theorem splitLines_unlines {lines : List (List Char)} (h : ∀ line ∈ lines, ∀ c ∈ line, isLineEnd c = false) :
    splitLines (unlines lines) = lines := by
  induction lines with
  | nil => rfl
  | cons line lines ih =>
    rw [unlines_cons, splitLines_append_cons (h line (by simp)) (by decide) (by decide),
      ih fun x hx => h x (List.mem_cons_of_mem _ hx)]

/-- A line without line ends is the only line. -/
theorem splitLines_of_line {line : List Char} (hne : line ≠ []) (h : ∀ c ∈ line, isLineEnd c = false) :
    splitLines line = [line] := by
  induction line with
  | nil => exact absurd rfl hne
  | cons c line ih =>
    rw [List.forall_mem_cons] at h
    have hc : c ≠ '\r' := by
      rintro rfl
      exact absurd h.1 (by decide)
    rw [splitLines_cons _ hc, h.1, if_neg Bool.false_ne_true]
    cases line with
    | nil => rfl
    | cons d line =>
      rw [ih (by simp) h.2]
      rfl

/-- The last line needs no newline behind it where it is not empty. -/
theorem splitLines_joinWith {lines : List (List Char)} (hne : ∀ line ∈ lines, line ≠ [])
    (h : ∀ line ∈ lines, ∀ c ∈ line, isLineEnd c = false) : splitLines (joinWith ['\n'] lines) = lines := by
  induction lines with
  | nil => rfl
  | cons line lines ih =>
    rw [List.forall_mem_cons] at hne h
    cases lines with
    | nil => exact splitLines_of_line hne.1 h.1
    | cons next lines =>
      rw [joinWith, List.append_assoc, List.singleton_append, splitLines_append_cons h.1 (by decide) (by decide),
        ih hne.2 h.2]
      simp

/-! ## Pieces between separators -/

/-- A separator in front of each piece but the first stands between neighbours. -/
theorem joinWith_cons (separator piece : List Char) (pieces : List (List Char)) :
    joinWith separator (piece :: pieces) = piece ++ pieces.flatMap (separator ++ ·) := by
  induction pieces generalizing piece with
  | nil => simp [joinWith]
  | cons next rest ih => simp [joinWith, ih next]

theorem mem_of_mem_joinWith {c : Char} {separator : List Char} {pieces : List (List Char)}
    (h : c ∈ joinWith separator pieces) : c ∈ separator ∨ ∃ piece ∈ pieces, c ∈ piece := by
  cases pieces with
  | nil => cases h
  | cons piece pieces =>
    rw [joinWith_cons, List.mem_append, List.mem_flatMap] at h
    rcases h with h | ⟨other, hother, h⟩
    · exact .inr ⟨piece, List.mem_cons_self, h⟩
    · exact (List.mem_append.1 h).imp_right fun h => ⟨other, List.mem_cons_of_mem _ hother, h⟩

section

variable {separator : Char}

variable (separator) in
theorem splitAt_ne_nil (cs : List Char) : splitAt separator cs ≠ [] := by
  cases cs with
  | nil => simp [splitAt]
  | cons c cs =>
    rw [splitAt]
    split_ifs
    · simp
    · cases splitAt separator cs <;> simp [extendFirstLine]

theorem extendFirstLine_append (c : Char) {lines : List (List Char)} (h : lines ≠ []) (more : List (List Char)) :
    extendFirstLine c (lines ++ more) = extendFirstLine c lines ++ more := by
  obtain ⟨line, rest, rfl⟩ := List.exists_cons_of_ne_nil h
  rfl

theorem splitAt_of_not_mem {cs : List Char} (h : separator ∉ cs) : splitAt separator cs = [cs] := by
  induction cs with
  | nil => rfl
  | cons c cs ih =>
    rw [List.mem_cons, not_or] at h
    rw [splitAt, if_neg (Ne.symm h.1), ih h.2]
    rfl

/-- A separator cuts a text in two. -/
theorem splitAt_append (cs rest : List Char) :
    splitAt separator (cs ++ separator :: rest) = splitAt separator cs ++ splitAt separator rest := by
  induction cs with
  | nil => simp [splitAt]
  | cons c cs ih =>
    rw [List.cons_append, splitAt, splitAt, ih]
    split_ifs
    · rfl
    · exact extendFirstLine_append c (splitAt_ne_nil separator cs) _

theorem splitAt_append_flatMap (cs : List Char) (pieces : List (List Char)) :
    splitAt separator (cs ++ pieces.flatMap (separator :: ·)) =
      splitAt separator cs ++ pieces.flatMap (splitAt separator) := by
  induction pieces generalizing cs with
  | nil => simp
  | cons piece pieces ih =>
    rw [List.flatMap_cons, List.flatMap_cons, List.cons_append, splitAt_append, ih]

/-- The pieces of a text, joined by the separator, are the text. -/
theorem joinWith_splitAt (cs : List Char) : joinWith [separator] (splitAt separator cs) = cs := by
  induction cs with
  | nil => rfl
  | cons c cs ih =>
    obtain ⟨line, rest, hcons⟩ := List.exists_cons_of_ne_nil (splitAt_ne_nil separator cs)
    rw [splitAt]
    split_ifs with hc
    · rw [hcons, joinWith, ← hcons, ih, hc]
      · rfl
      · simp
    · rw [hcons] at ih ⊢
      cases rest with
      | nil => simpa [extendFirstLine, joinWith] using ih
      | cons next rest => simpa [extendFirstLine, joinWith] using ih

theorem not_mem_of_mem_splitAt {cs piece : List Char} (h : piece ∈ splitAt separator cs) :
    separator ∉ piece := by
  induction cs generalizing piece with
  | nil => simp_all [splitAt]
  | cons c cs ih =>
    obtain ⟨first, others, hcons⟩ := List.exists_cons_of_ne_nil (splitAt_ne_nil separator cs)
    rw [splitAt] at h
    rw [hcons] at h ih
    by_cases hc : c = separator
    · -- a separator opens a new, empty piece; any other character goes to the front of the first piece
      rw [if_pos hc, List.mem_cons] at h
      rcases h with hnil | hmem
      · simp [hnil]
      · exact ih hmem
    · rw [if_neg hc, extendFirstLine, List.mem_cons] at h
      rcases h with hfirst | hmem
      · rw [hfirst, List.mem_cons, not_or]
        exact ⟨Ne.symm hc, ih List.mem_cons_self⟩
      · exact ih (List.mem_cons_of_mem _ hmem)

theorem mem_of_mem_splitAt {c : Char} {cs piece : List Char} (h : piece ∈ splitAt separator cs) (hc : c ∈ piece) :
    c ∈ cs := by
  obtain ⟨front, back, hsplit⟩ := List.append_of_mem h
  have hjoin : joinWith [separator] (splitAt separator cs) = cs := joinWith_splitAt cs
  rw [← hjoin, hsplit]
  cases front with
  | nil => simp [joinWith_cons, hc]
  | cons first front => simp [joinWith_cons, hc]

/-- Pieces without the separator are found again where the separator stands between them. -/
theorem splitAt_joinWith {pieces : List (List Char)} (hne : pieces ≠ [])
    (h : ∀ piece ∈ pieces, separator ∉ piece) : splitAt separator (joinWith [separator] pieces) = pieces := by
  obtain ⟨first, others, rfl⟩ := List.exists_cons_of_ne_nil hne
  rw [List.forall_mem_cons] at h
  have hothers : others.flatMap (splitAt separator) = others := by
    rw [List.flatMap_congr fun piece hpiece => splitAt_of_not_mem (h.2 piece hpiece), List.flatMap_singleton']
  rw [joinWith_cons]
  show splitAt separator (first ++ others.flatMap (separator :: ·)) = first :: others
  rw [splitAt_append_flatMap, hothers, splitAt_of_not_mem h.1]
  rfl

end

/-! ## Lines that are not blank -/

theorem one_le_countP_splitLines {c : Char} {cs : List Char} (hreturn : '\r' ∉ cs) (h : c ∈ cs)
    (hc : isBlank c = false) : 1 ≤ (splitLines cs).countP isVisible := by
  have hend : isLineEnd c = false := by
    by_contra hcontra
    simp [isBlank_of_isLineEnd (Bool.eq_true_of_not_eq_false hcontra)] at hc
  obtain ⟨line, hline, hmem⟩ := exists_mem_splitLines hreturn h hend
  exact List.countP_pos_iff.2 ⟨line, hline, isVisible_of_mem hmem hc⟩

/-- A text with a line end between two visible characters has two lines that are not blank. -/
theorem two_le_countP_splitLines {cs : List Char} {first last : Char} (hreturn : '\r' ∉ cs)
    (hfirst : isBlank first = false) (hlast : isBlank last = false) (h : ∃ c ∈ cs, isLineEnd c = true) :
    2 ≤ (splitLines (first :: (cs ++ [last]) ++ ['\n'])).countP isVisible := by
  -- the first line ends at the first line end there is, and the rest still holds the last character
  obtain ⟨e, hfind⟩ := Option.isSome_iff_exists.1 (List.find?_isSome.2 h)
  obtain ⟨he, before, after, rfl, hbefore⟩ := List.find?_eq_some_iff_append.1 hfind
  have hreturn' : '\r' ∉ after ++ [last, '\n'] := by
    simp only [List.mem_append, List.mem_cons, not_or] at hreturn ⊢
    refine ⟨hreturn.2.2, ?_, by decide, by simp⟩
    rintro rfl
    exact absurd hlast (by decide)
  have hline : ∀ c ∈ first :: before, isLineEnd c = false := by
    intro c hc
    rcases List.mem_cons.1 hc with rfl | hc
    · by_contra hcontra
      simp [isBlank_of_isLineEnd (Bool.eq_true_of_not_eq_false hcontra)] at hfirst
    · simpa using hbefore c hc
  have he' : e ≠ '\r' := by
    rintro rfl
    simp at hreturn
  have hsplit : first :: (before ++ e :: after ++ [last]) ++ ['\n'] =
      (first :: before) ++ e :: (after ++ [last, '\n']) := by simp
  rw [hsplit, splitLines_append_cons hline he he', List.countP_cons_of_pos (isVisible_of_mem (by simp) hfirst)]
  have hrest := one_le_countP_splitLines hreturn' (c := last) (by simp) hlast
  omega

theorem countP_splitLines_unlines {lines : List (List Char)} (h : ∀ line ∈ lines, '\r' ∉ line) :
    (splitLines (unlines lines)).countP isVisible =
      (lines.map fun line => (splitLines (line ++ ['\n'])).countP isVisible).sum := by
  induction lines with
  | nil => rfl
  | cons line lines ih =>
    rw [unlines_cons, (splitLines_append_newline _ (h line (by simp))).1, List.countP_append,
      ih fun x hx => h x (List.mem_cons_of_mem _ hx)]
    rfl

end DocBrowser.Text
