import Mathlib
import DocBrowser.Navigator.Line
import DocBrowser.Proofs.Text.Digits
import DocBrowser.Proofs.Text.Lines
/-!
# Wrapped lines

A line is cut into segments that are the line again when they are put together. The first of them
has the indentation of the line at any width, and all others stand at column zero.
-/

namespace DocBrowser.Line

open Text (StopsAt)

/-! ## Lines with an indentation -/

/-- A line of some blanks with something visible behind them, without control characters. -/
structure Indented (indent : ℕ) (line : List Char) : Prop where
  leading : ∃ c rest, line = List.replicate indent ' ' ++ c :: rest ∧ c ≠ ' '
  printable : ∀ c ∈ line, 32 ≤ c.toNat

theorem leadingWidth_cons {c : Char} (rest : List Char) (hspace : c ≠ ' ') (hc : 32 ≤ c.toNat) :
    leadingWidth (c :: rest) = 0 := by
  have htab : c ≠ '\t' := by
    rintro rfl
    exact absurd hc (by decide)
  simp [leadingWidth, isIndent, hspace, htab]

theorem leadingWidth_replicate_append (n : ℕ) (rest : List Char) :
    leadingWidth (List.replicate n ' ' ++ rest) = n + leadingWidth rest := by
  have hblank : ∀ c ∈ List.replicate n ' ', isIndent c = true := by
    intro c hc
    rw [List.eq_of_mem_replicate hc]
    rfl
  rw [leadingWidth, List.takeWhile_append_of_pos hblank, List.length_append, List.length_replicate, leadingWidth]

theorem Indented.leadingWidth_eq {indent : ℕ} {line : List Char} (h : Indented indent line) :
    leadingWidth line = indent := by
  obtain ⟨c, rest, rfl, hc⟩ := h.leading
  rw [leadingWidth_replicate_append, leadingWidth_cons rest hc (h.printable c (by simp)), Nat.add_zero]

/-! ## Where a line breaks -/

theorem getElem?_lastIndex? {c : Char} {text : List Char} {i : ℕ} (h : lastIndex? c text = some i) :
    text[i]? = some c := by
  induction text generalizing i with
  | nil => cases h
  | cons d rest ih =>
    rw [lastIndex?] at h
    -- a place in the rest is one further on here
    cases hrest : lastIndex? c rest with
    | some j =>
      rw [hrest, Option.some.injEq] at h
      rw [← h, List.getElem?_cons_succ]
      exact ih hrest
    | none =>
      rw [hrest] at h
      split_ifs at h with hd
      cases h
      rw [hd, List.getElem?_cons_zero]

/-- A line breaks at the width, or behind a space that lies beyond the indentation. -/
theorem breakAt_cases (width indent : ℕ) (text : List Char) :
    breakAt width indent text = width ∨
      ∃ i, breakAt width indent text = i + 1 ∧ indent < i ∧ text[i]? = some ' ' := by
  unfold breakAt
  cases hlast : lastIndex? ' ' (text.take (width + 1)) with
  | none => exact .inl rfl
  | some i =>
    have hspace := getElem?_lastIndex? hlast
    rw [List.getElem?_take] at hspace
    split_ifs at hspace
    by_cases hi : indent < i
    · exact .inr ⟨i, if_pos hi, hi, hspace⟩
    · exact .inl (if_neg hi)

theorem segmentLength_eq (width indent : ℕ) (text : List Char) :
    segmentLength width indent text =
      breakAt width indent text + ((text.drop (breakAt width indent text)).takeWhile (· = ' ')).length := rfl

/-- Behind the first segment stand no spaces. -/
theorem drop_segmentLength (width indent : ℕ) (text : List Char) :
    text.drop (segmentLength width indent text) = (text.drop (breakAt width indent text)).dropWhile (· = ' ') := by
  rw [segmentLength_eq, ← List.drop_drop, Text.drop_length_takeWhile]

theorem one_le_segmentLength {width : ℕ} (hwidth : 1 ≤ width) (indent : ℕ) (text : List Char) :
    1 ≤ segmentLength width indent text := by
  rw [segmentLength_eq]
  rcases breakAt_cases width indent text with h | ⟨i, h, -, -⟩ <;> omega

/-- The first segment has all of the indentation, though it may be wider than the view. -/
theorem le_segmentLength (width indent : ℕ) (c : Char) (rest : List Char) :
    indent ≤ segmentLength width indent (List.replicate indent ' ' ++ c :: rest) := by
  rw [segmentLength_eq]
  rcases breakAt_cases width indent (List.replicate indent ' ' ++ c :: rest) with h | ⟨i, h, hi, -⟩
  · rw [h]
    by_cases hwidth : indent ≤ width
    · omega
    · -- the blanks behind the break are a run that stays with the segment
      have hdrop : (List.replicate indent ' ' ++ c :: rest).drop width =
          List.replicate (indent - width) ' ' ++ c :: rest := by
        rw [List.drop_append_of_le_length (by simp; omega), List.drop_replicate]
      have hblank : ∀ d ∈ List.replicate (indent - width) ' ', decide (d = ' ') = true := by
        intro d hd
        simpa using List.eq_of_mem_replicate hd
      rw [hdrop, List.takeWhile_append_of_pos hblank, List.length_append, List.length_replicate]
      omega
  · omega

/-! ## Segments -/

/-- The segments of a line: the first has its indentation, and the others continue it at column zero. -/
structure Cut (indent : ℕ) (line : List Char) (first : Line) (others : List Line) : Prop where
  starts : first.continuation = false
  indented : leadingWidth first.text = indent
  continued : ∀ s ∈ others, s.continuation = true ∧ leadingWidth s.text = 0
  whole : first.text ++ others.flatMap (·.text) = line

/-- What continues a line is put together again, and no part of it is indented. -/
theorem continuations_spec {width : ℕ} (hwidth : 1 ≤ width) {n : ℕ} {text : List Char} (hn : text.length ≤ n)
    (hstart : StopsAt (· = ' ') text) (hprint : ∀ c ∈ text, 32 ≤ c.toNat) :
    (continuations width n text).flatMap (·.text) = text ∧
      ∀ s ∈ continuations width n text, s.continuation = true ∧ leadingWidth s.text = 0 := by
  induction n generalizing text with
  | zero =>
    obtain rfl : text = [] := List.length_eq_zero_iff.1 (Nat.le_zero.1 hn)
    simp [continuations]
  | succ n ih =>
    cases text with
    | nil => simp [continuations]
    | cons c rest =>
      have hspace : c ≠ ' ' := by simpa using hstart
      have hc : 32 ≤ c.toNat := hprint c (by simp)
      rw [continuations, if_neg (by simp)]
      by_cases hfits : (c :: rest).length ≤ width
      · rw [if_pos hfits]
        simpa using leadingWidth_cons rest hspace hc
      · rw [if_neg hfits]
        obtain ⟨k, hk⟩ : ∃ k, segmentLength width 0 (c :: rest) = k + 1 :=
          Nat.exists_eq_add_of_le' (one_le_segmentLength hwidth 0 _)
        have hbehind : StopsAt (· = ' ') ((c :: rest).drop (segmentLength width 0 (c :: rest))) := by
          rw [drop_segmentLength]
          apply Text.stopsAt_dropWhile
        -- every segment takes at least one character, so the rest is shorter
        have hlength : ((c :: rest).drop (segmentLength width 0 (c :: rest))).length ≤ n := by
          rw [List.length_drop, hk]
          simp only [List.length_cons] at hn ⊢
          omega
        obtain ⟨htext, hothers⟩ := ih hlength hbehind fun d hd => hprint d (List.mem_of_mem_drop hd)
        constructor
        · rw [List.flatMap_cons, htext, List.take_append_drop]
        · intro s hs
          rcases List.mem_cons.1 hs with rfl | hs
          · refine ⟨rfl, ?_⟩
            rw [hk, List.take_succ_cons]
            exact leadingWidth_cons _ hspace hc
          · exact hothers s hs

/-- Wrapping cuts a line into its segments. -/
theorem wrapOne_eq_cons {indent : ℕ} {line : List Char} (h : Indented indent line) (width : ℤ) :
    ∃ first others, wrapOne width line = first :: others ∧ Cut indent line first others := by
  unfold wrapOne
  by_cases hfits : width ≤ 0 ∨ (line.length : ℤ) ≤ width
  · rw [if_pos (by simpa using hfits)]
    exact ⟨_, [], rfl, rfl, h.leadingWidth_eq, by simp, by simp⟩
  · rw [if_neg (by simpa using hfits), h.leadingWidth_eq]
    rw [not_or, not_le, not_le] at hfits
    have hwidth : 1 ≤ width.toNat := by omega
    have hbehind : StopsAt (· = ' ') (line.drop (segmentLength width.toNat indent line)) := by
      rw [drop_segmentLength]
      apply Text.stopsAt_dropWhile
    have hprint : ∀ c ∈ line.drop (segmentLength width.toNat indent line), 32 ≤ c.toNat :=
      fun c hc => h.printable c (List.mem_of_mem_drop hc)
    obtain ⟨htext, hothers⟩ := continuations_spec hwidth (show _ ≤ line.length by simp) hbehind hprint
    refine ⟨_, _, rfl, rfl, ?_, hothers, ?_⟩
    · -- the cut never lies inside of the indentation
      obtain ⟨c, rest, rfl, hc⟩ := h.leading
      have hle := le_segmentLength width.toNat indent c rest
      show leadingWidth ((List.replicate indent ' ' ++ c :: rest).take _) = indent
      rw [List.take_append, List.length_replicate, List.take_of_length_le (by simpa using hle),
        leadingWidth_replicate_append]
      cases segmentLength width.toNat indent (List.replicate indent ' ' ++ c :: rest) - indent with
      | zero => rfl
      | succ k => rw [List.take_succ_cons, leadingWidth_cons _ hc (h.printable c (by simp)), Nat.add_zero]
    · rw [htext, List.take_append_drop]

/-- A line is left whole if the width is not positive or the line fits. -/
theorem wrapOne_of_le {width : ℤ} {line : List Char} (h : width ≤ 0 ∨ (line.length : ℤ) ≤ width) :
    wrapOne width line = [⟨line, leadingWidth line, false⟩] := by
  unfold wrapOne
  rw [if_pos (by simpa using h)]

/-- A line that is too long and does not end in a space has more than one segment. -/
theorem one_lt_length_wrapOne {width : ℤ} {front : List Char} {c : Char} (hc : c ≠ ' ') (hwidth : 0 < width)
    (hlong : width < ((front ++ [c]).length : ℤ)) : 1 < (wrapOne width (front ++ [c])).length := by
  generalize hline : front ++ [c] = line at hlong ⊢
  generalize hindent : leadingWidth line = indent
  -- the break lies in front of the last character
  have hbreak : breakAt width.toNat indent line < line.length := by
    rcases breakAt_cases width.toNat indent line with h | ⟨i, h, -, hi⟩
    · omega
    · obtain ⟨hlt, hget⟩ := List.getElem?_eq_some_iff.1 hi
      by_contra hge
      have hlast : i = front.length := by
        have hlength : line.length = front.length + 1 := by simp [← hline]
        omega
      subst hlast
      rw [← hline, List.getElem?_append_right le_rfl, Nat.sub_self] at hi
      exact hc (by simpa using hi)
  have hmem : c ∈ line.drop (segmentLength width.toNat indent line) := by
    rw [drop_segmentLength]
    apply Text.mem_dropWhile
    · rw [← hline] at hbreak ⊢
      rw [List.length_append, List.length_singleton] at hbreak
      rw [List.drop_append_of_le_length (by omega)]
      simp
    · simpa using hc
  have hne : continuations width.toNat line.length (line.drop (segmentLength width.toNat indent line)) ≠ [] := by
    obtain ⟨n, hn⟩ : ∃ n, line.length = n + 1 := ⟨front.length, by simp [← hline]⟩
    rw [hn, continuations, if_neg (List.ne_nil_of_mem hmem)]
    split_ifs <;> simp
  unfold wrapOne
  rw [if_neg (by simp; omega), hindent]
  simpa [List.length_pos_iff] using hne

end DocBrowser.Line
