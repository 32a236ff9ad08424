import Mathlib
import DocBrowser.Proofs.Navigator.Wrapping
/-!
# Wrapping loses nothing

A line that is too long is cut, and so is what is left of it, until the rest fits. Every cut takes at least one
character off the rest, whatever the characters are, so that this comes to an end at any width. The segments put
together are the text again, unless one of its lines ends in a carriage return, which is dropped.
-/

namespace DocBrowser.Line

/-! ## Cutting until the rest fits

The runs below go on for as long as the rest of a line is too long; nothing bounds the number of their cuts. -/

/-- The rest of a line is cut into segments that continue the line. -/
inductive Continued (width : ℕ) : List Char → List Line → Prop where
  | done : Continued width [] []
  | fits {rest : List Char} (hne : rest ≠ []) (hfits : rest.length ≤ width) :
    Continued width rest [⟨rest, 0, true⟩]
  | cut {rest : List Char} {segments : List Line} (hlong : width < rest.length)
    (hbehind : Continued width (rest.drop (segmentLength width 0 rest)) segments) :
    Continued width rest (⟨rest.take (segmentLength width 0 rest), 0, true⟩ :: segments)

/-- A line is cut into its segments; the first one keeps the indentation. -/
inductive Wrapped (width : ℤ) : List Char → List Line → Prop where
  | whole {line : List Char} (hfits : width ≤ 0 ∨ (line.length : ℤ) ≤ width) :
    Wrapped width line [⟨line, leadingWidth line, false⟩]
  | cut {line first : List Char} {segments : List Line} (hwidth : 0 < width) (hlong : width < (line.length : ℤ))
    (hfirst : first = line.take (segmentLength width.toNat (leadingWidth line) line))
    (hbehind : Continued width.toNat (line.drop (segmentLength width.toNat (leadingWidth line) line)) segments) :
    Wrapped width line (⟨first, leadingWidth first, false⟩ :: segments)

/-- The lines of a text are cut one by one, without the carriage returns at their ends. -/
def WrapsTo (width : ℤ) (text : List Char) (lines : List Line) : Prop :=
  ∃ segments, List.Forall₂ (fun line => Wrapped width (Text.dropEndWhile (· = '\r') line)) (Text.splitAt '\n' text)
    segments ∧ lines = segments.flatten

/-! ## One line -/

/-- A cut leaves less than there was. -/
theorem length_drop_segmentLength_lt {width : ℕ} (hwidth : 1 ≤ width) (indent : ℕ) {rest : List Char}
    (hlong : width < rest.length) : (rest.drop (segmentLength width indent rest)).length < rest.length := by
  have hcut := one_le_segmentLength hwidth indent rest
  rw [List.length_drop]
  omega

/-- A bound that is the length of the rest is never met: the rest is cut until it fits. -/
theorem continued_continuations {width : ℕ} (hwidth : 1 ≤ width) {bound : ℕ} {rest : List Char}
    (hbound : rest.length ≤ bound) : Continued width rest (continuations width bound rest) := by
  induction bound generalizing rest with
  | zero =>
    have hnil : rest = [] := List.length_eq_zero_iff.1 (Nat.le_zero.1 hbound)
    rw [hnil]
    exact .done
  | succ bound ih =>
    unfold continuations
    by_cases hnil : rest = []
    · rw [if_pos hnil, hnil]
      exact .done
    · rw [if_neg hnil]
      by_cases hfits : rest.length ≤ width
      · rw [if_pos hfits]
        exact .fits hnil hfits
      · rw [if_neg hfits]
        rw [not_le] at hfits
        -- a cut takes at least one character, so the bound suffices for the rest
        have hless := length_drop_segmentLength_lt hwidth 0 hfits
        apply Continued.cut hfits
        apply ih
        omega

theorem wrapped_wrapOne (width : ℤ) (line : List Char) : Wrapped width line (wrapOne width line) := by
  by_cases hfits : width ≤ 0 ∨ (line.length : ℤ) ≤ width
  · rw [wrapOne_of_le hfits]
    exact .whole hfits
  · have hlong := not_or.1 hfits
    rw [not_le, not_le] at hlong
    unfold wrapOne
    rw [if_neg (by simpa using hfits)]
    have hwidth : 1 ≤ width.toNat := by omega
    apply Wrapped.cut hlong.1 hlong.2 rfl
    apply continued_continuations hwidth
    rw [List.length_drop]
    omega

/-- There is one way to cut the rest of a line. -/
theorem Continued.unique {width : ℕ} {rest : List Char} {segments others : List Line}
    (h : Continued width rest segments) (h' : Continued width rest others) : segments = others := by
  -- nothing left, a rest that fits and one that is too long exclude each other
  induction h generalizing others with
  | done =>
    cases h' with
    | done => rfl
    | fits hne => exact absurd rfl hne
    | cut hlong => exact absurd hlong (Nat.not_lt_zero _)
  | fits hne hfits =>
    cases h' with
    | done => exact absurd rfl hne
    | fits => rfl
    | cut hlong => exact absurd hfits (not_le.2 hlong)
  | cut hlong hbehind ih =>
    cases h' with
    | done => exact absurd hlong (Nat.not_lt_zero _)
    | fits hne hfits => exact absurd hfits (not_le.2 hlong)
    | cut hlong' hbehind' => rw [ih hbehind']

theorem Wrapped.unique {width : ℤ} {line : List Char} {segments others : List Line} (h : Wrapped width line segments)
    (h' : Wrapped width line others) : segments = others := by
  cases h with
  | whole hfits =>
    cases h' with
    | whole => rfl
    | cut hwidth hlong => omega
  | cut hwidth hlong hfirst hbehind =>
    cases h' with
    | whole hfits => omega
    | cut hwidth' hlong' hfirst' hbehind' => rw [hfirst, hfirst', hbehind.unique hbehind']

/-- Segments that continue a line are marked so, and put together they are what was cut. -/
theorem Continued.whole {width : ℕ} {rest : List Char} {segments : List Line} (h : Continued width rest segments) :
    segments.flatMap (fun s => s.separator ++ s.text) = rest := by
  induction h with
  | done => rfl
  | fits => simp [separator]
  | cut hlong hbehind ih =>
    rw [List.flatMap_cons, ih]
    exact List.take_append_drop _ _

/-- Only the first segment of a line has a newline in front of it. -/
theorem Wrapped.exists_first {width : ℤ} {line : List Char} {segments : List Line} (h : Wrapped width line segments) :
    ∃ first others, segments = first :: others ∧ first.separator = ['\n'] ∧
      first.text ++ others.flatMap (fun s => s.separator ++ s.text) = line := by
  cases h with
  | whole => exact ⟨_, [], rfl, rfl, List.append_nil _⟩
  | cut hwidth hlong hfirst hbehind =>
    refine ⟨_, _, rfl, rfl, ?_⟩
    rw [hbehind.whole, hfirst]
    exact List.take_append_drop _ _

/-! ## All lines -/

/-- The cutting of a text ends with its wrapped lines. -/
theorem wrapsTo_iff {width : ℤ} {text : List Char} {lines : List Line} :
    WrapsTo width text lines ↔ lines = wrap width text := by
  constructor
  · rintro ⟨segments, hsegments, rfl⟩
    -- each line has one way to be wrapped, so the segments are those of the function
    have hmap : segments =
        (Text.splitAt '\n' text).map fun line => wrapOne width (Text.dropEndWhile (· = '\r') line) := by
      rw [← List.forall₂_eq_eq_eq, List.forall₂_map_right_iff]
      apply hsegments.flip.imp
      intro segment line hline
      exact hline.unique (wrapped_wrapOne width _)
    rw [hmap]
    rfl
  · rintro rfl
    refine ⟨(Text.splitAt '\n' text).map fun line => wrapOne width (Text.dropEndWhile (· = '\r') line), ?_, rfl⟩
    rw [List.forall₂_map_right_iff, List.forall₂_same]
    intro line _
    exact wrapped_wrapOne width _

/-- Wrapped lines put together are the lines, without the carriage returns at their ends. -/
theorem join_wrap (width : ℤ) (text : List Char) :
    join (wrap width text) = Text.joinWith ['\n'] ((Text.splitAt '\n' text).map (Text.dropEndWhile (· = '\r'))) := by
  have hlines (lines : List (List Char)) :
      (lines.flatMap fun line => wrapOne width (Text.dropEndWhile (· = '\r') line)).flatMap
        (fun s => s.separator ++ s.text) = (lines.map (Text.dropEndWhile (· = '\r'))).flatMap ('\n' :: ·) := by
    rw [List.flatMap_assoc, List.flatMap_map]
    apply List.flatMap_congr
    intro line _
    obtain ⟨first, others, hsegments, hseparator, hwhole⟩ :=
      (wrapped_wrapOne width (Text.dropEndWhile (· = '\r') line)).exists_first
    rw [hsegments, List.flatMap_cons, hseparator, ← hwhole]
    rfl
  obtain ⟨line, rest, hcons⟩ := List.exists_cons_of_ne_nil (Text.splitAt_ne_nil '\n' text)
  have hall := hlines (line :: rest)
  obtain ⟨first, others, hsegments, hseparator, -⟩ :=
    (wrapped_wrapOne width (Text.dropEndWhile (· = '\r') line)).exists_first
  unfold wrap
  -- the first segment of all has nothing in front of it
  rw [List.flatMap_cons, hsegments, List.cons_append, List.flatMap_cons, hseparator, List.map_cons,
    List.flatMap_cons] at hall
  rw [hcons, List.flatMap_cons, hsegments, List.cons_append, join, List.map_cons, Text.joinWith_cons]
  exact List.cons_injective hall

/--
Cutting a text comes to an end at any width, with the wrapped lines and no others. Put together, these are the text
exactly if none of its lines ends in a carriage return.
-/
theorem wrapsTo_and_join_wrap_iff (width : ℤ) (text : List Char) :
    (∀ lines, WrapsTo width text lines ↔ lines = wrap width text) ∧
      (join (wrap width text) = text ↔ ∀ line ∈ Text.splitAt '\n' text, line.getLast? ≠ some '\r') := by
  refine ⟨fun lines => wrapsTo_iff, ?_⟩
  have hsame : (Text.splitAt '\n' text).map (Text.dropEndWhile (· = '\r')) = Text.splitAt '\n' text ↔
      ∀ line ∈ Text.splitAt '\n' text, line.getLast? ≠ some '\r' := by
    calc _ ↔ (Text.splitAt '\n' text).map (Text.dropEndWhile (· = '\r')) = (Text.splitAt '\n' text).map id := by
          rw [List.map_id]
      _ ↔ ∀ line ∈ Text.splitAt '\n' text, Text.dropEndWhile (· = '\r') line = line := List.map_inj_left
      _ ↔ _ := by simp only [Text.dropEndWhile_eq_self_iff]
  rw [← hsame, join_wrap]
  constructor
  · intro h
    -- what is left of the lines holds no newline either, so it is found again in the text
    have hpieces : ∀ piece ∈ (Text.splitAt '\n' text).map (Text.dropEndWhile (· = '\r')), '\n' ∉ piece := by
      intro piece hpiece
      obtain ⟨line, hline, rfl⟩ := List.mem_map.1 hpiece
      intro hmem
      exact Text.not_mem_of_mem_splitAt hline ((Text.dropEndWhile_sublist _ line).subset hmem)
    have hne : (Text.splitAt '\n' text).map (Text.dropEndWhile (· = '\r')) ≠ [] := by
      simpa using Text.splitAt_ne_nil '\n' text
    rw [← Text.splitAt_joinWith hne hpieces, h]
  · intro h
    rw [h, Text.joinWith_splitAt]

example : join (wrap 3 "ab cde\r\nf".toList) = "ab cde\nf".toList := by decide

end DocBrowser.Line
