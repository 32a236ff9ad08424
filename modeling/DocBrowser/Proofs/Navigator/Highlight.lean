import Mathlib
import DocBrowser.Navigator.Highlight
import DocBrowser.Proofs.Navigator.Wrapping
/-!
# Lines of a value on the screen

Counting from the first line of a value stops behind the line that closes it, unless a segment in
between looks like the end of the document. All segments are counted where there is no such segment
and the closing line is not cut.
-/

namespace DocBrowser.Highlight

open Line (leadingWidth wrapOne wrapOne_eq_cons Indented Cut)

variable {indent : ℕ}

theorem closesAll_of_pos {line : List Char} (h : 0 < leadingWidth line) : closesAll line = false := by
  simp [closesAll, Nat.ne_of_gt h]

/-! ## One line more -/

/-- Counting does not start at a line: it closes the document, or it is no deeper than a value. -/
def Ends (indent : ℕ) (line : List Char) : Prop :=
  closesAll line = true ∨ (0 < leadingWidth line ∧ leadingWidth line ≤ indent)

theorem countBelow_of_ends {next : List Char} (rest : List (List Char)) (h : Ends indent next) :
    countBelow indent (next :: rest) = 0 := by
  rcases h with h | ⟨hpos, hle⟩
  · simp [countBelow, h]
  · simp [countBelow, closesAll_of_pos hpos, Nat.ne_of_gt hpos, Nat.not_lt.2 hle]

theorem countBelow_of_lt {line : List Char} (rest : List (List Char)) (h : indent < leadingWidth line) :
    countBelow indent (line :: rest) = countNested indent rest + 1 := by
  have hpos : 0 < leadingWidth line := by omega
  simp [countBelow, closesAll_of_pos hpos, Nat.ne_of_gt hpos, h]

theorem countNested_of_eq (hindent : 0 < indent) {line : List Char} (rest : List (List Char))
    (h : leadingWidth line = indent) : countNested indent (line :: rest) = 1 := by
  have hpos : 0 < leadingWidth line := by omega
  simp [countNested, closesAll_of_pos hpos, h]

/-- A line that may stand behind a value: the end of the document, or a line that is no deeper. -/
def Behind (indent : ℕ) (line : List Char) : Prop :=
  line = ['\x7d'] ∨ ∃ less, 0 < less ∧ less ≤ indent ∧ Indented less line

/-- At any width the value in front of such a line ends at its first segment. -/
theorem Behind.ends {line : List Char} (h : Behind indent line) (width : ℤ) :
    ∃ first others, wrapOne width line = first :: others ∧ Ends indent first.text := by
  rcases h with rfl | ⟨less, hpos, hle, hindented⟩
  · have hfits : width ≤ 0 ∨ (['\x7d'].length : ℤ) ≤ width := by
      simp only [List.length_singleton, Nat.cast_one]
      omega
    exact ⟨_, [], Line.wrapOne_of_le hfits, .inl rfl⟩
  · obtain ⟨first, others, hsegments, hcut⟩ := wrapOne_eq_cons hindented width
    have hindent := hcut.indented
    exact ⟨first, others, hsegments, .inr (by omega)⟩

/-! ## Many lines more -/

theorem countBelow_append {lines : List (List Char)} (rest : List (List Char))
    (h : ∀ line ∈ lines, closesAll line = false ∧ leadingWidth line = 0) :
    countBelow indent (lines ++ rest) = lines.length + countBelow indent rest := by
  induction lines with
  | nil => simp
  | cons line lines ih =>
    obtain ⟨hcloses, hzero⟩ := h line (by simp)
    rw [List.cons_append, countBelow]
    simp only [hcloses, hzero, Bool.false_eq_true, if_false, if_true, ih fun x hx => h x (List.mem_cons_of_mem _ hx),
      List.length_cons]
    omega

theorem countNested_append {lines : List (List Char)} (rest : List (List Char)) (hindent : 0 < indent)
    (h : ∀ line ∈ lines, closesAll line = false ∧ (leadingWidth line = 0 ∨ indent < leadingWidth line)) :
    countNested indent (lines ++ rest) = lines.length + countNested indent rest := by
  induction lines with
  | nil => simp
  | cons line lines ih =>
    obtain ⟨hcloses, hwidth⟩ := h line (by simp)
    have hinside : ¬ (0 < leadingWidth line ∧ leadingWidth line < indent) := by omega
    have hdeeper : leadingWidth line ≠ indent := by omega
    rw [List.cons_append, countNested]
    simp only [hcloses, hinside, hdeeper, Bool.false_eq_true, if_false, Bool.and_eq_true, decide_eq_true_eq,
      ih fun x hx => h x (List.mem_cons_of_mem _ hx), List.length_cons]
    omega

/-- No line that is counted closes the document. -/
theorem closesAll_of_mem_take_countNested (indent : ℕ) (lines : List (List Char)) :
    ∀ line ∈ lines.take (countNested indent lines), closesAll line = false := by
  induction lines with
  | nil => simp
  | cons line lines ih =>
    rw [countNested]
    by_cases hcloses : closesAll line = true
    · simp [hcloses]
    · rw [if_neg hcloses]
      rw [Bool.not_eq_true] at hcloses
      split_ifs
      · simp
      · simpa using hcloses
      · simpa using ⟨hcloses, ih⟩

@[inherit_doc closesAll_of_mem_take_countNested]
theorem closesAll_of_mem_take_countBelow (indent : ℕ) (lines : List (List Char)) :
    ∀ line ∈ lines.take (countBelow indent lines), closesAll line = false := by
  induction lines with
  | nil => simp
  | cons line lines ih =>
    rw [countBelow]
    by_cases hcloses : closesAll line = true
    · simp [hcloses]
    · rw [if_neg hcloses]
      rw [Bool.not_eq_true] at hcloses
      split_ifs
      · simpa using ⟨hcloses, ih⟩
      · simpa using ⟨hcloses, closesAll_of_mem_take_countNested indent lines⟩
      · simp

/-- If all segments in front of other lines are counted, then none of them closes the document. -/
theorem closesAll_of_countBelow_eq {segments : List Line} {rest : List (List Char)}
    (h : countBelow indent (segments.map (·.text) ++ rest) = segments.length) :
    ∀ s ∈ segments, closesAll s.text = false := by
  have htake := closesAll_of_mem_take_countBelow indent (segments.map (·.text) ++ rest)
  rw [h, ← List.length_map (·.text), List.take_left] at htake
  intro s hs
  exact htake s.text (List.mem_map_of_mem hs)

/-! ## The segments of a value -/

/-- Segments that continue a line stand at column zero. -/
theorem forall_continued {line : List Char} {first : Line} {others : List Line} (hcut : Cut indent line first others)
    (h : ∀ s ∈ others, s.continuation = true → closesAll s.text = false) :
    ∀ text ∈ others.map (·.text), closesAll text = false ∧ leadingWidth text = 0 := by
  intro text htext
  obtain ⟨s, hs, rfl⟩ := List.mem_map.1 htext
  obtain ⟨hcontinues, hzero⟩ := hcut.continued s hs
  exact ⟨h s hs hcontinues, hzero⟩

/-- Of a value on one line all segments are counted, unless one of them closes the document. -/
theorem countBelow_line_iff {line next : List Char} {first : Line} {others : List Line} (rest : List (List Char))
    (hcut : Cut indent line first others) (hends : Ends indent next) :
    countBelow indent (others.map (·.text) ++ next :: rest) = others.length ↔
      ∀ s ∈ first :: others, s.continuation = true → closesAll s.text = false := by
  constructor
  · intro hcount s hs hcontinues
    rcases List.mem_cons.1 hs with rfl | hs
    · simp [hcut.starts] at hcontinues
    · exact closesAll_of_countBelow_eq hcount s hs
  · intro hcloses
    have hothers := forall_continued hcut fun s hs => hcloses s (List.mem_cons_of_mem _ hs)
    rw [countBelow_append _ hothers, countBelow_of_ends _ hends, List.length_map, Nat.add_zero]

/-- A segment of the lines between the brackets of a value. -/
def Deeper (indent : ℕ) (s : Line) : Prop :=
  (s.continuation = true ∧ leadingWidth s.text = 0) ∨ (s.continuation = false ∧ indent < leadingWidth s.text)

theorem deeper_of_mem (width : ℤ) {lines : List (List Char)}
    (h : ∀ line ∈ lines, ∃ deeper, indent < deeper ∧ Indented deeper line) :
    ∀ s ∈ lines.flatMap (wrapOne width), Deeper indent s := by
  intro s hs
  obtain ⟨line, hline, hs⟩ := List.mem_flatMap.1 hs
  obtain ⟨deeper, hdeeper, hindented⟩ := h line hline
  obtain ⟨first, others, hsegments, hcut⟩ := wrapOne_eq_cons hindented width
  rw [hsegments, List.mem_cons] at hs
  rcases hs with rfl | hs
  · have hindent := hcut.indented
    exact .inr ⟨hcut.starts, by omega⟩
  · exact .inl (hcut.continued s hs)

section

variable {line close : List Char} {first inner last : Line} {others middle more : List Line} (rest : List (List Char))
  (hindent : 0 < indent) (hcut : Cut indent line first others) (hinner : indent < leadingWidth inner.text)
  (hmiddle : ∀ s ∈ middle, Deeper indent s) (hclose : Cut indent close last more)

include hindent hcut hinner hmiddle hclose

/-- Counting goes through to the first segment of the closing line, where no segment closes the document. -/
theorem countBelow_brackets (hothers : ∀ s ∈ others, s.continuation = true → closesAll s.text = false)
    (hinside : ∀ s ∈ middle, s.continuation = true → closesAll s.text = false) :
    countBelow indent ((others ++ inner :: (middle ++ last :: more)).map (·.text) ++ rest) =
      others.length + middle.length + 2 := by
  -- up to the first deeper segment all others continue the opening line
  have hfront := forall_continued hcut hothers
  have hnested : ∀ text ∈ middle.map (·.text),
      closesAll text = false ∧ (leadingWidth text = 0 ∨ indent < leadingWidth text) := by
    intro text htext
    obtain ⟨s, hs, rfl⟩ := List.mem_map.1 htext
    rcases hmiddle s hs with ⟨hcontinues, hzero⟩ | ⟨-, hdeeper⟩
    · exact ⟨hinside s hs hcontinues, .inl hzero⟩
    · exact ⟨closesAll_of_pos (by omega), .inr hdeeper⟩
  simp only [List.map_append, List.map_cons, List.append_assoc, List.cons_append]
  rw [countBelow_append _ hfront, countBelow_of_lt _ hinner, countNested_append _ hindent hnested,
    countNested_of_eq hindent _ hclose.indented, List.length_map, List.length_map]
  omega

/--
Of a value between brackets all segments are counted, unless one of them closes the document or the
line of the closing bracket is cut.
-/
theorem countBelow_brackets_iff :
    countBelow indent ((others ++ inner :: (middle ++ last :: more)).map (·.text) ++ rest) =
        (others ++ inner :: (middle ++ last :: more)).length ↔
      (∀ s ∈ first :: (others ++ inner :: (middle ++ last :: more)),
        s.continuation = true → closesAll s.text = false) ∧ more = [] := by
  constructor
  · -- what is counted closes nothing, so counting goes to the closing line and one segment further
    intro hall
    have hcloses := closesAll_of_countBelow_eq hall
    rw [countBelow_brackets rest hindent hcut hinner hmiddle hclose (fun s hs _ => hcloses s (by simp [hs]))
      fun s hs _ => hcloses s (by simp [hs])] at hall
    simp only [List.length_append, List.length_cons] at hall
    refine ⟨?_, List.length_eq_zero_iff.1 (by omega)⟩
    intro s hs hcontinues
    rcases List.mem_cons.1 hs with rfl | hs
    · simp [hcut.starts] at hcontinues
    · exact hcloses s hs
  · rintro ⟨hcloses, rfl⟩
    rw [countBelow_brackets rest hindent hcut hinner hmiddle hclose (fun s hs => hcloses s (by simp [hs]))
      fun s hs => hcloses s (by simp [hs])]
    simp only [List.length_append, List.length_cons, List.length_nil]
    omega

end

/-! ## The highlighted range -/

/-- Below a line with an indentation, the range ends where counting does. -/
theorem range_of_pos (before : List (List Char)) {line : List Char} (behind : List (List Char)) (hne : before ≠ [])
    (hline : leadingWidth line = indent) (hindent : 0 < indent) :
    range (before ++ line :: behind) before.length =
      (before.length, before.length + countBelow indent behind + 1) := by
  have hget : (before ++ line :: behind)[before.length]? = some line := by simp
  have hdrop : (before ++ line :: behind).drop (before.length + 1) = behind := by simp
  have hpos : before.length ≠ 0 := by simpa using hne
  rw [range, if_pos (by simp), linesBelow, hget]
  simp only [hline, hpos, Nat.ne_of_gt hindent, if_false, hdrop]

/-- On the first line all lines are highlighted. -/
theorem range_zero {lines : List (List Char)} (hne : lines ≠ []) : range lines 0 = (0, lines.length) := by
  obtain ⟨line, rest, rfl⟩ := List.exists_cons_of_ne_nil hne
  simp [range, linesBelow]

end DocBrowser.Highlight
