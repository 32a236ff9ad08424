import Mathlib
import DocBrowser.Proofs.Navigator.Lossless
/-!
# Where lines break

What is left of a line may be too long for the view. It then breaks behind the last space that stands behind
its indentation and among as many characters as fit and one more, and at the width if there is none. The spaces
behind the break stay in front of it. So no segment that continues a line starts with a space, and all of them
fit into the view but for the spaces at their ends.
-/

namespace DocBrowser.Line

open Text (StopsAt)

/-! ## The last space -/

theorem lastIndex?_eq_none {c : Char} {text : List Char} (h : lastIndex? c text = none) : c ∉ text := by
  induction text with
  | nil => exact List.not_mem_nil
  | cons d rest ih =>
    rw [lastIndex?] at h
    cases hrest : lastIndex? c rest with
    | some i => simp [hrest] at h
    | none =>
      rw [hrest] at h
      split_ifs at h with hd
      exact List.not_mem_cons_of_ne_of_not_mem (Ne.symm hd) (ih hrest)

/-- Behind the last occurrence of a character there is no other one. -/
theorem le_of_lastIndex? {c : Char} {text : List Char} {i j : ℕ} (h : lastIndex? c text = some i)
    (hj : text[j]? = some c) : j ≤ i := by
  induction text generalizing i j with
  | nil => cases h
  | cons d rest ih =>
    rw [lastIndex?] at h
    cases j with
    | zero => exact Nat.zero_le i
    | succ j =>
      rw [List.getElem?_cons_succ] at hj
      -- the rest is searched first, so a place in it wins over this one
      cases hrest : lastIndex? c rest with
      | some k =>
        rw [hrest, Option.some.injEq] at h
        rw [← h]
        exact Nat.succ_le_succ (ih hrest hj)
      | none => exact absurd (List.mem_of_getElem? hj) (lastIndex?_eq_none hrest)

/-- A space stands behind the indentation of a text, among as many characters as fit into a view and one more. -/
structure SpaceAt (width : ℕ) (rest : List Char) (i : ℕ) : Prop where
  behind : leadingWidth rest ≤ i
  within : i < width + 1
  space : rest[i]? = some ' '

/-- No such space stands further behind. -/
def LastSpaceAt (width : ℕ) (rest : List Char) (i : ℕ) : Prop :=
  SpaceAt width rest i ∧ ∀ j, SpaceAt width rest j → j ≤ i

/-- The indentation ends where no space stands. -/
theorem getElem?_leadingWidth (rest : List Char) : rest[leadingWidth rest]? ≠ some ' ' := by
  intro h
  have hstop := Text.stopsAt_dropWhile isIndent rest
  rw [← Text.drop_length_takeWhile] at hstop
  have hblank : isIndent ' ' = false := hstop ' ' (by rw [List.head?_drop]; exact h)
  cases hblank

/-- A text breaks behind the last such space, and at the width if there is none. -/
theorem breakAt_spec (width : ℕ) (rest : List Char) :
    (∃ i, LastSpaceAt width rest i ∧ breakAt width (leadingWidth rest) rest = i + 1) ∨
      (∀ i, ¬ SpaceAt width rest i) ∧ breakAt width (leadingWidth rest) rest = width := by
  have hmem {j : ℕ} (h : SpaceAt width rest j) : (rest.take (width + 1))[j]? = some ' ' := by
    rw [List.getElem?_take_of_lt h.within]
    exact h.space
  unfold breakAt
  cases hlast : lastIndex? ' ' (rest.take (width + 1)) with
  | none =>
    refine .inr ⟨fun i h => ?_, rfl⟩
    exact lastIndex?_eq_none hlast (List.mem_of_getElem? (hmem h))
  | some i =>
    have hspace := getElem?_lastIndex? hlast
    rw [List.getElem?_take] at hspace
    split_ifs at hspace with hwithin
    by_cases hindent : leadingWidth rest < i
    · refine .inl ⟨i, ⟨⟨hindent.le, hwithin, hspace⟩, fun j h => ?_⟩, if_pos hindent⟩
      exact le_of_lastIndex? hlast (hmem h)
    · -- the last space belongs to the indentation, so that behind the indentation there is none
      refine .inr ⟨fun j h => ?_, if_neg hindent⟩
      have hle := le_of_lastIndex? hlast (hmem h)
      have hbehind := h.behind
      obtain rfl : j = leadingWidth rest := by omega
      exact getElem?_leadingWidth rest h.space

/-! ## What goes onto a segment -/

theorem take_segmentLength (width indent : ℕ) (rest : List Char) :
    rest.take (segmentLength width indent rest) = rest.take (breakAt width indent rest) ++
      (rest.drop (breakAt width indent rest)).takeWhile (· = ' ') := by
  have hrun := List.takeWhile_prefix (· = ' ') (l := rest.drop (breakAt width indent rest))
  rw [segmentLength_eq, List.take_add, ← List.prefix_iff_eq_take.1 hrun]

/-- Where a text without tabs has no space to break behind, it breaks at the width, or behind a wider indentation. -/
theorem segmentLength_of_no_space {width : ℕ} {rest : List Char} (htab : '\t' ∉ rest)
    (hnone : ∀ i, ¬ SpaceAt width rest i) (hbreak : breakAt width (leadingWidth rest) rest = width) :
    segmentLength width (leadingWidth rest) rest = max width (leadingWidth rest) := by
  rw [segmentLength_eq, hbreak]
  rcases le_or_gt (leadingWidth rest) width with hle | hlt
  · have hstop : StopsAt (· = ' ') (rest.drop width) := by
      intro c hc
      rw [List.head?_drop] at hc
      rw [decide_eq_false_iff_not]
      rintro rfl
      exact hnone width ⟨hle, Nat.lt_succ_self width, hc⟩
    rw [Text.takeWhile_of_stopsAt hstop, List.length_nil, max_eq_left hle, Nat.add_zero]
  · -- the break lies in the indentation, and the spaces behind it are the rest of that
    have hindent : ∀ c ∈ (rest.takeWhile isIndent).drop width, decide (c = ' ') = true := by
      intro c hc
      have hmem := List.mem_of_mem_drop hc
      have hblank := List.mem_takeWhile_imp hmem
      rw [isIndent, Bool.or_eq_true] at hblank
      refine hblank.resolve_right fun h => ?_
      rw [decide_eq_true_eq] at h
      exact htab (h ▸ (List.takeWhile_sublist isIndent).subset hmem)
    have hsplit : rest.drop width = (rest.takeWhile isIndent).drop width ++ rest.dropWhile isIndent := by
      conv_lhs => rw [← List.takeWhile_append_dropWhile (p := isIndent) (l := rest)]
      exact List.drop_append_of_le_length hlt.le
    have hstop : StopsAt (· = ' ') (rest.dropWhile isIndent) := by
      apply (Text.stopsAt_dropWhile isIndent rest).mono
      intro c hc
      rw [isIndent, Bool.or_eq_false_iff] at hc
      exact hc.1
    rw [hsplit, Text.takeWhile_run hindent hstop, List.length_drop]
    have hlength : (rest.takeWhile isIndent).length = leadingWidth rest := rfl
    omega

/-- A text without tabs has no indentation if it starts with no space. -/
theorem leadingWidth_of_stopsAt {rest : List Char} (htab : '\t' ∉ rest) (hstart : StopsAt (· = ' ') rest) :
    leadingWidth rest = 0 := by
  have hstop : StopsAt isIndent rest := by
    intro c hc
    have htabs : c ≠ '\t' := by
      rintro rfl
      exact htab (List.mem_of_mem_head? hc)
    rw [isIndent, Bool.or_eq_false_iff]
    exact ⟨hstart c hc, by simpa using htabs⟩
  rw [leadingWidth, Text.takeWhile_of_stopsAt hstop, List.length_nil]

/-- Spaces at the end are dropped. -/
theorem dropEndWhile_append_spaces (cs : List Char) {spaces : List Char} (h : ∀ c ∈ spaces, c = ' ') :
    Text.dropEndWhile (· = ' ') (cs ++ spaces) = Text.dropEndWhile (· = ' ') cs := by
  unfold Text.dropEndWhile
  rw [List.reverse_append, List.dropWhile_append_of_pos fun c hc => by simpa using h c (List.mem_reverse.1 hc)]

theorem getLast?_append_spaces (cs : List Char) {spaces : List Char} (hne : spaces ≠ []) (h : ∀ c ∈ spaces, c = ' ') :
    (cs ++ spaces).getLast? = some ' ' := by
  rw [List.getLast?_append_of_ne_nil _ hne, List.getLast?_eq_some_getLast hne, h _ (List.getLast_mem hne)]

theorem eq_space_of_mem_takeWhile {c : Char} {cs : List Char} (h : c ∈ cs.takeWhile (· = ' ')) : c = ' ' := by
  simpa using List.mem_takeWhile_imp h

/-- In front of a break behind a space stand that space and the spaces that follow it. -/
theorem SpaceAt.take_append {width i : ℕ} {rest : List Char} (h : SpaceAt width rest i) :
    rest.take (i + 1) ++ (rest.drop (i + 1)).takeWhile (· = ' ') =
      rest.take i ++ ' ' :: (rest.drop (i + 1)).takeWhile (· = ' ') := by
  rw [List.take_add_one, h.space, Option.toList_some, List.append_assoc, List.singleton_append]

/-- Without the spaces at its end, a segment fits into the view. -/
theorem length_dropEndWhile_take_segmentLength (width : ℕ) (rest : List Char) :
    (Text.dropEndWhile (· = ' ') (rest.take (segmentLength width (leadingWidth rest) rest))).length ≤ width := by
  have hle (cs : List Char) : (Text.dropEndWhile (· = ' ') cs).length ≤ cs.length :=
    (Text.dropEndWhile_sublist _ cs).length_le
  rw [take_segmentLength]
  rcases breakAt_spec width rest with ⟨i, ⟨hspace, -⟩, hbreak⟩ | ⟨-, hbreak⟩
  · -- the last character in front of the break is a space itself
    rw [hbreak, hspace.take_append, dropEndWhile_append_spaces]
    · have htake := List.length_take_le i rest
      have hwithin := hspace.within
      have hdropped := hle (rest.take i)
      omega
    · exact List.forall_mem_cons.2 ⟨rfl, fun c hc => eq_space_of_mem_takeWhile hc⟩
  · rw [hbreak, dropEndWhile_append_spaces _ fun c hc => eq_space_of_mem_takeWhile hc]
    exact (hle _).trans (List.length_take_le width rest)

/-! ## The shape of a line -/

/-- What goes onto a segment of what is left of a line. -/
structure Breaks (width : ℕ) (rest segment : List Char) : Prop where
  fits : rest.length ≤ width → segment = rest
  /-- The break is behind the last space together with the spaces that follow it. -/
  space : width < rest.length → (∃ i, SpaceAt width rest i) →
    ∃ i, LastSpaceAt width rest i ∧ segment = rest.take (i + 1) ++ (rest.drop (i + 1)).takeWhile (· = ' ')
  hard : width < rest.length → (∀ i, ¬ SpaceAt width rest i) → segment = rest.take (max width (leadingWidth rest))
  /-- A segment ends inside a word only if there is no space to break behind. -/
  word : segment ≠ rest → segment.getLast? ≠ some ' ' → ∀ i, ¬ SpaceAt width rest i

theorem breaks_self {width : ℕ} {rest : List Char} (hfits : rest.length ≤ width) : Breaks width rest rest where
  fits _ := rfl
  space hlong := absurd hfits (not_le.2 hlong)
  hard hlong := absurd hfits (not_le.2 hlong)
  word hne := absurd rfl hne

/-- A text that is too long breaks where its first segment ends. -/
theorem breaks_take_segmentLength {width : ℕ} {rest : List Char} (htab : '\t' ∉ rest) (hlong : width < rest.length) :
    Breaks width rest (rest.take (segmentLength width (leadingWidth rest) rest)) := by
  have hfits (h : rest.length ≤ width) :
      rest.take (segmentLength width (leadingWidth rest) rest) = rest := absurd h (not_le.2 hlong)
  rcases breakAt_spec width rest with ⟨i, hlast, hbreak⟩ | ⟨hnone, hbreak⟩
  · have htake := take_segmentLength width (leadingWidth rest) rest
    rw [hbreak] at htake
    refine ⟨hfits, fun _ _ => ⟨i, hlast, htake⟩, fun _ hnone => absurd hlast.1 (hnone i), fun _ hend => ?_⟩
    -- what is broken behind a space ends in a space
    rw [htake, hlast.1.take_append, getLast?_append_spaces _ (by simp)] at hend
    · exact absurd rfl hend
    · exact List.forall_mem_cons.2 ⟨rfl, fun c hc => eq_space_of_mem_takeWhile hc⟩
  · refine ⟨hfits, fun _ ⟨i, hi⟩ => absurd hi (hnone i), fun _ _ => ?_, fun _ _ => hnone⟩
    rw [segmentLength_of_no_space htab hnone hbreak]

/-- A text is cut into segments, each of which breaks off what is left from there on and fits into the view. -/
structure Segmented (width : ℕ) (rest : List Char) (segments : List Line) : Prop where
  whole : segments.flatMap (·.text) = rest
  /-- No segment is wider than the view without the spaces at its end. -/
  narrow : ∀ s ∈ segments, (Text.dropEndWhile (· = ' ') s.text).length ≤ width
  breaks : ∀ before s behind, segments = before ++ s :: behind → Breaks width ((s :: behind).flatMap (·.text)) s.text

theorem Segmented.cons {width cut : ℕ} {rest : List Char} {first : Line} {segments : List Line}
    (hbreaks : Breaks width rest first.text) (hnarrow : (Text.dropEndWhile (· = ' ') first.text).length ≤ width)
    (hfirst : first.text = rest.take cut) (h : Segmented width (rest.drop cut) segments) :
    Segmented width rest (first :: segments) := by
  have hwhole : (first :: segments).flatMap (·.text) = rest := by
    rw [List.flatMap_cons, h.whole, hfirst, List.take_append_drop]
  refine ⟨hwhole, List.forall_mem_cons.2 ⟨hnarrow, h.narrow⟩, fun before s behind hsplit => ?_⟩
  cases before with
  | nil =>
    obtain ⟨rfl, rfl⟩ := List.cons.inj hsplit
    rw [hwhole]
    exact hbreaks
  | cons _ before => exact h.breaks before s behind (List.cons.inj hsplit).2

/-- What fits is a segment of its own. -/
theorem segmented_singleton {width : ℕ} (segment : Line) (hfits : segment.text.length ≤ width) :
    Segmented width segment.text [segment] := by
  have hnarrow := (Text.dropEndWhile_sublist (· = ' ') segment.text).length_le.trans hfits
  have hnothing : Segmented width (segment.text.drop segment.text.length) [] := by
    rw [List.drop_length]
    exact ⟨rfl, by simp, by simp⟩
  exact .cons (breaks_self hfits) hnarrow List.take_length.symm hnothing

/-- A segment that continues a line stands at column zero and starts with something visible. -/
structure Continues (s : Line) : Prop where
  continuation : s.continuation = true
  indent : s.indent = 0
  ne_nil : s.text ≠ []
  visible : s.text.head? ≠ some ' '

theorem continues_of_stopsAt {text : List Char} (hne : text ≠ []) (hstart : StopsAt (· = ' ') text) :
    Continues ⟨text, 0, true⟩ where
  continuation := rfl
  indent := rfl
  ne_nil := hne
  visible h := by simpa using hstart ' ' h

/-- What is left of a line is cut into segments that continue it. -/
theorem Continued.segmented {width : ℕ} (hwidth : 1 ≤ width) {rest : List Char} {segments : List Line}
    (h : Continued width rest segments) (htab : '\t' ∉ rest) (hstart : StopsAt (· = ' ') rest) :
    Segmented width rest segments ∧ ∀ s ∈ segments, Continues s := by
  induction h with
  | done => exact ⟨⟨rfl, by simp, by simp⟩, by simp⟩
  | @fits rest hne hfits =>
    refine ⟨segmented_singleton ⟨rest, 0, true⟩ hfits, ?_⟩
    simpa using continues_of_stopsAt hne hstart
  | @cut rest segments hlong _ ih =>
    have hindent := leadingWidth_of_stopsAt htab hstart
    have hbehind : StopsAt (· = ' ') (rest.drop (segmentLength width 0 rest)) := by
      rw [drop_segmentLength]
      exact Text.stopsAt_dropWhile _ _
    obtain ⟨hsegmented, hcontinues⟩ := ih (fun hmem => htab (List.mem_of_mem_drop hmem)) hbehind
    have hbreaks := breaks_take_segmentLength htab hlong
    have hnarrow := length_dropEndWhile_take_segmentLength width rest
    rw [hindent] at hbreaks hnarrow
    refine ⟨hsegmented.cons hbreaks hnarrow rfl, List.forall_mem_cons.2 ⟨?_, hcontinues⟩⟩
    -- a segment has at least one character, the first one of what is left
    obtain ⟨c, more, rfl⟩ := List.exists_cons_of_ne_nil (show rest ≠ [] by rintro rfl; simp at hlong)
    obtain ⟨n, hn⟩ := Nat.exists_eq_add_of_le' (one_le_segmentLength hwidth 0 (c :: more))
    rw [hn, List.take_succ_cons]
    exact continues_of_stopsAt (by simp) (by simpa using hstart)

/-- A line is cut into segments: one that starts it with its indentation, and others that continue it. -/
structure Shaped (width : ℕ) (line : List Char) (segments : List Line) : Prop
    extends Segmented width line segments where
  starts : ∃ first others, segments = first :: others ∧ first.continuation = false ∧ first.indent = leadingWidth line ∧
    ∀ s ∈ others, Continues s

theorem leadingWidth_take {line : List Char} {n : ℕ} (h : leadingWidth line ≤ n) :
    leadingWidth (line.take n) = leadingWidth line := by
  have hblank : ∀ c ∈ line.takeWhile isIndent, isIndent c = true := fun c hc => List.mem_takeWhile_imp hc
  have hstop : StopsAt isIndent ((line.dropWhile isIndent).take (n - leadingWidth line)) := by
    intro c hc
    rw [List.head?_take] at hc
    split_ifs at hc
    · cases hc
    · exact Text.stopsAt_dropWhile isIndent line c hc
  have hsplit : line.take n = line.takeWhile isIndent ++ (line.dropWhile isIndent).take (n - leadingWidth line) := by
    conv_lhs => rw [← List.takeWhile_append_dropWhile (p := isIndent) (l := line)]
    rw [List.take_append, List.take_of_length_le h]
    rfl
  rw [leadingWidth, hsplit, Text.takeWhile_run hblank hstop]
  rfl

/-- The cut never lies inside of the indentation of a line, which the first segment keeps. -/
theorem leadingWidth_take_segmentLength {width : ℕ} (line : List Char) (htab : '\t' ∉ line) :
    leadingWidth (line.take (segmentLength width (leadingWidth line) line)) = leadingWidth line := by
  have hle : leadingWidth line ≤ segmentLength width (leadingWidth line) line := by
    rcases breakAt_spec width line with ⟨i, ⟨hspace, -⟩, hbreak⟩ | ⟨hnone, hbreak⟩
    · have hbehind := hspace.behind
      rw [segmentLength_eq]
      omega
    · rw [segmentLength_of_no_space htab hnone hbreak]
      exact le_max_right _ _
  exact leadingWidth_take hle

theorem Wrapped.shaped {width : ℕ} (hwidth : 1 ≤ width) {line : List Char} {segments : List Line}
    (h : Wrapped width line segments) (htab : '\t' ∉ line) : Shaped width line segments := by
  cases h with
  | whole hfits =>
    have hfits' : line.length ≤ width := by omega
    exact ⟨segmented_singleton ⟨line, leadingWidth line, false⟩ hfits', _, [], rfl, rfl, rfl, by simp⟩
  | cut _ hlong hfirst hbehind =>
    rw [Int.toNat_natCast] at hfirst hbehind
    -- spaces at the break go with the segment in front of it, so the rest starts without any
    have hstart : StopsAt (· = ' ') (line.drop (segmentLength width (leadingWidth line) line)) := by
      rw [drop_segmentLength]
      exact Text.stopsAt_dropWhile _ _
    obtain ⟨hsegmented, hcontinues⟩ :=
      hbehind.segmented hwidth (fun hmem => htab (List.mem_of_mem_drop hmem)) hstart
    have hbreaks := breaks_take_segmentLength htab (Int.ofNat_lt.1 hlong)
    have hnarrow := length_dropEndWhile_take_segmentLength width line
    rw [← hfirst] at hbreaks hnarrow
    have hindent : leadingWidth _ = _ := hfirst ▸ leadingWidth_take_segmentLength line htab
    exact ⟨hsegmented.cons hbreaks hnarrow hfirst, _, _, rfl, rfl, hindent, hcontinues⟩

/--
The lines of a text without tabs and carriage returns, wrapped to a width, are those that its lines are cut into:
each starts with a segment that keeps the indentation, and every segment breaks behind the last space that fits.
-/
theorem wrap_shaped {width : ℕ} (hwidth : 1 ≤ width) {text : List Char} (htab : '\t' ∉ text) (hreturn : '\r' ∉ text) :
    ∃ segments, List.Forall₂ (Shaped width) (Text.splitAt '\n' text) segments ∧ wrap width text = segments.flatten := by
  obtain ⟨segments, hsegments, hwrap⟩ := wrapsTo_iff.2 (rfl : wrap width text = _)
  refine ⟨segments, ?_, hwrap⟩
  -- no line has a tab, and none has a carriage return that is dropped
  have hlines : ∀ line ∈ Text.splitAt '\n' text, '\t' ∉ line ∧ Text.dropEndWhile (· = '\r') line = line := by
    intro line hline
    refine ⟨fun hmem => htab (Text.mem_of_mem_splitAt hline hmem), (Text.dropEndWhile_eq_self_iff '\r' line).2 ?_⟩
    exact fun hlast => hreturn (Text.mem_of_mem_splitAt hline (List.mem_of_getLast? hlast))
  apply ((List.forall₂_and_left _ _).2 ⟨hlines, hsegments⟩).imp
  rintro line cut ⟨⟨htab, hreturn⟩, hwrapped⟩
  rw [hreturn] at hwrapped
  exact hwrapped.shaped hwidth htab

/-- A line breaks behind a space, behind its indentation if that is wider than the view, and inside of words. -/
theorem wrap_shaped_three :
    ∃ segments, List.Forall₂ (Shaped 3) (Text.splitAt '\n' "ab cd\n    efghi\n".toList) segments ∧
      wrap (3 : ℕ) "ab cd\n    efghi\n".toList = segments.flatten :=
  wrap_shaped (by decide) (by decide) (by decide)

example : (wrap 3 "ab  cd\n    efghi\n".toList).map (String.ofList ·.text) =
    ["ab  ", "cd", "    ", "efg", "hi", ""] := by decide

end DocBrowser.Line
