import Mathlib
import DocBrowser.Proofs.Navigator.Entries
import DocBrowser.Proofs.Navigator.Tidy
/-!
# The selected text of an entry

The segments of an entry, put together, are its text. Copied in full that is the key, if there is
one, and the value on one line, without the comma behind; copied as a value it is the value alone.
-/

namespace DocBrowser

/-! ## Segments put together -/

namespace Line

theorem Cut.flatMap_separator {indent : ℕ} {line : List Char} {first : Line} {others : List Line}
    (h : Cut indent line first others) :
    (first :: others).flatMap (fun s => s.separator ++ s.text) = '\n' :: line := by
  have hnone : ∀ s ∈ others, s.separator ++ s.text = s.text := by
    intro s hs
    rw [separator, if_pos (h.continued s hs).1, List.nil_append]
  rw [List.flatMap_cons, List.flatMap_congr hnone, separator, h.starts, ← h.whole]
  rfl

/-- Wrapped lines with a newline in front of each line that is not continued. -/
theorem flatMap_separator_wrapOne (width : ℤ) {lines : List (List Char)}
    (h : ∀ line ∈ lines, ∃ indent, Indented indent line) :
    (lines.flatMap (wrapOne width)).flatMap (fun s => s.separator ++ s.text) = lines.flatMap ('\n' :: ·) := by
  rw [List.flatMap_assoc]
  apply List.flatMap_congr
  intro line hline
  obtain ⟨indent, hindented⟩ := h line hline
  obtain ⟨first, others, hsegments, hcut⟩ := wrapOne_eq_cons hindented width
  rw [hsegments]
  exact hcut.flatMap_separator

/-- Wrapping loses nothing: the segments put together are the lines. -/
theorem join_flatMap_wrapOne (width : ℤ) {lines : List (List Char)} (hne : lines ≠ [])
    (h : ∀ line ∈ lines, ∃ indent, Indented indent line) :
    join (lines.flatMap (wrapOne width)) = Text.joinWith ['\n'] lines := by
  have hall := flatMap_separator_wrapOne width h
  obtain ⟨line, rest, rfl⟩ := List.exists_cons_of_ne_nil hne
  obtain ⟨indent, hindented⟩ := h line (by simp)
  obtain ⟨first, others, hsegments, hcut⟩ := wrapOne_eq_cons hindented width
  -- the first segment has no newline in front of it
  rw [List.flatMap_cons, hsegments, List.cons_append, List.flatMap_cons, separator, hcut.starts,
    List.flatMap_cons] at hall
  rw [List.flatMap_cons, hsegments, List.cons_append, join, Text.joinWith_cons]
  exact List.cons_injective hall

end Line

namespace Selection

open Json
open Text (StopsAt stopsAt_cons)

/-! ## Trimming -/

/-- A text starts with something visible, and ends in something visible other than a comma. -/
structure Neat (cs : List Char) : Prop where
  starts : StopsAt Text.isBlank cs
  ends : ∃ front c, cs = front ++ [c] ∧ Text.isBlank c = false ∧ c ≠ ','

theorem Neat.trim {cs : List Char} (h : Neat cs) : Text.trim cs = cs := by
  obtain ⟨front, c, rfl, hc, -⟩ := h.ends
  exact Text.trim_of_stopsAt h.starts (by simpa using hc)

/-- A neat text is left alone. -/
theorem Neat.trimComma {cs : List Char} (h : Neat cs) : trimComma cs = cs := by
  rw [Selection.trimComma, h.trim]
  obtain ⟨front, c, rfl, -, hcomma⟩ := h.ends
  simp [hcomma]

/-- The comma behind a neat text is dropped. -/
theorem Neat.trimComma_append {cs : List Char} (h : Neat cs) : Selection.trimComma (cs ++ [',']) = cs := by
  have hstart : StopsAt Text.isBlank (cs ++ [',']) := by
    intro c hc
    cases cs with
    | nil =>
      obtain ⟨front, d, hnil, -⟩ := h.ends
      simp at hnil
    | cons d cs => exact h.starts c hc
  have htrim : Text.trim (cs ++ [',']) = cs ++ [','] :=
    Text.trim_of_stopsAt hstart (by simp [Text.isBlank])
  obtain ⟨front, c, rfl, hc, -⟩ := h.ends
  rw [Selection.trimComma, htrim]
  simp only [List.reverse_append, List.reverse_cons, List.reverse_nil, List.nil_append, List.cons_append]
  rw [Text.trimEnd, Text.dropEndWhile_of_stopsAt (by simpa using hc)]
  simp

theorem isBlank_of_startsData {c : Char} (h : startsData c = true) : Text.isBlank c = false := by
  rw [startsData, Bool.or_eq_true] at h
  rcases h with h | h
  · exact Text.isBlank_of_isDigit h
  · simp only [List.contains_eq_mem, decide_eq_true_eq, List.mem_cons, List.not_mem_nil, or_false] at h
    rcases h with rfl | rfl | rfl | rfl | rfl | rfl | rfl <;> decide

theorem neat_writeAt (layout : Layout) (depth : ℕ) {data : Json} (h : data.Readable) :
    Neat (writeAt ⟨layout, false⟩ depth data) := by
  obtain ⟨c, cs, hcons, hstart⟩ := writeAt_eq_cons ⟨layout, false⟩ depth h
  refine ⟨?_, writeAt_eq_append layout depth h⟩
  rw [hcons]
  exact stopsAt_cons.2 (isBlank_of_startsData hstart)

theorem neat_memberText (layout : Layout) (depth : ℕ) {member : Option String × Json} (h : member.2.Readable) :
    Neat (memberText layout depth member) := by
  obtain ⟨hstarts, front, c, hfront, hc⟩ := neat_writeAt layout depth h
  obtain ⟨key?, value⟩ := member
  refine ⟨?_, label layout key? ++ front, c, ?_, hc⟩
  · cases key? with
    | none => exact hstarts
    | some key => exact stopsAt_cons.2 (by decide)
  · rw [memberText, hfront, List.append_assoc]

/-! ## Keys -/

theorem closeQuote?_cons {c : Char} (rest : List Char) (hquote : c ≠ '"') (hbackslash : c ≠ '\\') :
    KeyStart.closeQuote? (c :: rest) =
      (KeyStart.closeQuote? rest).map fun (quoted, after) => (c :: quoted, after) := by
  rw [KeyStart.closeQuote?]
  · exact hquote
  · intro d ds h
    exact absurd h hbackslash
  · intro h
    exact absurd h hbackslash

/-- No sign of a character inside a string closes it. -/
theorem closeQuote?_written {c : Char} {signs : List Char} (h : Written c signs) (rest : List Char) :
    KeyStart.closeQuote? (signs ++ rest) =
      (KeyStart.closeQuote? rest).map fun (quoted, after) => (signs ++ quoted, after) := by
  cases h with
  | plain hquote hbackslash _ => exact closeQuote?_cons rest hquote hbackslash
  | named letter _ _ hlow =>
    -- a backslash takes any sign with it but a newline
    have hletter : letter ≠ '\n' := by
      rintro rfl
      exact absurd hlow (by decide)
    show KeyStart.closeQuote? ('\\' :: letter :: rest) = _
    rw [KeyStart.closeQuote?, if_neg hletter]
    rfl
  | numbered hcontrol =>
    obtain ⟨high, low, hescape, hdigits⟩ := unicodeEscape_eq (show c.toNat < 256 by omega)
    have hhigh := hdigits high (by simp)
    have hlow := hdigits low (by simp)
    rw [hescape]
    show KeyStart.closeQuote? ('\\' :: 'u' :: '0' :: '0' :: high :: low :: rest) = _
    rw [KeyStart.closeQuote?, if_neg (by decide), closeQuote?_cons _ (by decide) (by decide),
      closeQuote?_cons _ (by decide) (by decide), closeQuote?_cons _ hhigh.1 hhigh.2.1,
      closeQuote?_cons _ hlow.1 hlow.2.1]
    cases KeyStart.closeQuote? rest <;> rfl

/-- The closing quote of a written string is found behind all of its characters. -/
theorem closeQuote?_inside (cs rest : List Char) :
    KeyStart.closeQuote? (inside cs ++ '"' :: rest) = some (inside cs ++ ['"'], rest) := by
  induction cs with
  | nil => rfl
  | cons c cs ih =>
    rw [inside_cons, List.append_assoc, closeQuote?_written (written_writeChar c), ih, Option.map_some,
      List.append_assoc]

/-- A key is dropped up to the value behind it. -/
theorem dropKey_label (key : String) {value : List Char} (h : StopsAt Text.isBlank value) :
    dropKey (label .padded (some key) ++ value) = value := by
  have htext : label .padded (some key) ++ value = '"' :: (inside key.toList ++ '"' :: ':' :: ' ' :: value) := by
    simp [label, Layout.padded, writeText_eq]
  -- the key reaches from its opening quote to the colon, whatever signs it has
  have hstart : KeyStart.ofLine? ('"' :: (inside key.toList ++ '"' :: ':' :: ' ' :: value)) =
      some ⟨[], '"' :: (inside key.toList ++ ['"']), [':'], ' ' :: value⟩ := by
    rw [KeyStart.ofLine?, Text.dropWhile_of_stopsAt (stopsAt_cons.2 (by decide)),
      Text.takeWhile_of_stopsAt (stopsAt_cons.2 (by decide))]
    simp only [closeQuote?_inside, Option.bind_some]
    rw [Text.dropWhile_of_stopsAt (stopsAt_cons.2 (by decide)), Text.takeWhile_of_stopsAt (stopsAt_cons.2 (by decide))]
    rfl
  rw [htext, dropKey, hstart]
  show Text.trimStart (' ' :: value) = value
  rw [Text.trimStart, List.dropWhile_cons_of_pos (by decide), Text.dropWhile_of_stopsAt h]

theorem ofLine?_eq_none {c : Char} (rest : List Char) (hblank : Text.isBlank c = false) (hquote : c ≠ '"') :
    KeyStart.ofLine? (c :: rest) = none := by
  rw [KeyStart.ofLine?, Text.dropWhile_of_stopsAt (stopsAt_cons.2 hblank)]
  split
  · rename_i hcons
    exact absurd (List.cons.inj hcons).1 hquote
  · rfl

/-- A string alone is not a key, for no colon follows it. -/
theorem ofLine?_writeText (cs : List Char) : KeyStart.ofLine? (writeText false cs) = none := by
  rw [KeyStart.ofLine?, writeText_eq, Text.dropWhile_of_stopsAt (stopsAt_cons.2 (by decide))]
  simp only [closeQuote?_inside, Option.bind_some, List.dropWhile_nil]

/-- Data alone has no key. -/
theorem dropKey_writeAt (layout : Layout) (depth : ℕ) {data : Json} (h : data.Readable) :
    dropKey (writeAt ⟨layout, false⟩ depth data) = writeAt ⟨layout, false⟩ depth data := by
  have hnone : KeyStart.ofLine? (writeAt ⟨layout, false⟩ depth data) = none := by
    -- data without members stand on one line, others open with a bracket of their own
    by_cases hmembers : data.members = []
    · rw [writeAt_of_members_eq_nil _ _ hmembers]
      rcases compactText_cases h hmembers with ⟨hne, hbare⟩ | ⟨cs, hcs⟩ | hempty
      · obtain ⟨c, rest, hcons⟩ := List.exists_cons_of_ne_nil hne
        have hc := hbare c (by simp [hcons])
        rw [hcons]
        exact ofLine?_eq_none rest hc.visible hc.quote
      · rw [hcs]
        exact ofLine?_writeText cs
      · rw [hempty]
        exact ofLine?_eq_none _ (by decide) (by decide)
    · have hopening : Text.isBlank data.opening = false ∧ data.opening ≠ '"' := by
        unfold opening
        split <;> decide
      rw [writeAt_of_members _ _ hmembers]
      exact ofLine?_eq_none _ hopening.1 hopening.2
  rw [dropKey, hnone]

/-! ## The text of an entry -/

variable {e : Entry}

/-- The text of an entry is tidied to its key and its value on one line. -/
theorem tidy_text (he : e.value.Readable) :
    tidy e.text = memberText .padded e.depth (e.key?, e.value) ++ e.comma := by
  -- the margin is dropped as blanks at the start
  have hmargin : ∀ c ∈ e.margin, Text.isBlank c = true := by
    intro c hc
    rw [List.eq_of_mem_replicate hc]
    decide
  have htext : e.text = e.margin ++ (memberText .indented e.depth (e.key?, e.value) ++ e.comma) := by
    rw [Entry.text, memberText, List.append_assoc]
  obtain ⟨z, -, hz, hmember⟩ := tidies_memberText e.depth (e.key?, e.value) (tidies_writeAt he e.depth) none (by simp)
  have hcomma : tidyFrom .outside (some z) e.comma = e.comma := by
    unfold Entry.comma
    split
    · rfl
    · rw [tidyFrom_outside (by decide) (by decide) (by simpa using hz)]
      rfl
  rw [tidy, htext, tidyFrom_blanks hmargin (.inl rfl), hmember, hcomma]

theorem trimComma_tidy_text (he : e.value.Readable) :
    trimComma (tidy e.text) = memberText .padded e.depth (e.key?, e.value) := by
  have hneat : Neat (memberText .padded e.depth (e.key?, e.value)) := neat_memberText _ _ he
  rw [tidy_text he, Entry.comma]
  split
  · rw [List.append_nil, hneat.trimComma]
  · exact hneat.trimComma_append

/-- Lines that show an entry are copied as its key and its value. -/
theorem text_full (he : e.value.Readable) {lines : List Line} (hlines : Line.join lines = e.text) :
    text .full lines = memberText .padded e.depth (e.key?, e.value) := by
  rw [text, hlines]
  exact trimComma_tidy_text he

/-- Lines that show an entry are copied as its value. -/
theorem text_value (he : e.value.Readable) {lines : List Line} (hlines : Line.join lines = e.text) :
    text .value lines = writeAt ⟨.padded, false⟩ e.depth e.value := by
  have hneat := neat_writeAt .padded e.depth he
  have hdrop : dropKey (memberText .padded e.depth (e.key?, e.value)) = writeAt ⟨.padded, false⟩ e.depth e.value := by
    rw [memberText]
    cases e.key? with
    | none => exact dropKey_writeAt _ _ he
    | some key => exact dropKey_label key hneat.starts
  rw [text, hlines]
  show trimComma (dropKey (trimComma (tidy e.text))) = _
  rw [trimComma_tidy_text he, hdrop, hneat.trimComma]

/-- The segments of all lines of an entry show the entry. -/
theorem join_lines (he : e.value.Readable) (width : ℤ) : Line.join (e.lines.flatMap (Line.wrapOne width)) = e.text := by
  have hindented : ∀ line ∈ e.lines, ∃ indent, Line.Indented indent line := by
    intro line hline
    obtain ⟨indent, -, h⟩ := Entry.indented_of_mem_lines he line hline
    exact ⟨indent, h⟩
  have hne : e.lines ≠ [] := Text.splitAt_ne_nil '\n' e.text
  rw [Line.join_flatMap_wrapOne width hne hindented]
  exact Text.joinWith_splitAt e.text

/-! ## What is copied reads back -/

theorem parse_text_value (he : e.value.Readable) {lines : List Line} (hlines : Line.join lines = e.text) :
    Json.parse (text .value lines) = .ok e.value := by
  rw [text_value he hlines]
  exact parseWith_writeAt Layout.padded_blank e.depth he

/-- What is copied of a field in full is, between braces, an object of that field. -/
theorem parse_text_full_of_key (he : e.value.Readable) {lines : List Line} (hlines : Line.join lines = e.text)
    {key : String} (hkey : e.key? = some key) :
    Json.parse ('\x7b' :: (text .full lines ++ ['\x7d'])) = .ok (.obj [(key, e.value)]) := by
  rw [text_full he hlines, hkey, memberText, label]
  simp only [List.append_assoc, List.cons_append]
  exact parseWith_field Layout.padded_blank e.depth key he

theorem parse_text_full_of_no_key (he : e.value.Readable) {lines : List Line} (hlines : Line.join lines = e.text)
    (hkey : e.key? = none) : Json.parse (text .full lines) = .ok e.value := by
  rw [text_full he hlines, hkey]
  exact parseWith_writeAt Layout.padded_blank e.depth he

end Selection

end DocBrowser
