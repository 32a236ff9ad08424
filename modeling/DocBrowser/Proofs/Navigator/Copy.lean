import Mathlib
import DocBrowser.Navigator.Basic
import DocBrowser.Proofs.ExtendedJson.Readable
import DocBrowser.Proofs.Navigator.Selection
/-!
# Copying entries

With the cursor on the first line of an entry, the navigator highlights and copies that entry. In a
view without wrapping this always holds; in a narrow view it holds where no continued segment looks
like the end of the document and the line of the closing bracket fits.
-/

namespace DocBrowser

open Json (Entry)

namespace Navigator

/-! ## What a navigator shows -/

/-- A navigator shows a text in a view of some width, with its lines and their texts in step. -/
structure Shows (nav : Navigator) (text : List Char) (width : ℤ) : Prop where
  text_eq : nav.text = text
  width_eq : nav.width = width
  lines_eq : nav.lines = Line.wrap width text
  lineTexts_eq : nav.lineTexts = nav.lines.map (·.text)

theorem make_shows (text : List Char) (width height : ℤ) : (make text width height).Shows text width :=
  ⟨rfl, rfl, rfl, rfl⟩

theorem Shows.openText {nav : Navigator} {old : List Char} {width : ℤ} (h : nav.Shows old width) (text : List Char) :
    (nav.openText text).Shows text width := by
  refine ⟨rfl, h.width_eq, ?_, rfl⟩
  show Line.wrap nav.width text = Line.wrap width text
  rw [h.width_eq]

theorem Shows.resize {nav : Navigator} {text : List Char} {old : ℤ} (h : nav.Shows text old) (width height : ℤ) :
    (nav.resize width height).Shows text width := by
  refine ⟨h.text_eq, rfl, ?_, rfl⟩
  show Line.wrap width nav.text = Line.wrap width text
  rw [h.text_eq]

theorem Shows.move {nav : Navigator} {text : List Char} {width : ℤ} (h : nav.Shows text width) (step : Window.Move) :
    (nav.move step).Shows text width :=
  ⟨h.text_eq, h.width_eq, h.lines_eq, h.lineTexts_eq⟩

/-- The row on which a line of a text starts: the number of segments of the lines above it. -/
def rowOf (width : ℤ) (text : List Char) (line : ℕ) : ℕ :=
  (((Text.splitAt '\n' text).take line).flatMap fun above =>
    Line.wrapOne width (Text.dropEndWhile (· = '\r') above)).length

end Navigator

/-! ## The rows of an entry -/

namespace Json.Entry

variable {e : Entry}

/-- The segments of an entry in a view of some width. -/
def segments (e : Entry) (width : ℤ) : List Line := e.lines.flatMap (Line.wrapOne width)

/-- What is copied of an entry in full, between braces if the entry has a key. -/
def braced (e : Entry) (copied : List Char) : List Char :=
  if e.key?.isSome then '\x7b' :: (copied ++ ['\x7d']) else copied

/-- The data of an entry with its key. -/
def data (e : Entry) : Json :=
  match e.key? with
  | some key => .obj [(key, e.value)]
  | none => e.value

/-- What is copied of an entry in full reads back as the entry with its key. -/
theorem parse_braced (he : e.value.Readable) {lines : List Line} (hlines : Line.join lines = e.text) :
    Json.parse (e.braced (Selection.text .full lines)) = .ok e.data := by
  unfold braced data
  cases hkey : e.key? with
  | none => exact Selection.parse_text_full_of_no_key he hlines hkey
  | some key => exact Selection.parse_text_full_of_key he hlines hkey

/-- Whether the line of the closing bracket is not cut, if there is such a line. -/
def Fits (e : Entry) (width : ℤ) : Prop :=
  e.value.lineCount = 1 ∨ width ≤ 0 ∨ 2 * e.depth + (if e.last then 1 else 2) ≤ width

/-- Lines without control characters are wrapped one by one. -/
theorem flatMap_wrapOne_dropEndWhile (width : ℤ) {lines : List (List Char)}
    (h : ∀ line ∈ lines, ∃ indent, Line.Indented indent line) :
    (lines.flatMap fun line => Line.wrapOne width (Text.dropEndWhile (· = '\r') line)) =
      lines.flatMap (Line.wrapOne width) := by
  apply List.flatMap_congr
  intro line hline
  obtain ⟨indent, hindented⟩ := h line hline
  have hreturn : ∀ c ∈ line.reverse, decide (c = '\r') = false := by
    intro c hc
    rw [decide_eq_false_iff_not]
    rintro rfl
    exact absurd (hindented.printable _ (List.mem_reverse.1 hc)) (by decide)
  rw [Text.dropEndWhile_of_stopsAt (Text.stopsAt_of_forall hreturn)]

theorem length_closingLine (e : Entry) : e.closingLine.length = 2 * e.depth + (if e.last then 1 else 2) := by
  unfold closingLine comma margin
  split <;> simp

/-- The line of the closing bracket has one segment exactly where it fits. -/
theorem length_wrapOne_closingLine_iff (width : ℤ) :
    (Line.wrapOne width e.closingLine).length = 1 ↔
      width ≤ 0 ∨ 2 * e.depth + (if e.last then 1 else 2) ≤ width := by
  have hlength : (e.closingLine.length : ℤ) = 2 * e.depth + (if e.last then 1 else 2) := by
    rw [length_closingLine]
    push_cast
    rfl
  rw [← hlength]
  constructor
  · -- it ends in a bracket or a comma, and a cut leaves that to a segment of its own
    intro hone
    by_contra hlong
    rw [not_or, not_le, not_le] at hlong
    have hmany : 1 < (Line.wrapOne width e.closingLine).length := by
      have hlast : ∃ front c, e.closingLine = front ++ [c] ∧ c ≠ ' ' := by
        unfold closingLine comma
        split
        · exact ⟨e.margin, _, rfl, by unfold closing; split <;> decide⟩
        · exact ⟨e.margin ++ [e.value.closing], ',', by simp, by decide⟩
      obtain ⟨front, c, hfront, hc⟩ := hlast
      rw [hfront] at hlong ⊢
      exact Line.one_lt_length_wrapOne hc hlong.1 hlong.2
    omega
  · intro hfits
    rw [Line.wrapOne_of_le hfits]
    rfl

section

variable (he : e.value.Readable) (width : ℤ) {next : List Char} (rest : List (List Char))
  (hends : Highlight.Ends (2 * e.depth) next)

include he hends

/-- All segments of an entry on one line are counted where none of them closes the document. -/
theorem countBelow_line (hmembers : e.value.members = []) :
    ∃ first others, e.segments width = first :: others ∧ Line.leadingWidth first.text = 2 * e.depth ∧
      (Highlight.countBelow (2 * e.depth) (others.map (·.text) ++ next :: rest) = others.length ↔
        ∀ s ∈ e.segments width, s.continuation = true → Highlight.closesAll s.text = false) := by
  obtain ⟨first, others, hsegments, hcut⟩ := Line.wrapOne_eq_cons (indented_text he hmembers) width
  rw [segments, lines_of_members_eq_nil hmembers, List.flatMap_singleton, hsegments]
  exact ⟨first, others, rfl, hcut.indented, Highlight.countBelow_line_iff rest hcut hends⟩

omit hends in
/--
All segments of an entry between brackets are counted where none of them closes the document and the
line of the closing bracket is not cut.
-/
theorem countBelow_brackets (hdeep : 0 < e.depth) (hmembers : e.value.members ≠ []) :
    ∃ first others, e.segments width = first :: others ∧ Line.leadingWidth first.text = 2 * e.depth ∧
      (Highlight.countBelow (2 * e.depth) (others.map (·.text) ++ rest) = others.length ↔
        (∀ s ∈ e.segments width, s.continuation = true → Highlight.closesAll s.text = false) ∧
          (Line.wrapOne width e.closingLine).length = 1) := by
  -- all lines between the brackets are deeper, and there is at least one
  have hinside : ∀ line ∈ e.children.flatMap lines, ∃ deeper, 2 * e.depth < deeper ∧ Line.Indented deeper line := by
    intro line hline
    obtain ⟨c, hc, hline⟩ := List.mem_flatMap.1 hline
    obtain ⟨deeper, hle, hindented⟩ := indented_of_mem_lines (readable_of_mem_children he hc) line hline
    rw [depth_of_mem_children hc] at hle
    exact ⟨deeper, by omega, hindented⟩
  have hne : e.children.flatMap lines ≠ [] := by
    obtain ⟨c, back, hcons⟩ := List.exists_cons_of_ne_nil (children_ne_nil hmembers)
    have hc : c ∈ e.children := by simp [hcons]
    obtain ⟨line, more, hlines, -⟩ := lines_eq_cons (readable_of_mem_children he hc)
    rw [hcons, List.flatMap_cons, hlines]
    simp
  obtain ⟨line, more, hcons⟩ := List.exists_cons_of_ne_nil hne
  obtain ⟨deeper, hdeeper, hindented⟩ := hinside line (by simp [hcons])
  have hmiddle := Highlight.deeper_of_mem width hinside
  obtain ⟨first, others, hopened, hopening⟩ := Line.wrapOne_eq_cons e.indented_openingLine width
  obtain ⟨inner, continued, hentered, hinner⟩ := Line.wrapOne_eq_cons hindented width
  obtain ⟨last, behind, hclosed, hclosing⟩ := Line.wrapOne_eq_cons e.indented_closingLine width
  have hsegments : e.segments width =
      first :: (others ++ inner :: ((continued ++ more.flatMap (Line.wrapOne width)) ++ last :: behind)) := by
    rw [segments, lines_of_members hmembers, hcons]
    simp [hopened, hentered, hclosed]
  rw [hcons, List.flatMap_cons, hentered, List.cons_append] at hmiddle
  have hdeeperInner : 2 * e.depth < Line.leadingWidth inner.text := by rwa [hinner.indented]
  have hcount := Highlight.countBelow_brackets_iff rest (by omega) hopening hdeeperInner
    (fun s hs => hmiddle s (List.mem_cons_of_mem _ hs)) hclosing
  refine ⟨first, _, hsegments, hopening.indented, ?_⟩
  rw [hcount, hsegments, hclosed]
  simp

/-- All segments of an entry are counted where none of them closes the document and its last line fits. -/
theorem countBelow_segments_iff (hdeep : 0 < e.depth) :
    ∃ first others, e.segments width = first :: others ∧ Line.leadingWidth first.text = 2 * e.depth ∧
      (Highlight.countBelow (2 * e.depth) (others.map (·.text) ++ next :: rest) = others.length ↔
        (∀ s ∈ e.segments width, s.continuation = true → Highlight.closesAll s.text = false) ∧ e.Fits width) := by
  by_cases hmembers : e.value.members = []
  · obtain ⟨first, others, hsegments, hindent, hcount⟩ := countBelow_line he width rest hends hmembers
    have hfits : e.Fits width := .inl (lineCount_of_members_eq_nil hmembers)
    exact ⟨first, others, hsegments, hindent, by rw [hcount, and_iff_left hfits]⟩
  · obtain ⟨first, others, hsegments, hindent, hcount⟩ := countBelow_brackets he width (next :: rest) hdeep hmembers
    have hmany : e.value.lineCount ≠ 1 := by
      rw [lineCount_of_members hmembers]
      omega
    have hfits : e.Fits width ↔ (Line.wrapOne width e.closingLine).length = 1 := by
      rw [length_wrapOne_closingLine_iff, Fits, or_iff_right hmany]
    exact ⟨first, others, hsegments, hindent, by rw [hcount, hfits]⟩

end

end Json.Entry

namespace Navigator

/-! ## An entry on the screen -/

section

variable {fields : List (String × Json)} (htree : (Json.obj fields).Readable) {e : Entry} (he : e.In (.obj fields))
  {nav : Navigator} {width : ℤ} (hnav : nav.Shows (Json.obj fields).indentedText width)

include htree he hnav

/-- The segments of an entry stand in the view from the row of its line on, up to the row of the line behind it. -/
theorem lines_eq_append :
    ∃ above next below, nav.lines = above ++ (e.segments width ++ next :: below) ∧ above ≠ [] ∧
      above.length = rowOf width (Json.obj fields).indentedText e.line ∧
      (above ++ e.segments width).length = rowOf width (Json.obj fields).indentedText (e.line + e.value.lineCount) ∧
      Highlight.Ends (2 * e.depth) next.text := by
  obtain ⟨hreadable, -, before, follower, after, hlines, hne, hline, hbehind⟩ := he.shown htree
  obtain ⟨next, others, hnext, hends⟩ := hbehind.ends width
  have hindented : ∀ line ∈ before ++ (e.lines ++ follower :: after), ∃ indent, Line.Indented indent line := by
    intro line hmem
    rw [← hlines] at hmem
    obtain ⟨indent, -, h⟩ := Entry.indented_of_mem_lines (e := Entry.root (.obj fields)) htree line hmem
    exact ⟨indent, h⟩
  have hsplit : Text.splitAt '\n' (Json.obj fields).indentedText = before ++ (e.lines ++ follower :: after) := by
    rw [← hlines, Entry.lines_root]
  have hwrap {lines : List (List Char)} (h : ∀ line ∈ lines, line ∈ before ++ (e.lines ++ follower :: after)) :=
    Entry.flatMap_wrapOne_dropEndWhile width fun line hmem => hindented line (h line hmem)
  refine ⟨before.flatMap (Line.wrapOne width), next, others ++ after.flatMap (Line.wrapOne width), ?_, ?_, ?_, ?_, hends⟩
  · -- wrapping goes line by line, so the split of the lines is one of the segments
    rw [hnav.lines_eq, Line.wrap, hsplit, hwrap fun line h => h, List.flatMap_append, List.flatMap_append,
      List.flatMap_cons, hnext]
    rfl
  · -- no line vanishes
    obtain ⟨line, rest, rfl⟩ := List.exists_cons_of_ne_nil hne
    obtain ⟨indent, h⟩ := hindented line (by simp)
    obtain ⟨first, others, hsegments, -⟩ := Line.wrapOne_eq_cons h width
    rw [List.flatMap_cons, hsegments]
    simp
  · rw [rowOf, hsplit, ← hline, List.take_left, hwrap fun line h => by simp [h]]
  · have htake : (before ++ (e.lines ++ follower :: after)).take (e.line + e.value.lineCount) = before ++ e.lines := by
      rw [← hline, ← Entry.length_lines hreadable, ← List.length_append, ← List.append_assoc, List.take_left]
    rw [rowOf, hsplit, htake, hwrap fun line h => by simp at h ⊢; tauto, List.flatMap_append]
    rfl

/-- The segments between the rows of an entry are its segments. -/
theorem segments_eq :
    (nav.lines.take (rowOf width (Json.obj fields).indentedText (e.line + e.value.lineCount))).drop
      (rowOf width (Json.obj fields).indentedText e.line) = e.segments width := by
  obtain ⟨above, next, below, hlines, -, hfirst, hbehind, -⟩ := lines_eq_append htree he hnav
  rw [hlines, ← List.append_assoc, ← hbehind, List.take_left, ← hfirst, List.drop_left]

/-- An entry is highlighted exactly where none of its segments closes the document and its last line fits. -/
theorem highlightRange_eq_iff (hcursor : nav.window.cursor = rowOf width (Json.obj fields).indentedText e.line) :
    nav.highlightRange = (rowOf width (Json.obj fields).indentedText e.line,
        rowOf width (Json.obj fields).indentedText (e.line + e.value.lineCount)) ↔
      (∀ s ∈ e.segments width, s.continuation = true → Highlight.closesAll s.text = false) ∧ e.Fits width := by
  obtain ⟨above, next, below, hlines, hne, hfirst, hbehind, hends⟩ := lines_eq_append htree he hnav
  obtain ⟨hreadable, hdeep, -⟩ := he.shown htree
  obtain ⟨first, others, hsegments, hindent, hcount⟩ :=
    Entry.countBelow_segments_iff hreadable width (below.map (·.text)) hends hdeep
  -- the range reaches from the cursor as far as is counted below it
  have hrange := Highlight.range_of_pos (above.map (·.text))
    (others.map (·.text) ++ next.text :: below.map (·.text)) (by simpa using hne) hindent (by omega)
  rw [List.length_map] at hrange
  rw [highlightRange, hnav.lineTexts_eq, hcursor, ← hfirst, hlines, ← hbehind, ← hcount, hsegments]
  simp only [List.map_append, List.map_cons, List.cons_append, hrange, List.length_append, List.length_cons,
    Prod.mk.injEq, true_and]
  omega

/-- What is highlighted in the rows of an entry shows the entry. -/
theorem join_highlightedLines
    (hrange : nav.highlightRange = (rowOf width (Json.obj fields).indentedText e.line,
      rowOf width (Json.obj fields).indentedText (e.line + e.value.lineCount))) :
    Line.join nav.highlightedLines = e.text := by
  rw [highlightedLines, hrange]
  simp only
  rw [segments_eq htree he hnav]
  exact Selection.join_lines (he.shown htree).readable width

end

/-- The first line of a view without wrapping is the first row, and so on. -/
theorem rowOf_of_nonpos {width : ℤ} (hwidth : width ≤ 0) {text : List Char} {line : ℕ}
    (hline : line ≤ (Text.splitAt '\n' text).length) : rowOf width text line = line := by
  have hone : ∀ above : List Char, (Line.wrapOne width above).length = 1 := by
    intro above
    rw [Line.wrapOne_of_le (.inl hwidth), List.length_singleton]
  rw [rowOf, List.length_flatMap]
  simp [hone, hline]

/-- On the first row the whole text is highlighted, at any width. -/
theorem highlight_root {tree : Json} (htree : tree.Readable) {nav : Navigator} {width : ℤ}
    (hnav : nav.Shows tree.indentedText width) (hcursor : nav.window.cursor = 0) :
    nav.highlightRange = (0, nav.lines.length) ∧ Line.join nav.highlightedLines = (Entry.root tree).text := by
  have hindented : ∀ line ∈ (Entry.root tree).lines, ∃ indent, Line.Indented indent line := by
    intro line hmem
    obtain ⟨indent, -, h⟩ := Entry.indented_of_mem_lines (e := Entry.root tree) htree line hmem
    exact ⟨indent, h⟩
  have hlines : nav.lines = (Entry.root tree).segments width := by
    rw [hnav.lines_eq, Line.wrap, ← Entry.lines_root, Entry.flatMap_wrapOne_dropEndWhile width hindented]
    rfl
  -- on the first row nothing is counted: the range is all there is
  have hne : nav.lineTexts ≠ [] := by
    obtain ⟨line, rest, hcons, h⟩ := Entry.lines_eq_cons (e := Entry.root tree) htree
    obtain ⟨first, others, hsegments, -⟩ := Line.wrapOne_eq_cons h width
    rw [hnav.lineTexts_eq, hlines, Entry.segments, hcons, List.flatMap_cons, hsegments]
    simp
  have hrange : nav.highlightRange = (0, nav.lines.length) := by
    rw [highlightRange, hcursor, Highlight.range_zero hne, hnav.lineTexts_eq, List.length_map]
  refine ⟨hrange, ?_⟩
  rw [highlightedLines, hrange]
  simp only [List.take_length, List.drop_zero]
  rw [hlines]
  exact Selection.join_lines (e := Entry.root tree) htree width

/-! ## Copying without wrapping -/

/-- In a view without wrapping, the lines of an entry are highlighted, and nothing else. -/
theorem unwrapped_entry {fields : List (String × Json)} (htree : (Json.obj fields).Readable) {e : Entry}
    (he : e.In (.obj fields)) {nav : Navigator} {width : ℤ} (hwidth : width ≤ 0)
    (hnav : nav.Shows (Json.obj fields).indentedText width) (hcursor : nav.window.cursor = e.line) :
    nav.highlightRange = (e.line, e.line + e.value.lineCount) ∧ Line.join nav.highlightedLines = e.text := by
  have hbounds := he.line_add_lineCount_le htree
  have hfirst : rowOf width (Json.obj fields).indentedText e.line = e.line := rowOf_of_nonpos hwidth (by omega)
  have hbehind : rowOf width (Json.obj fields).indentedText (e.line + e.value.lineCount) = e.line + e.value.lineCount :=
    rowOf_of_nonpos hwidth hbounds
  -- no line is cut, so that nothing is continued
  have hwhole : ∀ s ∈ e.segments width, s.continuation = true → Highlight.closesAll s.text = false := by
    intro s hs hcontinues
    obtain ⟨line, -, hs⟩ := List.mem_flatMap.1 hs
    rw [Line.wrapOne_of_le (.inl hwidth), List.mem_singleton] at hs
    simp [hs] at hcontinues
  have hrange := (highlightRange_eq_iff htree he hnav (hcursor.trans hfirst.symm)).2 ⟨hwhole, .inr (.inl hwidth)⟩
  have hjoin := join_highlightedLines htree he hnav hrange
  rw [hfirst, hbehind] at hrange
  exact ⟨hrange, hjoin⟩

/--
In a view without wrapping, an entry under the cursor is highlighted from its first line to its last
and copied as it is: its value reads back, and so does the entry in full, between braces if it has a
key. On the first line this is the whole tree.
-/
theorem copy_entry {doc : Document} (hwf : (Value.document doc).WellFormed) {sortKeys : Bool} {text : List Char}
    (hrender : doc.render sortKeys = .ok text) :
    ∃ tree, Json.parse text = .ok tree ∧
      ∀ (nav : Navigator) (width : ℤ), width ≤ 0 → nav.Shows text width →
        (∀ e : Entry, e.In tree → nav.window.cursor = e.line →
          nav.highlightRange = (e.line, e.line + e.value.lineCount) ∧
          Line.join nav.highlightedLines = e.text ∧
          Json.parse (nav.copyText .value) = .ok e.value ∧
          Json.parse (e.braced (nav.copyText .full)) = .ok e.data) ∧
        (nav.window.cursor = 0 →
          nav.highlightRange = (0, nav.lines.length) ∧
          Json.parse (nav.copyText .value) = .ok tree ∧
          Json.parse (nav.copyText .full) = .ok tree) := by
  obtain ⟨fields, rfl, htree⟩ := Document.render_eq_ok hwf hrender
  refine ⟨.obj fields, Json.parseWith_write Json.Layout.indented_blank htree, fun nav width hwidth hnav => ⟨?_, ?_⟩⟩
  · intro e he hcursor
    obtain ⟨hrange, hjoin⟩ := unwrapped_entry htree he hwidth hnav hcursor
    have hreadable := (he.shown htree).readable
    exact ⟨hrange, hjoin, Selection.parse_text_value hreadable hjoin, Entry.parse_braced hreadable hjoin⟩
  · -- the first line belongs to no entry: what is taken there is the whole document
    intro hcursor
    obtain ⟨hrange, hjoin⟩ := highlight_root htree hnav hcursor
    exact ⟨hrange, Selection.parse_text_value htree hjoin, Selection.parse_text_full_of_no_key htree hjoin rfl⟩

/-- An array of one item is copied from the line of its key. -/
theorem copy_entry_array :
    ∃ nav : Navigator, nav.Shows "\x7b\n  \"a\": [\n    null\n  ]\n\x7d".toList 0 ∧ nav.highlightRange = (1, 4) ∧
      Json.parse (nav.copyText .value) = .ok (.arr [.null]) ∧
      Json.parse ('\x7b' :: (nav.copyText .full ++ ['\x7d'])) = .ok (.obj [("a", .arr [.null])]) := by
  have hwf : (Value.document [("a", .array [.null])]).WellFormed := by
    simp [Value.WellFormed, Value.WellFormedFields, Value.WellFormedItems, keysOf]
  have hreadable : (Json.obj [("a", .arr [.null])]).Readable :=
    ⟨by simp [keysOf], ⟨trivial, trivial⟩, trivial⟩
  have hrender : Document.render false [("a", .array [.null])] = .ok (Json.obj [("a", .arr [.null])]).indentedText :=
    Document.render_of_encode (by rfl) hreadable
  obtain ⟨tree, htree, hcopy⟩ := copy_entry hwf hrender
  obtain rfl : Json.obj [("a", .arr [.null])] = tree :=
    Except.ok.inj ((Json.parseWith_write Json.Layout.indented_blank hreadable).symm.trans htree)
  -- one step down from the brace to the line of the array
  have hshows := (make_shows (Json.obj [("a", .arr [.null])]).indentedText 0 5).move .down
  have hentry : Entry.In (.obj [("a", .arr [.null])]) ⟨some "a", .arr [.null], 1, 1, true⟩ :=
    .top (List.mem_singleton.2 rfl)
  obtain ⟨hrange, -, hvalue, hfull⟩ := (hcopy _ 0 le_rfl hshows).1 _ hentry (by rfl)
  exact ⟨_, hshows, hrange, hvalue, hfull⟩

/-! ## Copying with wrapping -/

/--
In a view with wrapping, an entry under the cursor is highlighted with all of its segments, and hence
copied as without wrapping, exactly where none of the segments that continue its lines looks like the
end of the document, and the line of its closing bracket, if it has one, fits.
-/
theorem copy_wrapped_entry_iff {doc : Document} (hwf : (Value.document doc).WellFormed) {sortKeys : Bool}
    {text : List Char} (hrender : doc.render sortKeys = .ok text) :
    ∃ tree, Json.parse text = .ok tree ∧
      ∀ (e : Entry) (nav : Navigator) (width : ℤ), e.In tree → 1 ≤ width → nav.Shows text width →
        nav.window.cursor = rowOf width text e.line →
        ((nav.highlightRange = (rowOf width text e.line, rowOf width text (e.line + e.value.lineCount)) ∧
            ∀ (whole : Navigator) (unwrapped : ℤ), unwrapped ≤ 0 → whole.Shows text unwrapped →
              whole.window.cursor = e.line → ∀ mode, nav.copyText mode = whole.copyText mode) ↔
          (∀ s ∈ (nav.lines.take (rowOf width text (e.line + e.value.lineCount))).drop (rowOf width text e.line),
            s.continuation = true → Highlight.closesAll s.text = false) ∧
          (e.value.lineCount = 1 ∨ 2 * e.depth + (if e.last then 1 else 2) ≤ width)) := by
  obtain ⟨fields, rfl, htree⟩ := Document.render_eq_ok hwf hrender
  refine ⟨.obj fields, Json.parseWith_write Json.Layout.indented_blank htree, ?_⟩
  intro e nav width he hwidth hnav hcursor
  have hfits : e.Fits width ↔ e.value.lineCount = 1 ∨ 2 * e.depth + (if e.last then 1 else 2) ≤ width := by
    rw [Entry.Fits, or_iff_right (show ¬ width ≤ 0 by omega)]
  rw [segments_eq htree he hnav, ← hfits, ← highlightRange_eq_iff htree he hnav hcursor, and_iff_left_iff_imp]
  -- the segments that are highlighted show the same text as the lines without wrapping
  intro hrange whole unwrapped hunwrapped hwhole hline mode
  have hjoin := join_highlightedLines htree he hnav hrange
  have hsame := (unwrapped_entry htree he hunwrapped hwhole hline).2
  unfold copyText Selection.text
  rw [hjoin, hsame]

/-- A string over four rows is highlighted as a whole. -/
theorem copy_wrapped_entry_string :
    ∃ nav : Navigator, nav.Shows "\x7b\n  \"a\": \"text abcdefgh\"\n\x7d".toList 8 ∧ nav.highlightRange = (1, 5) := by
  have hwf : (Value.document [("a", .string "text abcdefgh")]).WellFormed := by
    simp [Value.WellFormed, Value.WellFormedFields, keysOf]
  have hreadable : (Json.obj [("a", .str "text abcdefgh")]).Readable := ⟨by simp [keysOf], trivial, trivial⟩
  have hrender : Document.render false [("a", .string "text abcdefgh")] =
      .ok (Json.obj [("a", .str "text abcdefgh")]).indentedText := Document.render_of_encode (by rfl) hreadable
  obtain ⟨tree, htree, hcopy⟩ := copy_wrapped_entry_iff hwf hrender
  obtain rfl : Json.obj [("a", .str "text abcdefgh")] = tree :=
    Except.ok.inj ((Json.parseWith_write Json.Layout.indented_blank hreadable).symm.trans htree)
  have hshows := (make_shows (Json.obj [("a", .str "text abcdefgh")]).indentedText 8 5).move .down
  have hentry : Entry.In (.obj [("a", .str "text abcdefgh")]) ⟨some "a", .str "text abcdefgh", 1, 1, true⟩ :=
    .top (List.mem_singleton.2 rfl)
  -- the string is cut in four, so the next line starts on row five
  have hrows : rowOf 8 (Json.obj [("a", .str "text abcdefgh")]).indentedText 1 = 1 ∧
      rowOf 8 (Json.obj [("a", .str "text abcdefgh")]).indentedText 2 = 5 := ⟨by rfl, by rfl⟩
  have hcopied := (hcopy _ _ 8 hentry (by decide) hshows hrows.1.symm).2 ⟨by decide +kernel, .inl rfl⟩
  refine ⟨_, hshows, hcopied.1.trans ?_⟩
  exact Prod.ext hrows.1 hrows.2

/-- A brace that starts a row is taken for the end of the document, though it stands in a string. -/
theorem copy_wrapped_entry_brace :
    ∃ (tree : Json) (text : List Char) (e : Entry) (nav : Navigator),
      Document.render false [("a", .string "text \x7d abcdefgh")] = .ok text ∧ Json.parse text = .ok tree ∧
      e.In tree ∧ nav.Shows text 6 ∧ nav.window.cursor = rowOf 6 text e.line ∧
      nav.highlightRange = (1, 3) ∧ (rowOf 6 text e.line, rowOf 6 text (e.line + e.value.lineCount)) = (1, 6) ∧
      nav.copyText .value = "\"text".toList := by
  have hreadable : (Json.obj [("a", .str "text \x7d abcdefgh")]).Readable := ⟨by simp [keysOf], trivial, trivial⟩
  refine ⟨.obj [("a", .str "text \x7d abcdefgh")], _, ⟨some "a", .str "text \x7d abcdefgh", 1, 1, true⟩, _,
    Document.render_of_encode (by rfl) hreadable, Json.parseWith_write Json.Layout.indented_blank hreadable,
    .top (List.mem_singleton.2 rfl), (make_shows _ 6 10).move .down, by rfl, ?_, by rfl, ?_⟩
  · decide +kernel
  · decide +kernel

end Navigator

end DocBrowser
