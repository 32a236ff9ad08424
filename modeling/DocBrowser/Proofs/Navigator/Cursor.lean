import Mathlib
import DocBrowser.Navigator.Paint
import DocBrowser.Proofs.Navigator.Copy
import DocBrowser.Proofs.Navigator.Position
/-!
# The cursor stays in view

Text, size and cursor of a navigator change on their own, and every change leaves the window on the
text and the cursor in the window. Whatever was called before, the value under the cursor is then a
run of lines of the text, and the rows painted on a background are the rows of the lines that are copied.
-/

namespace DocBrowser

namespace Window

/-! ## Windows on a text -/

/-- A window shows lines of its text only, and one of these is selected. -/
structure Placed (w : Window) : Prop where
  scroll_le : w.scroll ≤ w.lastScroll
  selected_lt : w.selected < w.visibleCount

/-- A window is placed by its numbers: its text and its height have lines, and both numbers have room. -/
theorem placed_iff {w : Window} :
    w.Placed ↔ w.scroll ≤ w.total - w.height ∧ w.selected < w.height ∧ w.selected < w.total := by
  refine ⟨fun h => ⟨h.scroll_le, lt_min_iff.1 h.selected_lt⟩, fun h => ⟨h.1, lt_min_iff.2 h.2⟩⟩

/-- Moving leaves the text and the height of the window alone. -/
theorem move_frame (w : Window) (step : Move) :
    (w.move step).total = w.total ∧ (w.move step).height = w.height := by
  have hdown {v : Window} (h : v.total = w.total ∧ v.height = w.height) :
      v.moveDown.total = w.total ∧ v.moveDown.height = w.height := by
    unfold moveDown
    split_ifs <;> exact h
  have hup {v : Window} (h : v.total = w.total ∧ v.height = w.height) :
      v.moveUp.total = w.total ∧ v.moveUp.height = w.height := by
    unfold moveUp
    split_ifs <;> exact h
  -- a page is a step repeated, and no step changes the frame
  cases step with
  | down => exact hdown ⟨rfl, rfl⟩
  | up => exact hup ⟨rfl, rfl⟩
  | top | bottom => exact ⟨rfl, rfl⟩
  | pageDown => exact repeat_keeps (p := fun v : Window => v.total = w.total ∧ v.height = w.height) hdown _ ⟨rfl, rfl⟩
  | pageUp => exact repeat_keeps (p := fun v : Window => v.total = w.total ∧ v.height = w.height) hup _ ⟨rfl, rfl⟩

section

variable {w : Window} (h : w.Placed)

include h

theorem Placed.moveDown : w.moveDown.Placed := by
  unfold Window.moveDown
  split_ifs with hselected hscroll
  · exact ⟨h.scroll_le, hselected⟩
  · exact ⟨hscroll, h.selected_lt⟩
  · exact h

theorem Placed.moveUp : w.moveUp.Placed := by
  unfold Window.moveUp
  split_ifs
  · exact ⟨h.scroll_le, (Nat.sub_le _ _).trans_lt h.selected_lt⟩
  · exact ⟨(Nat.sub_le _ _).trans h.scroll_le, h.selected_lt⟩
  · exact h

theorem Placed.move (step : Move) : (w.move step).Placed := by
  have hcount : 0 < w.visibleCount := (Nat.zero_le _).trans_lt h.selected_lt
  cases step with
  | down => exact h.moveDown
  | up => exact h.moveUp
  | top => exact ⟨Nat.zero_le _, hcount⟩
  | bottom => exact ⟨le_rfl, Nat.sub_one_lt_of_lt hcount⟩
  | pageDown => exact repeat_keeps (p := Placed) Placed.moveDown _ h
  | pageUp => exact repeat_keeps (p := Placed) Placed.moveUp _ h

/-- The cursor is on a line that is shown. -/
theorem Placed.cursor_mem : w.visibleRange.1 ≤ w.cursor ∧ w.cursor < w.visibleRange.2 := by
  obtain ⟨hscroll, hheight, htotal⟩ := placed_iff.1 h
  simp only [visibleRange, cursor, lt_min_iff]
  omega

end

/-- Clamping places a window of some height on a text with lines. -/
theorem placed_clamp {w : Window} (htotal : 0 < w.total) (hheight : 0 < w.height) : w.clamp.Placed := by
  have hcount : 0 < w.visibleCount := lt_min hheight htotal
  exact ⟨min_le_right _ _, (min_le_right _ _).trans_lt (Nat.sub_one_lt_of_lt hcount)⟩

theorem heightOf_pos (height : ℤ) : 0 < heightOf height := by
  rw [heightOf]
  omega

end Window

/-! ## Lines of a text -/

/-- A line has a first segment in a view of any width. -/
theorem Line.wrapOne_ne_nil (width : ℤ) (text : List Char) : wrapOne width text ≠ [] := by
  rw [wrapOne]
  dsimp only
  split_ifs <;> simp

/-- There is always a line to show. -/
theorem Line.wrap_ne_nil (width : ℤ) (text : List Char) : wrap width text ≠ [] := by
  have hne : Text.splitAt '\n' text ≠ [] := Text.splitAt_ne_nil '\n' text
  obtain ⟨line, rest, hlines⟩ := List.exists_cons_of_ne_nil hne
  rw [wrap, hlines, List.flatMap_cons]
  exact List.append_ne_nil_of_left_ne_nil (wrapOne_ne_nil _ _) _

namespace Highlight

theorem countNested_le_length (indent : ℕ) (lines : List (List Char)) : countNested indent lines ≤ lines.length := by
  induction lines with
  | nil => simp [countNested]
  | cons line rest ih =>
    simp only [countNested, List.length_cons]
    split_ifs <;> omega

theorem countBelow_le_length (indent : ℕ) (lines : List (List Char)) : countBelow indent lines ≤ lines.length := by
  induction lines with
  | nil => simp [countBelow]
  | cons line rest ih =>
    have hnested := countNested_le_length indent rest
    simp only [countBelow, List.length_cons]
    split_ifs <;> omega

/-- From a selected line on, a value takes lines of its text. -/
theorem range_of_lt {lines : List (List Char)} {selected : ℕ} (h : selected < lines.length) :
    (range lines selected).1 = selected ∧ selected < (range lines selected).2 ∧
      (range lines selected).2 ≤ lines.length := by
  have hbelow : selected + linesBelow lines selected < lines.length := by
    rw [linesBelow, List.getElem?_eq_getElem h]
    dsimp only
    split_ifs with hfirst hindent
    · omega
    · exact h
    · have hcount := countBelow_le_length (Line.leadingWidth lines[selected]) (lines.drop (selected + 1))
      rw [List.length_drop] at hcount
      omega
  rw [range, if_pos h]
  refine ⟨rfl, ?_, ?_⟩ <;> dsimp only <;> omega

end Highlight

/-! ## Painted rows -/

namespace Paint

/-- Rows are painted line by line: each has a background where its number is in the range. -/
theorem getElem?_rowsFrom (cursor : ℕ) (highlight : ℤ × ℤ) (place : Selection.Place) (number : ℕ)
    (texts : List (List Char)) (i : ℕ) :
    (rowsFrom cursor highlight place number texts)[i]? = texts[i]?.map
      (row ((texts.take i).foldl placeAfterLine place) (number + i = cursor)
        (highlight.1 ≤ (number + i : ℕ) && (number + i : ℕ) < highlight.2)) := by
  induction texts generalizing place number i with
  | nil => simp [rowsFrom]
  | cons text rest ih =>
    cases i with
    | zero => simp [rowsFrom]
    | succ i =>
      rw [rowsFrom, List.getElem?_cons_succ, List.getElem?_cons_succ, ih (placeAfterLine place text) (number + 1) i,
        Nat.add_assoc, Nat.add_comm 1 i]
      rfl

/-- The rows of a window are those of its lines, painted from where the line above has ended. -/
theorem getElem?_rows (lines : List (List Char)) (window : Window) (highlight : ℤ × ℤ) (i : ℕ) :
    (rows lines window highlight)[i]? =
      if i < window.height then
        lines[window.scroll + i]?.map
          (row ((lines.take (window.scroll + i)).foldl placeAfterLine .outside) (window.scroll + i = window.cursor)
            (highlight.1 ≤ (window.scroll + i : ℕ) && (window.scroll + i : ℕ) < highlight.2))
      else none := by
  rw [rows, getElem?_rowsFrom, List.getElem?_take]
  split_ifs with hi
  · rw [List.getElem?_drop, List.take_take, min_eq_left hi.le, ← List.foldl_append, List.take_add]
  · rfl

/-- A row always shows its marker. -/
theorem row_ne_nil (place : Selection.Place) (selected highlighted : Bool) (text : List Char) :
    row place selected highlighted text ≠ [] := by
  cases selected <;> simp [row, cells, markerOf]

theorem highlighted_of_mem_row {place : Selection.Place} {selected highlighted : Bool} {text : List Char} {cell : Cell}
    (h : cell ∈ row place selected highlighted text) : cell.highlighted = highlighted := by
  obtain ⟨-, -, rfl⟩ := List.mem_map.1 h
  rfl

/-- Each visible line has a row, which is painted on a background exactly if its number is in the range. -/
theorem rows_spec {lines : List (List Char)} {window : Window} (htotal : window.total = lines.length)
    (highlight : ℤ × ℤ) {n : ℕ} (hfirst : window.visibleRange.1 ≤ n) (hbehind : n < window.visibleRange.2) :
    ∃ row, (rows lines window highlight)[n - window.scroll]? = some row ∧ row ≠ [] ∧
      ∀ cell ∈ row, cell.highlighted = true ↔ highlight.1 ≤ n ∧ n < highlight.2 := by
  simp only [Window.visibleRange, lt_min_iff] at hfirst hbehind
  have hnumber : window.scroll + (n - window.scroll) = n := Nat.add_sub_cancel' hfirst
  have hrow := getElem?_rows lines window highlight (n - window.scroll)
  rw [if_pos (by omega), hnumber, List.getElem?_eq_getElem (show n < lines.length by omega), Option.map_some] at hrow
  refine ⟨_, hrow, row_ne_nil _ _ _ _, fun cell hcell => ?_⟩
  rw [highlighted_of_mem_row hcell]
  simp

end Paint

/-! ## Calls to a navigator -/

namespace Navigator

/-- What is asked of a navigator. -/
inductive Call where
  | openText (text : List Char)
  | resize (width height : ℤ)
  | move (step : Window.Move)

/-- What a navigator has been asked to show, and in a view of which size. -/
structure View where
  text : List Char
  width : ℤ
  height : ℤ

/-- What is asked for behind a call. -/
def View.after (view : View) : Call → View
  | .openText text => { view with text }
  | .resize width height => { view with width, height }
  | .move _ => view

/-- Does what is asked for. -/
def perform (nav : Navigator) : Call → Navigator
  | .openText text => nav.openText text
  | .resize width height => nav.resize width height
  | .move step => nav.move step

/-- The navigator behind calls, which starts at the top of what a view shows. -/
def run (view : View) (calls : List Call) : Navigator :=
  calls.foldl perform (make view.text view.width view.height)

/-- A navigator shows what a view asks for, through a window that is placed on the lines of the text. -/
structure Fits (nav : Navigator) (view : View) : Prop where
  shows : nav.Shows view.text view.width
  height_eq : nav.window.height = Window.heightOf view.height
  total_eq : nav.window.total = nav.lines.length
  placed : nav.window.Placed

theorem lines_ne_nil {nav : Navigator} {text : List Char} {width : ℤ} (h : nav.Shows text width) : nav.lines ≠ [] := by
  rw [h.lines_eq]
  exact Line.wrap_ne_nil width text

/-- At the top of a text with lines a window is placed, whatever its height. -/
theorem placed_top {lines : List Line} (hlines : lines ≠ []) (height : ℤ) :
    Window.Placed { total := lines.length, height := Window.heightOf height } :=
  ⟨Nat.zero_le _, lt_min (Window.heightOf_pos height) (List.length_pos_of_ne_nil hlines)⟩

theorem fits_make (view : View) : (make view.text view.width view.height).Fits view where
  shows := make_shows _ _ _
  height_eq := rfl
  total_eq := rfl
  placed := placed_top (Line.wrap_ne_nil _ _) _

/-- Every call leaves a placed window on the lines of what is asked for. -/
theorem Fits.perform {nav : Navigator} {view : View} (h : nav.Fits view) (call : Call) :
    (nav.perform call).Fits (view.after call) := by
  -- a new text starts at its top, a new size clamps, a move keeps the frame it moves in
  cases call with
  | openText text =>
    have hshows := h.shows.openText text
    refine ⟨hshows, h.height_eq, rfl, ?_⟩
    have hplaced := placed_top (lines_ne_nil hshows) view.height
    rw [← h.height_eq] at hplaced
    exact hplaced
  | resize width height =>
    have hshows := h.shows.resize width height
    refine ⟨hshows, rfl, rfl, Window.placed_clamp ?_ (Window.heightOf_pos height)⟩
    exact List.length_pos_of_ne_nil (lines_ne_nil hshows)
  | move step =>
    obtain ⟨htotal, hheight⟩ := nav.window.move_frame step
    exact ⟨h.shows.move step, hheight.trans h.height_eq, htotal.trans h.total_eq, h.placed.move step⟩

theorem fits_run (view : View) (calls : List Call) : (run view calls).Fits (calls.foldl View.after view) := by
  rw [run]
  induction calls using List.reverseRecOn with
  | nil => exact fits_make view
  | append_singleton calls call ih =>
    rw [List.foldl_concat, List.foldl_concat]
    exact ih.perform call

/-! ## What is highlighted and copied -/

/-- The rows that the window shows, painted with the value under the cursor on a background. -/
def paintedRows (nav : Navigator) : List (List Cell) :=
  Paint.rows nav.lineTexts nav.window (nav.highlightRange.1, nav.highlightRange.2)

section

variable {nav : Navigator} {view : View} (h : nav.Fits view)

include h

theorem Fits.cursor_lt : nav.window.cursor < nav.lines.length := by
  have hcursor := h.placed.cursor_mem.2
  simp only [Window.visibleRange, lt_min_iff, h.total_eq] at hcursor
  exact hcursor.2

/-- The value under the cursor starts at the cursor and ends within the text. -/
theorem Fits.highlightRange_spec :
    nav.highlightRange.1 = nav.window.cursor ∧ nav.window.cursor < nav.highlightRange.2 ∧
      nav.highlightRange.2 ≤ nav.lines.length := by
  have hlines : nav.lineTexts.length = nav.lines.length := by rw [h.shows.lineTexts_eq, List.length_map]
  have hcursor : nav.window.cursor < nav.lineTexts.length := hlines ▸ h.cursor_lt
  have hrange := Highlight.range_of_lt hcursor
  rwa [hlines] at hrange

theorem Fits.length_highlightedLines :
    nav.window.cursor + nav.highlightedLines.length = nav.highlightRange.2 := by
  obtain ⟨hfirst, hlt, hle⟩ := h.highlightRange_spec
  simp only [highlightedLines, List.length_drop, List.length_take, hfirst]
  omega

/-- What is copied is the lines behind each other from the cursor on. -/
theorem Fits.highlightedLines_prefix : nav.highlightedLines <+: nav.lines.drop nav.window.cursor := by
  simp only [highlightedLines, h.highlightRange_spec.1, List.drop_take]
  exact List.take_prefix _ _

/-- A visible line is painted on a background exactly if it is one of the lines that are copied. -/
theorem Fits.paintedRows_spec {n : ℕ} (hfirst : nav.window.visibleRange.1 ≤ n) (hbehind : n < nav.window.visibleRange.2) :
    ∃ row, nav.paintedRows[n - nav.window.scroll]? = some row ∧ row ≠ [] ∧ ∀ cell ∈ row, cell.highlighted = true ↔
      nav.window.cursor ≤ n ∧ n < nav.window.cursor + nav.highlightedLines.length := by
  have htotal : nav.window.total = nav.lineTexts.length := by
    rw [h.total_eq, h.shows.lineTexts_eq, List.length_map]
  obtain ⟨row, hrow, hne, hcells⟩ := Paint.rows_spec htotal (nav.highlightRange.1, nav.highlightRange.2) hfirst hbehind
  refine ⟨row, hrow, hne, fun cell hcell => ?_⟩
  rw [hcells cell hcell, h.highlightRange_spec.1, h.length_highlightedLines]
  simp

end

/-- Window, cursor and highlight lie within the text that is asked for, and what is copied is what is highlighted. -/
structure StaysInText (nav : Navigator) (asked : View) : Prop where
  lines_ne : nav.lines ≠ []
  lines_eq : nav.lines = Line.wrap asked.width asked.text
  lineTexts_eq : nav.lineTexts = (Line.wrap asked.width asked.text).map (·.text)
  total_eq : nav.window.total = nav.lines.length
  height_eq : nav.window.height = Window.heightOf asked.height
  scroll_le : nav.window.scroll ≤ nav.window.lastScroll
  selected_lt : nav.window.selected < min nav.window.height nav.lines.length
  cursor_visible : nav.window.visibleRange.1 ≤ nav.window.cursor ∧ nav.window.cursor < nav.window.visibleRange.2
  visible_le : nav.window.visibleRange.2 ≤ nav.lines.length
  highlight_start : nav.highlightRange.1 = nav.window.cursor
  highlight_end : nav.window.cursor < nav.highlightRange.2 ∧ nav.highlightRange.2 ≤ nav.lines.length
  /-- The copied lines are those of the highlighted range. -/
  copied : nav.highlightedLines <+: nav.lines.drop nav.window.cursor ∧
    nav.window.cursor + nav.highlightedLines.length = nav.highlightRange.2
  /-- A visible line is painted on a background exactly if it is one of the copied lines. -/
  painted : ∀ n, nav.window.visibleRange.1 ≤ n → n < nav.window.visibleRange.2 →
    ∃ row, nav.paintedRows[n - nav.window.scroll]? = some row ∧ row ≠ [] ∧ ∀ cell ∈ row,
      cell.highlighted = true ↔ nav.window.cursor ≤ n ∧ n < nav.window.cursor + nav.highlightedLines.length

/-! ## Counted in integers -/

/-- The numbers of the window behind a call, counted in integers, where a view was shown. -/
def View.count (view : View) (position : Position) : Call → Position
  | .openText text => { position with total := (Line.wrap view.width text).length, scroll := 0, selected := 0 }
  | .resize width height =>
    { position with total := (Line.wrap width view.text).length, height := max 1 height : Position }.clamp
  | .move step => position.move step

/-- What is shown behind calls, and the numbers of its window counted in integers. -/
def counted (view : View) (calls : List Call) : View × Position :=
  calls.foldl (fun shown call => (shown.1.after call, shown.1.count shown.2 call))
    (view, { total := (Line.wrap view.width view.text).length, height := max 1 view.height })

theorem counted_concat (view : View) (calls : List Call) (call : Call) :
    counted view (calls ++ [call]) =
      ((counted view calls).1.after call, (counted view calls).1.count (counted view calls).2 call) :=
  List.foldl_concat _ _ _ _

theorem counted_fst (view : View) (calls : List Call) : (counted view calls).1 = calls.foldl View.after view := by
  induction calls using List.reverseRecOn with
  | nil => rfl
  | append_singleton calls call ih => rw [counted_concat, List.foldl_concat, ih]

theorem length_wrap_pos (width : ℤ) (text : List Char) : (0 : ℤ) < (Line.wrap width text).length :=
  Int.natCast_pos.2 (List.length_pos_of_ne_nil (Line.wrap_ne_nil width text))

/-- Counted in integers, a call leaves scrolling and selection within the text. -/
theorem View.inText_count (view : View) {position : Position} (h : position.InText) (call : Call) :
    (view.count position call).InText := by
  cases call with
  | openText text =>
    have hheight : 0 < position.height := (h.selected_nonneg.trans_lt h.selected_lt).trans_le (min_le_left _ _)
    exact Position.inText_top (length_wrap_pos _ _) hheight
  | resize width height => exact Position.inText_clamp (length_wrap_pos _ _) (lt_max_of_lt_left one_pos)
  | move step => exact h.move step

/-- A call leaves the window with the numbers that are counted in integers. -/
theorem Fits.position_perform {nav : Navigator} {view : View} (h : nav.Fits view) (call : Call) :
    (nav.perform call).window.position = view.count nav.window.position call := by
  cases call with
  | openText text =>
    rw [View.count, ← h.shows.width_eq]
    rfl
  | resize width height =>
    rw [View.count, ← h.shows.text_eq, ← Window.natCast_heightOf]
    exact Window.position_clamp _
  | move step => exact nav.window.position_move step

/-- Along every run the window has the numbers that are counted in integers, and these stay within the text. -/
theorem position_run (view : View) (calls : List Call) :
    (run view calls).window.position = (counted view calls).2 ∧ (counted view calls).2.InText := by
  induction calls using List.reverseRecOn with
  | nil =>
    refine ⟨?_, Position.inText_top (length_wrap_pos _ _) (lt_max_of_lt_left one_pos)⟩
    rw [counted, List.foldl_nil, ← Window.natCast_heightOf]
    rfl
  | append_singleton calls call ih =>
    obtain ⟨hposition, hinText⟩ := ih
    have hfits := fits_run view calls
    rw [← counted_fst] at hfits
    rw [counted_concat, run, List.foldl_concat, ← run, hfits.position_perform, hposition]
    exact ⟨rfl, View.inText_count _ hinText call⟩

/--
Whatever was called before, window, cursor and highlight lie within the text that was asked for last. The numbers of
the window are those that the same calls lead to in integers, where it is their own checks that keep scrolling and
selection from falling below zero.
-/
theorem run_staysInText (view : View) (calls : List Call) :
    (run view calls).StaysInText (calls.foldl View.after view) ∧
      (run view calls).window.position = (counted view calls).2 ∧ (counted view calls).2.InText := by
  have h := fits_run view calls
  obtain ⟨hfirst, hcursor, hbehind⟩ := h.highlightRange_spec
  have hselected := h.placed.selected_lt
  rw [Window.visibleCount, h.total_eq] at hselected
  refine ⟨?_, position_run view calls⟩
  exact {
    lines_ne := lines_ne_nil h.shows
    lines_eq := h.shows.lines_eq
    lineTexts_eq := by rw [h.shows.lineTexts_eq, h.shows.lines_eq]
    total_eq := h.total_eq
    height_eq := h.height_eq
    scroll_le := h.placed.scroll_le
    selected_lt := hselected
    cursor_visible := h.placed.cursor_mem
    visible_le := h.total_eq ▸ min_le_right _ _
    highlight_start := hfirst
    highlight_end := ⟨hcursor, hbehind⟩
    copied := ⟨h.highlightedLines_prefix, h.length_highlightedLines⟩
    painted := fun _ => h.paintedRows_spec }

end Navigator

end DocBrowser
