import Mathlib
import DocBrowser.Proofs.Navigator.Cursor
/-!
# Moving counts lines

Scrolling and selection share the line of the cursor between them, and each move changes one of the two. For the
line this makes no difference: moves count it up and down and stop at the first line and at the last. A new
height pulls the two back each on its own, so that the cursor stays on its line only where neither is pulled.
-/

namespace DocBrowser

namespace Window

/-! ## Moves as counting -/

/-- What a move does to the number of a line, between zero and a last line; subtraction stops at zero. -/
def Move.count (last page : ℕ) : Move → ℕ → ℕ
  | .down, line => min (line + 1) last
  | .up, line => line - 1
  | .top, _ => 0
  | .bottom, _ => last
  | .pageDown, line => min (line + page) last
  | .pageUp, line => line - page

/-- Up is always one line less, whichever part gives it. -/
theorem cursor_moveUp (w : Window) : w.moveUp.cursor = w.cursor - 1 := by
  unfold moveUp
  split_ifs with hselected hscroll
  · show w.scroll + (w.selected - 1) = w.scroll + w.selected - 1
    omega
  · show w.scroll - 1 + w.selected = w.scroll + w.selected - 1
    omega
  · show w.scroll + w.selected = w.scroll + w.selected - 1
    omega

theorem cursor_repeat_moveUp (w : Window) (count : ℕ) : (Nat.repeat moveUp count w).cursor = w.cursor - count := by
  induction count with
  | zero => rfl
  | succ count ih => rw [Nat.repeat, cursor_moveUp, ih, Nat.sub_sub]

section

variable {w : Window} (h : w.Placed)

include h

theorem Placed.cursor_le : w.cursor ≤ w.total - 1 := by
  have hlt := h.cursor_mem.2
  rw [visibleRange, lt_min_iff] at hlt
  omega

/-- Down is one line more up to the last: where the selection is at the end of the window, the window scrolls. -/
theorem Placed.cursor_moveDown : w.moveDown.cursor = min (w.cursor + 1) (w.total - 1) := by
  obtain ⟨hscroll, hheight, htotal⟩ := placed_iff.1 h
  unfold Window.moveDown
  split_ifs with hselected hmore
  · rw [visibleCount] at hselected
    show w.scroll + (w.selected + 1) = min (w.scroll + w.selected + 1) (w.total - 1)
    omega
  · rw [lastScroll] at hmore
    show w.scroll + 1 + w.selected = min (w.scroll + w.selected + 1) (w.total - 1)
    omega
  · -- neither the selection nor the window can go on, so this is the last line
    rw [visibleCount] at hselected
    rw [lastScroll] at hmore
    show w.scroll + w.selected = min (w.scroll + w.selected + 1) (w.total - 1)
    omega

theorem Placed.cursor_repeat_moveDown (count : ℕ) :
    (Nat.repeat Window.moveDown count w).cursor = min (w.cursor + count) (w.total - 1) := by
  have hplaced (n : ℕ) : (Nat.repeat Window.moveDown n w).Placed := repeat_keeps (p := Placed) Placed.moveDown n h
  have htotal (n : ℕ) : (Nat.repeat Window.moveDown n w).total = w.total :=
    repeat_keeps (p := fun v : Window => v.total = w.total) (fun hv => ((move_frame _ .down).1).trans hv) n rfl
  induction count with
  | zero => exact (min_eq_left h.cursor_le).symm
  | succ count ih =>
    rw [Nat.repeat, (hplaced count).cursor_moveDown, ih, htotal]
    omega

/-- Every move of a placed window counts its line. -/
theorem Placed.cursor_move (step : Move) :
    (w.move step).cursor = step.count (w.total - 1) (max 1 (w.height / 2)) w.cursor := by
  obtain ⟨-, hheight, htotal⟩ := placed_iff.1 h
  cases step with
  | down => exact h.cursor_moveDown
  | up => exact w.cursor_moveUp
  | top => rfl
  | bottom =>
    show w.lastScroll + (w.visibleCount - 1) = w.total - 1
    unfold lastScroll visibleCount
    omega
  | pageDown => exact h.cursor_repeat_moveDown _
  | pageUp => exact w.cursor_repeat_moveUp _

/-- Moves count the line one after the other, with the same last line and the same page. -/
theorem Placed.cursor_foldl_move (steps : List Move) :
    (steps.foldl Window.move w).cursor =
      steps.foldl (fun line step => step.count (w.total - 1) (max 1 (w.height / 2)) line) w.cursor := by
  induction steps generalizing w with
  | nil => rfl
  | cons step steps ih =>
    obtain ⟨htotal, hheight⟩ := w.move_frame step
    rw [List.foldl_cons, List.foldl_cons, ih (h.move step), h.cursor_move, htotal, hheight]

/-- At another height the cursor stays on its line exactly if the window may start where it did and still shows it. -/
theorem Placed.cursor_clamp_eq_iff {height : ℕ} (hheight : 0 < height) :
    { w with height }.clamp.cursor = w.cursor ↔ w.scroll ≤ w.total - height ∧ w.selected < height := by
  have htotal := (placed_iff.1 h).2.2
  show min w.scroll (w.total - height) + min w.selected (min height w.total - 1) = w.scroll + w.selected ↔ _
  omega

end

end Window

namespace Navigator

/-- The moves of a navigator are those of its window. -/
theorem window_foldl_move (nav : Navigator) (steps : List Window.Move) :
    (steps.foldl move nav).window = steps.foldl Window.move nav.window := by
  induction steps generalizing nav with
  | nil => rfl
  | cons step steps ih => rw [List.foldl_cons, ih, List.foldl_cons, move]

/--
Whatever was called before, moves count the line of the cursor. It depends on the line where they start, on the
number of lines and on the height of the window, and not on how far the window is scrolled.
-/
theorem cursor_moves (view : View) (calls : List Call) (steps : List Window.Move) :
    (steps.foldl move (run view calls)).window.cursor =
      steps.foldl (fun line step => step.count ((run view calls).lines.length - 1)
        (max 1 ((run view calls).window.height / 2)) line) (run view calls).window.cursor := by
  have h := fits_run view calls
  rw [window_foldl_move, h.placed.cursor_foldl_move, h.total_eq]

/-- A view of the same width and another height shows the same lines through a window that is clamped. -/
theorem Fits.resize_width {nav : Navigator} {view : View} (h : nav.Fits view) (height : ℤ) :
    (nav.resize nav.width height).lines = nav.lines ∧
      (nav.resize nav.width height).window = { nav.window with height := Window.heightOf height }.clamp := by
  have hlines : Line.wrap nav.width nav.text = nav.lines := by
    rw [h.shows.lines_eq, h.shows.width_eq, h.shows.text_eq]
  refine ⟨hlines, ?_⟩
  show Window.clamp { nav.window with
    total := (Line.wrap nav.width nav.text).length, height := Window.heightOf height } = _
  rw [hlines, ← h.total_eq]

/--
A view of the same width and another height shows the same lines. The first line shown and the selection are pulled
in each on its own: the one to where the window may start, the other to its last line. So the cursor stays on its
line exactly if neither of them is pulled in.
-/
theorem cursor_resize_iff (view : View) (calls : List Call) (height : ℤ) :
    ((run view calls).resize (run view calls).width height).lines = (run view calls).lines ∧
      ((run view calls).resize (run view calls).width height).window.cursor =
        min (run view calls).window.scroll ((run view calls).lines.length - Window.heightOf height) +
          min (run view calls).window.selected (min (Window.heightOf height) (run view calls).lines.length - 1) ∧
      (((run view calls).resize (run view calls).width height).window.cursor = (run view calls).window.cursor ↔
        (run view calls).window.scroll ≤ (run view calls).lines.length - Window.heightOf height ∧
          (run view calls).window.selected < Window.heightOf height) := by
  have h := fits_run view calls
  obtain ⟨hlines, hwindow⟩ := h.resize_width height
  rw [hlines, hwindow, ← h.total_eq]
  exact ⟨rfl, rfl, h.placed.cursor_clamp_eq_iff (Window.heightOf_pos height)⟩

/-- A window that gets lower leaves the cursor behind, though it could scroll to it. -/
theorem not_cursor_resize :
    ¬ ∀ (view : View) (calls : List Call) (height : ℤ),
      ((run view calls).resize (run view calls).width height).window.cursor = (run view calls).window.cursor := by
  intro h
  exact absurd (h ⟨"\x7b\n\x7d".toList, 0, 2⟩ [.move .down] 1) (by decide)

end Navigator

end DocBrowser
