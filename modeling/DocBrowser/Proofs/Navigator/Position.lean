import Mathlib
import DocBrowser.Navigator.Window
/-!
# Windows in integers

The numbers of a window are natural, so they cannot fall below zero. Here the same steps are taken in integers, where
subtraction does not stop at zero and only the check in front of each step keeps a number from falling below it. Every
step of a window is the step in integers, and steps in integers keep scrolling and selection within the text from both
sides.
-/

namespace DocBrowser

/-- A page is a number of steps: it keeps whatever each of them keeps. -/
theorem Window.repeat_keeps {α : Type} {p : α → Prop} {step : α → α} (hstep : ∀ {a}, p a → p (step a)) (count : ℕ)
    {a : α} (h : p a) : p (Nat.repeat step count a) := by
  induction count with
  | zero => exact h
  | succ count ih => exact hstep ih

/-- A window with integers for its numbers. -/
structure Position where
  total : ℤ
  height : ℤ
  scroll : ℤ := 0
  selected : ℤ := 0

namespace Position

/-! ## Steps -/

/-- The furthest that the window scrolls. -/
def lastScroll (p : Position) : ℤ := max 0 (p.total - p.height)

/-- The number of lines shown. -/
def visibleCount (p : Position) : ℤ := min p.height p.total

/-- Pulls scrolling and selection back into the text. -/
def clamp (p : Position) : Position :=
  { p with scroll := max 0 (min p.scroll p.lastScroll), selected := max 0 (min p.selected (p.visibleCount - 1)) }

/-- One line down. -/
def moveDown (p : Position) : Position :=
  if p.selected < p.visibleCount - 1 then { p with selected := p.selected + 1 }
  else if p.scroll < p.lastScroll then { p with scroll := p.scroll + 1 }
  else p

/-- One line up. -/
def moveUp (p : Position) : Position :=
  if 0 < p.selected then { p with selected := p.selected - 1 }
  else if 0 < p.scroll then { p with scroll := p.scroll - 1 }
  else p

/-- The number of lines that a page moves by. -/
def pageLength (p : Position) : ℕ := (max 1 (p.height / 2)).toNat

/-- Moves the cursor. -/
def move (p : Position) : Window.Move → Position
  | .down => p.moveDown
  | .up => p.moveUp
  | .top => { p with scroll := 0, selected := 0 }
  | .bottom => { p with scroll := p.lastScroll, selected := max 0 (p.visibleCount - 1) }
  | .pageDown => Nat.repeat moveDown p.pageLength p
  | .pageUp => Nat.repeat moveUp p.pageLength p

/-! ## Staying in the text -/

/-- Scrolling and selection lie within the text. -/
structure InText (p : Position) : Prop where
  scroll_nonneg : 0 ≤ p.scroll
  scroll_le : p.scroll ≤ p.lastScroll
  selected_nonneg : 0 ≤ p.selected
  selected_lt : p.selected < p.visibleCount

section

variable {p : Position} (h : p.InText)

include h

theorem InText.moveDown : p.moveDown.InText := by
  unfold Position.moveDown
  split_ifs with hselected hscroll
  · refine ⟨h.scroll_nonneg, h.scroll_le, ?_, ?_⟩
    · exact Int.add_nonneg h.selected_nonneg zero_le_one
    · exact Int.add_lt_of_lt_sub_right hselected
  · refine ⟨?_, Int.add_one_le_of_lt hscroll, h.selected_nonneg, h.selected_lt⟩
    exact Int.add_nonneg h.scroll_nonneg zero_le_one
  · exact h

/-- A step upwards is only taken from a number above zero. -/
theorem InText.moveUp : p.moveUp.InText := by
  unfold Position.moveUp
  split_ifs with hselected hscroll
  · refine ⟨h.scroll_nonneg, h.scroll_le, Int.le_sub_one_of_lt hselected, ?_⟩
    exact (Int.sub_lt_self _ one_pos).trans h.selected_lt
  · refine ⟨Int.le_sub_one_of_lt hscroll, ?_, h.selected_nonneg, h.selected_lt⟩
    exact (Int.sub_le_self _ zero_le_one).trans h.scroll_le
  · exact h

theorem InText.move (step : Window.Move) : (p.move step).InText := by
  have hcount : 0 < p.visibleCount := h.selected_nonneg.trans_lt h.selected_lt
  cases step with
  | down => exact h.moveDown
  | up => exact h.moveUp
  | top => exact ⟨le_rfl, le_max_left _ _, le_rfl, hcount⟩
  | bottom => exact ⟨le_max_left _ _, le_rfl, le_max_left _ _, max_lt hcount (Int.sub_lt_self _ one_pos)⟩
  | pageDown => exact Window.repeat_keeps (p := InText) InText.moveDown _ h
  | pageUp => exact Window.repeat_keeps (p := InText) InText.moveUp _ h

end

/-- Clamping leaves the window in a text that has lines. -/
theorem inText_clamp {p : Position} (htotal : 0 < p.total) (hheight : 0 < p.height) : p.clamp.InText := by
  have hcount : 0 < p.visibleCount := lt_min hheight htotal
  refine ⟨le_max_left _ _, max_le (le_max_left _ _) (min_le_right _ _), le_max_left _ _, max_lt hcount ?_⟩
  exact (min_le_right _ _).trans_lt (Int.sub_lt_self _ one_pos)

/-- The top of a text with lines lies in it. -/
theorem inText_top {total height : ℤ} (htotal : 0 < total) (hheight : 0 < height) : InText { total, height } :=
  ⟨le_rfl, le_max_left _ _, le_rfl, lt_min hheight htotal⟩

end Position

/-! ## The numbers of a window -/

namespace Window

/-- The numbers of a window as integers. -/
def position (w : Window) : Position := ⟨w.total, w.height, w.scroll, w.selected⟩

theorem natCast_heightOf (height : ℤ) : (heightOf height : ℤ) = max 1 height := by
  rw [heightOf]
  omega

theorem lastScroll_position (w : Window) : w.position.lastScroll = w.lastScroll := by
  simp only [Position.lastScroll, position, lastScroll]
  omega

theorem visibleCount_position (w : Window) : w.position.visibleCount = w.visibleCount := by
  simp only [Position.visibleCount, position, visibleCount]
  omega

theorem position_moveDown (w : Window) : w.moveDown.position = w.position.moveDown := by
  have hselected : w.position.selected < w.position.visibleCount - 1 ↔ w.selected + 1 < w.visibleCount := by
    rw [visibleCount_position]
    show (w.selected : ℤ) < _ ↔ _
    omega
  have hscroll : w.position.scroll < w.position.lastScroll ↔ w.scroll < w.lastScroll := by
    rw [lastScroll_position]
    show (w.scroll : ℤ) < _ ↔ _
    omega
  simp only [moveDown, Position.moveDown, hselected, hscroll]
  split_ifs <;> simp [position]

theorem position_moveUp (w : Window) : w.moveUp.position = w.position.moveUp := by
  have hselected : 0 < w.position.selected ↔ 0 < w.selected := Int.natCast_pos
  have hscroll : 0 < w.position.scroll ↔ 0 < w.scroll := Int.natCast_pos
  simp only [moveUp, Position.moveUp, hselected, hscroll]
  -- a number that is not zero is lowered by one in either way of counting
  split_ifs with h h'
  · simp [position, Nat.cast_pred h]
  · simp [position, Nat.cast_pred h']
  · rfl

theorem position_repeat {step : Window → Window} {step' : Position → Position}
    (hstep : ∀ w : Window, (step w).position = step' w.position) (count : ℕ) (w : Window) :
    (Nat.repeat step count w).position = Nat.repeat step' count w.position := by
  induction count with
  | zero => rfl
  | succ count ih => rw [Nat.repeat, hstep, ih, Nat.repeat]

theorem pageLength_position (w : Window) : w.position.pageLength = w.pageLength := by
  simp only [Position.pageLength, position, pageLength]
  omega

/-- Every movement of a window is the movement in integers. -/
theorem position_move (w : Window) (step : Move) : (w.move step).position = w.position.move step := by
  cases step with
  | down => exact w.position_moveDown
  | up => exact w.position_moveUp
  | top => rfl
  | bottom =>
    rw [Position.move, lastScroll_position, visibleCount_position]
    simp only [move, moveToBottom, position, Position.mk.injEq, true_and]
    omega
  | pageDown =>
    rw [Position.move, pageLength_position]
    exact position_repeat position_moveDown _ w
  | pageUp =>
    rw [Position.move, pageLength_position]
    exact position_repeat position_moveUp _ w

theorem position_clamp (w : Window) : w.clamp.position = w.position.clamp := by
  rw [Position.clamp, lastScroll_position, visibleCount_position]
  simp only [clamp, position, Position.mk.injEq, true_and]
  omega

end Window

end DocBrowser
