/-!
# Marked-up text

Text for the console may hold tags in square brackets, which style what stands behind them and are
not shown. A backslash in front of a tag shows the tag itself, so text of any content is put into
marked-up text by escaping it first.
-/

namespace DocBrowser.Markup

/-- Whether a character can follow the bracket that opens a tag. -/
def startsTag (c : Char) : Bool := c.isLower || c = '#' || c = '/' || c = '@'

/-- The rest of a tag up to its closing bracket, and what follows; no tag holds an opening bracket. -/
def closeTag? : List Char → Option (List Char × List Char)
  | [] => none
  | c :: rest =>
    if c = ']' then some ([c], rest)
    else if c = '[' then none
    else (closeTag? rest).map fun (tag, behind) => (c :: tag, behind)

/-- The tag at the start of a text, and what follows. -/
def tag? : List Char → Option (List Char × List Char)
  | '[' :: c :: rest =>
    if startsTag c then (closeTag? rest).map fun (tag, behind) => ('[' :: c :: tag, behind) else none
  | _ => none

/-- What follows a tag is shorter than the text in front of it. -/
theorem length_behind_closeTag? {text tag behind : List Char}
    (h : closeTag? text = some (tag, behind)) : behind.length < text.length := by
  induction text generalizing tag behind with
  | nil => simp [closeTag?] at h
  | cons c rest ih =>
    unfold closeTag? at h
    split at h
    · simp at h; simp [← h.2]
    · split at h
      · simp at h
      · simp only [Option.map_eq_some_iff, Prod.mk.injEq] at h
        obtain ⟨⟨t, b⟩, found, -, rfl⟩ := h
        have := ih found
        simp; omega

/-- What follows a tag is shorter than the text that the tag starts. -/
theorem length_behind_tag? {text tag behind : List Char}
    (h : tag? text = some (tag, behind)) : behind.length < text.length := by
  unfold tag? at h
  split at h
  · split at h
    · simp only [Option.map_eq_some_iff, Prod.mk.injEq] at h
      obtain ⟨⟨t, b⟩, found, -, rfl⟩ := h
      have := length_behind_closeTag? found
      simp; omega
    · simp at h
  · simp at h

/-! ## Escaping -/

/-- Escapes the rest of a text behind some backslashes that have been read but not written. -/
def escapeFrom (slashes : Nat) : List Char → List Char
  | [] => List.replicate slashes '\\'
  | c :: rest =>
    if c = '\\' then escapeFrom (slashes + 1) rest
    else
      let count := if (tag? (c :: rest)).isSome then 2 * slashes + 1 else slashes
      List.replicate count '\\' ++ c :: escapeFrom 0 rest

/-- Closes a text whose last backslash would take away the meaning of what is put behind it. -/
def closeSlash (text : List Char) : List Char :=
  match text.reverse with
  | '\\' :: '\\' :: _ => text
  | '\\' :: _ => text ++ ['\\']
  | _ => text

/-- Marked-up text that shows a text. -/
def escape (text : List Char) : List Char := closeSlash (escapeFrom 0 text)

/-! ## Showing -/

/-- The number of backslashes at the start of a text, and what follows them. -/
def takeSlashes : List Char → Nat × List Char
  | '\\' :: rest =>
    let (count, behind) := takeSlashes rest
    (count + 1, behind)
  | text => (0, text)

/-- What follows backslashes is not longer than the text. -/
theorem length_behind_takeSlashes (text : List Char) : (takeSlashes text).2.length ≤ text.length := by
  fun_induction takeSlashes text with
  | case1 rest count behind h ih => simp [h] at ih; simp; omega
  | case2 => simp

/-- What a tag behind backslashes shows: half of them, and the tag itself if one is left over. -/
def shownTag (slashes : Nat) (tag : List Char) : List (List Char) :=
  (if slashes / 2 = 0 then [] else [List.replicate (slashes / 2) '\\']) ++
    (if slashes % 2 = 0 then [] else [tag])

/-- The pieces of marked-up text between its tags, where `before` has been read of the first one. -/
def piecesFrom (before : List Char) (text : List Char) : List (List Char) :=
  match text with
  | [] => [before]
  | c :: rest =>
    match h : tag? (takeSlashes (c :: rest)).2 with
    | some (tag, behind) =>
      have : behind.length < (c :: rest).length :=
        Nat.lt_of_lt_of_le (length_behind_tag? h) (length_behind_takeSlashes _)
      before :: shownTag (takeSlashes (c :: rest)).1 tag ++ piecesFrom [] behind
    | none => piecesFrom (before ++ [c]) rest
termination_by text.length
decreasing_by all_goals (simp only [List.length_cons] at *; omega)

/-- Shows a bracket that stands behind a backslash without the backslash. -/
def bareBrackets : List Char → List Char
  | '\\' :: '[' :: rest => '[' :: bareBrackets rest
  | c :: rest => c :: bareBrackets rest
  | [] => []

/-- The pieces of text that marked-up text shows. -/
def pieces (text : List Char) : List (List Char) := (piecesFrom [] text).map bareBrackets

end DocBrowser.Markup
