import Mathlib
import DocBrowser.Proofs.Json.Members
import DocBrowser.Proofs.Navigator.Highlight
/-!
# Entries of a tree on its lines

Every member of an array or an object, at any depth of a tree, stands on lines of its own: on one, or
on those between its brackets and these. The lines of its own members lie below its first line and
deeper, and what follows its last line is no deeper than itself.
-/

namespace DocBrowser.Json

/-! ## Entries -/

mutual

/-- The number of lines that data takes when it is laid out over many. -/
def lineCount : Json → ℕ
  | .arr [] | .obj [] => 1
  | .arr items => lineCountItems items + 2
  | .obj fields => lineCountFields fields + 2
  | _ => 1

/-- The number of lines of all items. -/
def lineCountItems : List Json → ℕ
  | [] => 0
  | item :: rest => lineCount item + lineCountItems rest

/-- The number of lines of all fields. -/
def lineCountFields : List (String × Json) → ℕ
  | [] => 0
  | (_, value) :: rest => lineCount value + lineCountFields rest

end

/-- A value in a tree, and where it stands when the tree is laid out over many lines. -/
structure Entry where
  /-- The key of a field; an item of an array has none. -/
  key? : Option String
  value : Json
  /-- The number of brackets around it. -/
  depth : ℕ
  /-- Its first line, counted from zero. -/
  line : ℕ
  /-- Whether nothing follows it within the same brackets. -/
  last : Bool

/-- Members as entries at a depth, one below the other from a line on. -/
def placed (depth line : ℕ) : List (Option String × Json) → List Entry
  | [] => []
  | (key?, value) :: rest =>
    ⟨key?, value, depth, line, rest.isEmpty⟩ :: placed depth (line + value.lineCount) rest

namespace Entry

/-- A whole tree. -/
def root (tree : Json) : Entry := ⟨none, tree, 0, 0, true⟩

/-- The entries right inside an entry, below the line of its opening bracket. -/
def children (e : Entry) : List Entry := placed (e.depth + 1) (e.line + 1) e.value.members

/-- An entry stands somewhere in a tree. -/
inductive In (tree : Json) : Entry → Prop where
  | top {e : Entry} (h : e ∈ (root tree).children) : In tree e
  | nested {e c : Entry} (h : In tree e) (hc : c ∈ e.children) : In tree c

/-! ## The text of an entry -/

/-- The blanks in front. -/
def margin (e : Entry) : List Char := List.replicate (2 * e.depth) ' '

/-- The comma behind, if anything follows within the same brackets. -/
def comma (e : Entry) : List Char := if e.last then [] else [',']

/-- All that is written of an entry, with its margin. -/
def text (e : Entry) : List Char :=
  e.margin ++ (label .indented e.key? ++ (writeAt ⟨.indented, false⟩ e.depth e.value ++ e.comma))

/-- The lines of an entry. -/
def lines (e : Entry) : List (List Char) := Text.splitAt '\n' e.text

/-- The line of the opening bracket. -/
def openingLine (e : Entry) : List Char := e.margin ++ (label .indented e.key? ++ [e.value.opening])

/-- The line of the closing bracket. -/
def closingLine (e : Entry) : List Char := e.margin ++ e.value.closing :: e.comma

end Entry

/-! ## Members below each other -/

section

variable {depth : ℕ}

variable (depth) in
/-- Entries with a newline in front of each are members with their separators. -/
theorem flatMap_placed (line : ℕ) {members : List (Option String × Json)} (h : members ≠ []) :
    (placed depth line members).flatMap ('\n' :: ·.text) =
      lineStart depth ++ Text.joinWith (',' :: lineStart depth) (members.map (memberText .indented depth)) := by
  induction members generalizing line with
  | nil => exact absurd rfl h
  | cons member rest ih =>
    obtain ⟨key?, value⟩ := member
    rw [placed, List.flatMap_cons]
    cases rest with
    | nil => simp [placed, Entry.text, Entry.margin, Entry.comma, lineStart, memberText, Text.joinWith]
    | cons next rest =>
      rw [ih (line + value.lineCount) (by simp)]
      simp [Entry.text, Entry.margin, Entry.comma, lineStart, memberText, Text.joinWith]

theorem member_of_mem_placed {line : ℕ} {members : List (Option String × Json)} {e : Entry}
    (h : e ∈ placed depth line members) : e.depth = depth ∧ (e.key?, e.value) ∈ members := by
  induction members generalizing line with
  | nil => simp [placed] at h
  | cons member rest ih =>
    rw [placed, List.mem_cons] at h
    rcases h with rfl | h
    · exact ⟨rfl, by simp⟩
    · exact ⟨(ih h).1, List.mem_cons_of_mem _ (ih h).2⟩

/-- The lines of the entries in front tell where an entry starts. -/
theorem line_of_placed {line : ℕ} {members : List (Option String × Json)} {front back : List Entry} {e : Entry}
    (h : placed depth line members = front ++ e :: back) :
    e.line = line + (front.map (·.value.lineCount)).sum := by
  induction front generalizing line members with
  | nil =>
    cases members with
    | nil => simp [placed] at h
    | cons member rest =>
      rw [placed, List.nil_append, List.cons.injEq] at h
      simp [← h.1]
  | cons first front ih =>
    cases members with
    | nil => simp [placed] at h
    | cons member rest =>
      rw [placed, List.cons_append, List.cons.injEq] at h
      -- the next member starts behind the lines of this one
      rw [ih h.2, List.map_cons, List.sum_cons, ← h.1, Nat.add_assoc]

theorem sum_lineCount_placed (line : ℕ) (members : List (Option String × Json)) :
    ((placed depth line members).map (·.value.lineCount)).sum = (members.map (·.2.lineCount)).sum := by
  induction members generalizing line with
  | nil => rfl
  | cons member rest ih => simp [placed, ih]

end

/-! ## The number of lines -/

theorem lineCountItems_eq (items : List Json) : lineCountItems items = (items.map lineCount).sum := by
  induction items with
  | nil => rfl
  | cons item rest ih => simp [lineCountItems, ih]

theorem lineCountFields_eq (fields : List (String × Json)) :
    lineCountFields fields = (fields.map (·.2.lineCount)).sum := by
  induction fields with
  | nil => rfl
  | cons field rest ih => simp [lineCountFields, ih]

theorem lineCount_of_members {data : Json} (h : data.members ≠ []) :
    data.lineCount = (data.members.map (·.2.lineCount)).sum + 2 := by
  cases data with
  | arr items =>
    obtain ⟨item, rest, rfl⟩ := List.exists_cons_of_ne_nil (show items ≠ [] by rintro rfl; exact h rfl)
    simp [lineCount, lineCountItems_eq, members, Function.comp_def]
  | obj fields =>
    obtain ⟨field, rest, rfl⟩ := List.exists_cons_of_ne_nil (show fields ≠ [] by rintro rfl; exact h rfl)
    simp [lineCount, lineCountFields_eq, members, Function.comp_def]
  | _ => exact absurd rfl h

theorem lineCount_of_members_eq_nil {data : Json} (h : data.members = []) : data.lineCount = 1 := by
  cases data with
  | arr items =>
    obtain rfl : items = [] := by simpa [members] using h
    simp [lineCount]
  | obj fields =>
    obtain rfl : fields = [] := by simpa [members] using h
    simp [lineCount]
  | _ => simp [lineCount]

/-! ## The lines of an entry -/

namespace Entry

variable {e : Entry}

theorem depth_of_mem_children {c : Entry} (h : c ∈ e.children) : c.depth = e.depth + 1 :=
  (member_of_mem_placed h).1

theorem readable_of_mem_children (he : e.value.Readable) {c : Entry} (h : c ∈ e.children) : c.value.Readable :=
  he.member (member_of_mem_placed h).2

/-- What holds of an entry whenever it holds of its children holds of all entries. -/
@[elab_as_elim]
theorem children_induction {motive : Entry → Prop} (step : ∀ e : Entry, (∀ c ∈ e.children, motive c) → motive e)
    (e : Entry) : motive e := by
  generalize hvalue : e.value = value
  induction value using members_induction generalizing e with
  | step value ih =>
    subst hvalue
    exact step e fun c hc => ih _ (member_of_mem_placed hc).2 c rfl

theorem children_ne_nil (h : e.value.members ≠ []) : e.children ≠ [] := by
  obtain ⟨⟨key?, value⟩, rest, hcons⟩ := List.exists_cons_of_ne_nil h
  rw [children, hcons, placed]
  simp

/-- An entry with members is written as its opening line, its children and its closing line. -/
theorem text_of_members (h : e.value.members ≠ []) :
    e.text = e.openingLine ++ (e.children.map text ++ [e.closingLine]).flatMap ('\n' :: ·) := by
  have hchildren := flatMap_placed (e.depth + 1) (e.line + 1) h
  rw [List.flatMap_append, List.flatMap_map, children, hchildren, text, writeAt_of_members _ _ h]
  simp [openingLine, closingLine, margin, Layout.indented, lineStart]

theorem le_toNat_of_mem_margin {c : Char} (h : c ∈ e.margin) : 32 ≤ c.toNat := by
  rw [List.eq_of_mem_replicate h]
  decide

theorem le_toNat_of_mem_comma {c : Char} (h : c ∈ e.comma) : 32 ≤ c.toNat := by
  unfold comma at h
  split_ifs at h
  · simp at h
  · rw [List.mem_singleton.1 h]
    decide

theorem le_toNat_of_mem_key {c : Char} (h : c ∈ label .indented e.key?) : 32 ≤ c.toNat :=
  le_toNat_of_mem_label (by simp [Layout.indented]) h

theorem le_toNat_of_mem_openingLine {c : Char} (h : c ∈ e.openingLine) : 32 ≤ c.toNat := by
  simp only [openingLine, List.mem_append, List.mem_singleton] at h
  rcases h with h | h | rfl
  · exact le_toNat_of_mem_margin h
  · exact le_toNat_of_mem_key h
  · unfold opening
    split <;> decide

theorem le_toNat_of_mem_closingLine {c : Char} (h : c ∈ e.closingLine) : 32 ≤ c.toNat := by
  simp only [closingLine, List.mem_append, List.mem_cons] at h
  rcases h with h | rfl | h
  · exact le_toNat_of_mem_margin h
  · unfold closing
    split <;> decide
  · exact le_toNat_of_mem_comma h

theorem le_toNat_of_mem_text (h : e.value.members = []) {c : Char} (hc : c ∈ e.text) : 32 ≤ c.toNat := by
  rw [text, writeAt_of_members_eq_nil _ _ h] at hc
  simp only [List.mem_append] at hc
  rcases hc with hc | hc | hc | hc
  · exact le_toNat_of_mem_margin hc
  · exact le_toNat_of_mem_key hc
  · by_contra hlow
    exact not_mem_compactText _ (not_le.1 hlow) hc
  · exact le_toNat_of_mem_comma hc

theorem newline_not_mem {line : List Char} (h : ∀ c ∈ line, 32 ≤ c.toNat) : '\n' ∉ line :=
  fun hmem => absurd (h _ hmem) (by decide)

/-- An entry without members stands on one line. -/
theorem lines_of_members_eq_nil (h : e.value.members = []) : e.lines = [e.text] :=
  Text.splitAt_of_not_mem (newline_not_mem fun _ => le_toNat_of_mem_text h)

/-- An entry with members stands on its opening line, the lines of its children and its closing line. -/
theorem lines_of_members (h : e.value.members ≠ []) :
    e.lines = e.openingLine :: (e.children.flatMap lines ++ [e.closingLine]) := by
  have hopening : '\n' ∉ e.openingLine := newline_not_mem fun _ => le_toNat_of_mem_openingLine
  have hclosing : '\n' ∉ e.closingLine := newline_not_mem fun _ => le_toNat_of_mem_closingLine
  rw [lines, text_of_members h, Text.splitAt_append_flatMap, Text.splitAt_of_not_mem hopening, List.flatMap_append,
    List.flatMap_map, List.flatMap_singleton, Text.splitAt_of_not_mem hclosing]
  rfl

/-! ## Indentation -/

theorem indented_margin {line : List Char} {c : Char} {rest : List Char} (hline : line = e.margin ++ c :: rest)
    (hc : c ≠ ' ') (hprint : ∀ c ∈ line, 32 ≤ c.toNat) : Line.Indented (2 * e.depth) line :=
  ⟨⟨c, rest, hline, hc⟩, hprint⟩

/-- A key, if there is one, and what follows it start with something visible. -/
theorem label_append_eq_cons (layout : Layout) (key? : Option String) {c : Char} (rest : List Char) (hc : c ≠ ' ') :
    ∃ d behind, label layout key? ++ c :: rest = d :: behind ∧ d ≠ ' ' := by
  cases key? with
  | none => exact ⟨c, rest, rfl, hc⟩
  | some key => exact ⟨'"', _, rfl, by decide⟩

theorem indented_openingLine (e : Entry) : Line.Indented (2 * e.depth) e.openingLine := by
  have hopening : e.value.opening ≠ ' ' := by
    unfold opening
    split <;> decide
  obtain ⟨d, behind, hcons, hd⟩ := label_append_eq_cons .indented e.key? [] hopening
  have hline : e.openingLine = e.margin ++ d :: behind := by rw [openingLine, hcons]
  exact indented_margin hline hd fun _ => le_toNat_of_mem_openingLine

theorem indented_closingLine (e : Entry) : Line.Indented (2 * e.depth) e.closingLine := by
  have hclosing : e.value.closing ≠ ' ' := by
    unfold closing
    split <;> decide
  exact indented_margin rfl hclosing fun _ => le_toNat_of_mem_closingLine

theorem indented_text (he : e.value.Readable) (h : e.value.members = []) : Line.Indented (2 * e.depth) e.text := by
  obtain ⟨c, cs, hcons, hstart⟩ := writeAt_eq_cons ⟨.indented, false⟩ e.depth he
  have hc : c ≠ ' ' := by
    rintro rfl
    exact absurd hstart (by decide)
  obtain ⟨d, behind, hbehind, hd⟩ := label_append_eq_cons .indented e.key? (cs ++ e.comma) hc
  have hline : e.text = e.margin ++ d :: behind := by rw [text, hcons, List.cons_append, hbehind]
  exact indented_margin hline hd fun _ => le_toNat_of_mem_text h

/-- No line of an entry is less indented than its first. -/
theorem indented_of_mem_lines (he : e.value.Readable) :
    ∀ line ∈ e.lines, ∃ indent, 2 * e.depth ≤ indent ∧ Line.Indented indent line := by
  induction e using children_induction with
  | step e ih =>
    by_cases h : e.value.members = []
    · intro line hline
      rw [lines_of_members_eq_nil h, List.mem_singleton] at hline
      exact ⟨_, le_rfl, hline ▸ indented_text he h⟩
    · intro line hline
      rw [lines_of_members h] at hline
      simp only [List.mem_cons, List.mem_append, List.mem_flatMap, List.not_mem_nil, or_false] at hline
      rcases hline with rfl | ⟨c, hc, hline⟩ | rfl
      · exact ⟨_, le_rfl, e.indented_openingLine⟩
      · -- the lines of a child are those of a deeper entry
        obtain ⟨indent, hle, hindented⟩ := ih c hc (readable_of_mem_children he hc) line hline
        have hdepth := depth_of_mem_children hc
        exact ⟨indent, by omega, hindented⟩
      · exact ⟨_, le_rfl, e.indented_closingLine⟩

/-- An entry stands on as many lines as its value takes. -/
theorem length_lines (he : e.value.Readable) : e.lines.length = e.value.lineCount := by
  induction e using children_induction with
  | step e ih =>
    by_cases h : e.value.members = []
    · rw [lines_of_members_eq_nil h, lineCount_of_members_eq_nil h, List.length_singleton]
    · have hchildren : (e.children.map (·.lines.length)) = e.children.map (·.value.lineCount) := by
        apply List.map_congr_left
        intro c hc
        exact ih c hc (readable_of_mem_children he hc)
      rw [lines_of_members h, lineCount_of_members h, List.length_cons, List.length_append, List.length_flatMap,
        hchildren, children, sum_lineCount_placed, List.length_singleton]

/-- A whole tree stands on the lines of its text. -/
theorem lines_root (tree : Json) : (root tree).lines = Text.splitAt '\n' tree.indentedText := by
  have htext : (root tree).text = tree.indentedText := by
    simp [text, root, margin, comma, label, indentedText, write]
  rw [lines, htext]

/-! ## Where an entry stands -/

/-- The first line of an entry is its opening line, or all of its text. -/
theorem lines_eq_cons (he : e.value.Readable) :
    ∃ line rest, e.lines = line :: rest ∧ Line.Indented (2 * e.depth) line := by
  by_cases h : e.value.members = []
  · exact ⟨_, _, lines_of_members_eq_nil h, indented_text he h⟩
  · exact ⟨_, _, lines_of_members h, e.indented_openingLine⟩

/--
Lines show an entry: its lines stand there from its line on, not at the very top, and behind them
stands the end of the document or a line that is no deeper.
-/
structure Shown (shown : List (List Char)) (e : Entry) : Prop where
  readable : e.value.Readable
  deep : 0 < e.depth
  split : ∃ before next after, shown = before ++ (e.lines ++ next :: after) ∧ before ≠ [] ∧
    before.length = e.line ∧ Highlight.Behind (2 * e.depth) next

/-- The children of an entry stand on the lines between its brackets. -/
theorem shown_child {shown before after : List (List Char)} (he : e.value.Readable) {c : Entry} (hc : c ∈ e.children)
    (hshown : shown = before ++ (e.lines ++ after)) (hline : before.length = e.line)
    (hbehind : Highlight.Behind (2 * c.depth) e.closingLine) : Shown shown c := by
  obtain ⟨front, back, hsplit⟩ := List.append_of_mem hc
  have hmembers : e.value.members ≠ [] := List.ne_nil_of_mem (member_of_mem_placed hc).2
  have hreadable := readable_of_mem_children he hc
  have hbelow : c.line = e.line + 1 + (front.map (·.value.lineCount)).sum := line_of_placed hsplit
  have hfront : (front.map (·.lines.length)) = front.map (·.value.lineCount) := by
    apply List.map_congr_left
    intro f hf
    exact length_lines (readable_of_mem_children he (hsplit ▸ List.mem_append_left _ hf))
  have hlength : (before ++ e.openingLine :: front.flatMap lines).length = c.line := by
    rw [List.length_append, List.length_cons, List.length_flatMap, hfront, hbelow, hline]
    omega
  have hdeep : 0 < c.depth := by
    rw [depth_of_mem_children hc]
    omega
  refine ⟨hreadable, hdeep, ?_⟩
  rw [hshown, lines_of_members hmembers, hsplit]
  cases back with
  | nil =>
    -- behind the last child stands the closing bracket
    refine ⟨_, e.closingLine, after, ?_, by simp, hlength, hbehind⟩
    simp
  | cons sibling back =>
    have hsibling : sibling ∈ e.children := by simp [hsplit]
    obtain ⟨next, rest, hcons, hindented⟩ := lines_eq_cons (readable_of_mem_children he hsibling)
    refine ⟨_, next, rest ++ (back.flatMap lines ++ e.closingLine :: after), ?_, by simp, hlength, .inr ?_⟩
    · simp [hcons]
    · rw [depth_of_mem_children hsibling] at hindented
      rw [depth_of_mem_children hc]
      exact ⟨_, by omega, le_rfl, hindented⟩

/-- Every entry of a tree is shown on its lines. -/
theorem In.shown {fields : List (String × Json)} (htree : (Json.obj fields).Readable) (h : In (.obj fields) e) :
    Shown (root (.obj fields)).lines e := by
  induction h with
  | top hchild =>
    have hshown : (root (.obj fields)).lines = [] ++ ((root (.obj fields)).lines ++ []) := by simp
    exact shown_child htree hchild hshown rfl (.inl rfl)
  | nested hparent hchild ih =>
    obtain ⟨hreadable, hdeep, before, next, after, hshown, hne, hline, -⟩ := ih
    apply shown_child hreadable hchild hshown hline
    rw [depth_of_mem_children hchild]
    exact .inr ⟨_, by omega, by omega, indented_closingLine _⟩

/-- The lines of an entry lie within those of the tree. -/
theorem In.line_add_lineCount_le {fields : List (String × Json)} (htree : (Json.obj fields).Readable)
    (h : In (.obj fields) e) :
    e.line + e.value.lineCount ≤ (Text.splitAt '\n' (Json.obj fields).indentedText).length := by
  obtain ⟨hreadable, -, before, next, after, hlines, -, hline, -⟩ := h.shown htree
  rw [← lines_root, hlines, ← hline, ← length_lines hreadable]
  simp

end Entry

end DocBrowser.Json
