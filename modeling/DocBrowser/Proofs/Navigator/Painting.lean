import Mathlib
import DocBrowser.Proofs.Navigator.Cursor
import DocBrowser.Proofs.Navigator.Lossless
import DocBrowser.Proofs.Navigator.Structure
/-!
# Painted lines

Each line of a text is painted from where the line above it has ended. That is where a scan of the whole text is at the
start of the line, wherever the lines are cut, as the newlines that the lines leave out stand outside of strings. So the
brackets of the structure of the text are painted as such and no others, whichever lines a window shows.
-/

namespace DocBrowser

open Selection (Place)

namespace Paint

/-! ## A painted line -/

/--
Cells show a text from one place of a scan to another: the characters painted as brackets of the structure are the
brackets outside of strings.
-/
inductive Painted : Place → List Char → Place → List Cell → Prop where
  | nil (place : Place) : Painted place [] place []
  | cons {place final : Place} {c : Char} {cs : List Char} {role : Role} {painted : List Cell}
    (bracket : role = .bracket ↔ place = .outside ∧ isBracket c = true)
    (rest : Painted (place.next c) cs final painted) : Painted place (c :: cs) final (⟨c, role, false⟩ :: painted)

namespace Painted

variable {place middle final : Place} {cs rest : List Char} {painted more : List Cell}

theorem append (h : Painted place cs middle painted) (hrest : Painted middle rest final more) :
    Painted place (cs ++ rest) final (painted ++ more) := by
  induction h with
  | nil => exact hrest
  | cons hbracket _ ih => exact .cons hbracket (ih hrest)

theorem placeAfter_eq (h : Painted place cs final painted) : placeAfter place cs = final := by
  induction h with
  | nil => rfl
  | cons _ _ ih => exact ih

theorem plainText_eq (h : Painted place cs final painted) : plainText painted = cs := by
  induction h with
  | nil => rfl
  | @cons _ _ c _ _ _ _ _ ih => exact congrArg (c :: ·) ih

theorem getElem? (h : Painted place cs final painted) {j : ℕ} {c : Char} (hj : cs[j]? = some c) :
    ∃ role, painted[j]? = some ⟨c, role, false⟩ ∧
      (role = .bracket ↔ placeAfter place (cs.take j) = .outside ∧ isBracket c = true) := by
  induction h generalizing j with
  | nil => cases hj
  | cons hbracket _ ih =>
    cases j with
    | zero =>
      cases hj
      exact ⟨_, rfl, hbracket⟩
    | succ j => exact ih hj

/-- What is no bracket of the structure has any other role. -/
theorem other {role : Role} {c : Char} (hrole : role ≠ .bracket) (hc : place = .outside → isBracket c = false)
    (h : Painted (place.next c) cs final painted) : Painted place (c :: cs) final (⟨c, role, false⟩ :: painted) := by
  refine .cons ⟨fun hbracket => absurd hbracket hrole, ?_⟩ h
  rintro ⟨hplace, hbracket⟩
  rw [hc hplace] at hbracket
  cases hbracket

/-- Outside of strings, text without quotes and brackets has any other role. -/
theorem bare {role : Role} (hrole : role ≠ .bracket) (h : ∀ c ∈ cs, c ≠ '"' ∧ isBracket c = false) :
    Painted .outside cs .outside (cells role cs) := by
  induction cs with
  | nil => exact .nil _
  | cons c cs ih =>
    obtain ⟨hc, hcs⟩ := List.forall_mem_cons.1 h
    refine .other hrole (fun _ => hc.2) ?_
    rw [Place.next_outside hc.1]
    exact ih hcs

end Painted

theorem painted_values (place : Place) (cs : List Char) : Painted place cs (placeAfter place cs) (values place cs) := by
  induction cs generalizing place with
  | nil => exact .nil _
  | cons c cs ih =>
    refine .cons ?_ (ih _)
    split_ifs with h
    · simpa using h
    · simpa using h

/-! ## Keys -/

theorem bare_of_isBlank {c : Char} (hc : Text.isBlank c = true) : c ≠ '"' ∧ isBracket c = false := by
  have hne {d : Char} (hd : Text.isBlank d = false) : c ≠ d := by
    rintro rfl
    rw [hc] at hd
    cases hd
  refine ⟨hne (by decide), ?_⟩
  simp [isBracket, hne (d := '\x7b') (by decide), hne (d := '\x7d') (by decide), hne (d := '[') (by decide),
    hne (d := ']') (by decide)]

/-- Up to the quote that closes a key a scan is inside of it. -/
theorem painted_closeQuote? {body quoted after : List Char} (h : KeyStart.closeQuote? body = some (quoted, after)) :
    body = quoted ++ after ∧ Painted .inside quoted .outside (cells .key quoted) := by
  have hinside {c : Char} : Place.inside = .outside → isBracket c = false := nofun
  fun_induction KeyStart.closeQuote? body generalizing quoted with
  | case1 => cases h
  | case2 rest =>
    cases h
    exact ⟨rfl, .other (by decide) hinside (.nil _)⟩
  | case3 rest => cases h
  | case4 c rest hc ih =>
    obtain ⟨⟨front, back⟩, hclose, hcons⟩ := Option.map_eq_some_iff.1 h
    cases hcons
    obtain ⟨rfl, hpainted⟩ := ih hclose
    exact ⟨rfl, .other (by decide) hinside (.other (by decide) nofun hpainted)⟩
  | case5 => cases h
  | case6 c rest hquote hbackslash hend ih =>
    obtain ⟨⟨front, back⟩, hclose, hcons⟩ := Option.map_eq_some_iff.1 h
    cases hcons
    obtain ⟨rfl, hpainted⟩ := ih hclose
    -- a backslash would have been taken together with the sign behind it, or ended the text
    have hplain : c ≠ '\\' := by
      rintro rfl
      cases hrest : front ++ after with
      | nil => exact hend rfl hrest
      | cons d rest => exact hbackslash d rest rfl hrest
    refine ⟨rfl, .other (by decide) hinside ?_⟩
    rw [Place.next_inside hquote hplain]
    exact hpainted

/-- A key is split off from a place outside of strings to another one, and none of it is a bracket of the structure. -/
theorem painted_ofLine? {line : List Char} {start : KeyStart} (h : KeyStart.ofLine? line = some start) :
    ∃ front, line = front ++ start.rest ∧ Painted .outside front .outside
      (cells .plain start.indent ++ cells .key start.quoted ++ cells .value start.colon) := by
  unfold KeyStart.ofLine? at h
  split at h
  · rename_i body hbody
    obtain ⟨⟨quoted, after⟩, hclose, h⟩ := Option.bind_eq_some_iff.1 h
    dsimp only at h
    split at h
    · rename_i rest hafter
      cases h
      obtain ⟨hquoted, hpainted⟩ := painted_closeQuote? hclose
      -- white space, the key within its quotes, and what goes up to the colon
      have hindent : ∀ c ∈ line.takeWhile Text.isBlank, c ≠ '"' ∧ isBracket c = false :=
        fun c hc => bare_of_isBlank (List.mem_takeWhile_imp hc)
      have hkey : Painted .outside ('"' :: quoted) .outside (cells .key ('"' :: quoted)) :=
        .other (by decide) (fun _ => rfl) hpainted
      have hcolon : ∀ c ∈ after.takeWhile Text.isBlank ++ [':'], c ≠ '"' ∧ isBracket c = false := by
        intro c hc
        rcases List.mem_append.1 hc with hblank | hlast
        · exact bare_of_isBlank (List.mem_takeWhile_imp hblank)
        · rw [List.mem_singleton.1 hlast]
          decide
      refine ⟨_, ?_, ((Painted.bare (by decide) hindent).append hkey).append (.bare (by decide) hcolon)⟩
      calc line = line.takeWhile Text.isBlank ++ '"' :: body := by rw [← hbody, List.takeWhile_append_dropWhile]
        _ = line.takeWhile Text.isBlank ++ '"' :: (quoted ++ (after.takeWhile Text.isBlank ++ ':' :: rest)) := by
          rw [hquoted, ← hafter, List.takeWhile_append_dropWhile]
        _ = _ := by simp
    · cases h
  · cases h

/-- A line is painted from its place to that of the next line. -/
theorem painted_lineFrom (place : Place) (line : List Char) :
    Painted place line (placeAfterLine place line) (lineFrom place line) := by
  rw [lineFrom, placeAfterLine]
  split
  · rename_i start hstart
    obtain ⟨rfl, hstart⟩ := Option.ite_none_right_eq_some.1 hstart
    obtain ⟨front, hline, hfront⟩ := painted_ofLine? hstart
    rw [hline]
    exact hfront.append (painted_values _ _)
  · exact painted_values _ _

/-- Keys make no difference to where lines end. -/
theorem foldl_placeAfterLine (place : Place) (lines : List (List Char)) :
    lines.foldl placeAfterLine place = placeAfter place lines.flatten := by
  induction lines generalizing place with
  | nil => rfl
  | cons line rest ih =>
    rw [List.foldl_cons, ih, ← (painted_lineFrom place line).placeAfter_eq, List.flatten_cons, placeAfter_append]

/-! ## Rows -/

/-- A cell in a row: blank space has the colour of the marker. -/
def settled (cell : Cell) : Cell := { cell with role := if cell.role = .plain then .marker else cell.role }

/-- A line as a row shows it, without a background. -/
def rowLine (place : Place) (line : List Char) : List Cell := (shown (lineFrom place line)).map settled

/-- A row is a marker and a line on one background. -/
theorem row_eq (place : Place) (selected highlighted : Bool) (line : List Char) :
    row place selected highlighted line =
      (cells .marker (markerOf selected) ++ rowLine place line).map fun cell => { cell with highlighted } := by
  rw [row, rowLine, List.map_append, List.map_append, List.map_map]
  cases selected <;> rfl

theorem Painted.map_settled {place final : Place} {cs : List Char} {painted : List Cell}
    (h : Painted place cs final painted) : Painted place cs final (painted.map settled) := by
  induction h with
  | nil => exact .nil _
  | @cons _ _ _ _ role _ hbracket _ ih =>
    refine .cons ?_ ih
    rw [← hbracket]
    cases role <;> simp

/-- The screen drops nothing of a line without control characters. -/
theorem shown_eq_self {place final : Place} {cs : List Char} {painted : List Cell} (h : Painted place cs final painted)
    (hvisible : ∀ c ∈ cs, 32 ≤ c.toNat) : shown painted = painted := by
  rw [shown, List.filter_eq_self]
  intro cell hcell
  have hc : cell.char ∈ cs := by
    rw [← h.plainText_eq]
    exact List.mem_map_of_mem hcell
  have hlow := hvisible _ hc
  simp only [Text.isDropped, Bool.not_eq_true', Bool.or_eq_false_iff, decide_eq_false_iff_not]
  omega

theorem painted_rowLine (place : Place) {line : List Char} (hvisible : ∀ c ∈ line, 32 ≤ c.toNat) :
    Painted place line (placeAfter place line) (rowLine place line) := by
  have hline := painted_lineFrom place line
  rw [rowLine, shown_eq_self hline hvisible, hline.placeAfter_eq]
  exact hline.map_settled

/-- The rows of a window are those of its lines, each painted from where a scan of the lines above it ends. -/
theorem rows_eq (lines : List (List Char)) (window : Window) (highlight : ℤ × ℤ) :
    rows lines window highlight =
      (((List.range lines.length).drop window.scroll).take window.height).map fun n =>
        row (placeAfter .outside (lines.take n).flatten) (n = window.cursor) (highlight.1 ≤ n && n < highlight.2)
          (lines.getD n []) := by
  -- row by row; there is none below the window or behind the last line
  apply List.ext_getElem?
  intro i
  rw [getElem?_rows, List.getElem?_map, List.getElem?_take]
  split_ifs with hi
  · rw [List.getElem?_drop]
    by_cases hlt : window.scroll + i < lines.length
    · rw [List.getElem?_eq_getElem hlt, List.getElem?_range hlt, foldl_placeAfterLine]
      simp [hlt]
    · rw [List.getElem?_eq_none (not_lt.1 hlt), List.getElem?_eq_none (by simpa using hlt)]
      rfl
  · rfl

end Paint

/-! ## The lines of a text -/

namespace Line

section

variable {text : List Char} (width : ℤ)
  (hvisible : ∀ piece ∈ Text.splitAt '\n' text, ∀ c ∈ piece, 32 ≤ c.toNat)

include hvisible

theorem le_toNat_of_mem_wrap {line : Line} (hline : line ∈ wrap width text) : ∀ c ∈ line.text, 32 ≤ c.toNat := by
  obtain ⟨piece, hpiece, hsegment⟩ := List.mem_flatMap.1 hline
  obtain ⟨first, others, hsegments, -, hwhole⟩ :=
    (wrapped_wrapOne width (Text.dropEndWhile (· = '\r') piece)).exists_first
  rw [hsegments] at hsegment
  intro c hc
  apply hvisible piece hpiece c
  apply (Text.dropEndWhile_sublist (· = '\r') piece).subset
  rw [← hwhole]
  rcases List.mem_cons.1 hsegment with rfl | hother
  · exact List.mem_append_left _ hc
  · exact List.mem_append_right _ (List.mem_flatMap.2 ⟨line, hother, List.mem_append_right _ hc⟩)

/-- Without control characters in its lines a text is put together again. -/
theorem join_wrap_of_visible : join (wrap width text) = text := by
  have hsame : (Text.splitAt '\n' text).map (Text.dropEndWhile (· = '\r')) = Text.splitAt '\n' text := by
    refine (List.map_congr_left fun piece hpiece => ?_).trans (List.map_id _)
    refine (Text.dropEndWhile_eq_self_iff '\r' piece).2 fun hlast => ?_
    exact absurd (hvisible piece hpiece _ (List.mem_of_getLast? hlast)) (by decide)
  rw [join_wrap, hsame, Text.joinWith_splitAt]

end

/-- Lines put together go on with the next line behind nothing or a newline. -/
theorem join_append_cons (front : List Line) (line : Line) : ∃ gap, (gap = [] ∨ gap = ['\n']) ∧
    ∀ back, join (front ++ line :: back) =
      join front ++ (gap ++ (line.text ++ back.flatMap fun other => other.separator ++ other.text)) := by
  cases front with
  | nil => exact ⟨[], .inl rfl, fun back => rfl⟩
  | cons first front =>
    refine ⟨line.separator, ?_, fun back => ?_⟩
    · rw [separator]
      split
      · exact .inl rfl
      · exact .inr rfl
    · simp [join]

section

open Paint (placeAfter placeAfter_append)

variable {text : List Char} {data : Json} (hparse : Json.parse text = .ok data)

include hparse

/-- Newlines stand outside of strings, so a scan may pass over them. -/
theorem placeAfter_gap {above gap below : List Char} (hgap : gap = [] ∨ gap = ['\n'])
    (htext : text = above ++ (gap ++ below)) : placeAfter .outside (above ++ gap) = placeAfter .outside above := by
  rcases hgap with rfl | rfl
  · rw [List.append_nil]
  · have houtside : placeAfter .outside above = .outside := by
      by_contra hinside
      have hnewline : text[above.length]? = some '\n' := by simp [htext]
      have htake : text.take above.length = above := by rw [htext, List.take_left]
      rw [← htake] at hinside
      exact absurd (Json.le_toNat_of_placeAfter_ne hparse hnewline hinside) (by decide)
    rw [placeAfter_append, houtside]
    rfl

/-- A scan of the text is at the start of a line where a scan of the lines above it is. -/
theorem placeAfter_join {front back : List Line} (hjoin : join (front ++ back) = text) :
    placeAfter .outside (join front) = placeAfter .outside (front.flatMap (·.text)) := by
  induction front using List.reverseRecOn generalizing back with
  | nil => rfl
  | append_singleton front line ih =>
    -- what stands between two lines leaves the scan where it is
    obtain ⟨gap, hgap, hnext⟩ := join_append_cons front line
    rw [List.append_assoc, List.singleton_append] at hjoin
    have hscan := placeAfter_gap hparse hgap (hjoin.symm.trans (hnext back))
    rw [hnext, List.flatMap_nil, List.append_nil, ← List.append_assoc, placeAfter_append, hscan, ih hjoin,
      List.flatMap_append, List.flatMap_singleton, placeAfter_append]

/-- A line stands in the text behind the lines above it. -/
theorem exists_above {lines : List Line} (hjoin : join lines = text) {n : ℕ} {line : Line}
    (hline : lines[n]? = some line) : ∃ above below, text = above ++ (line.text ++ below) ∧
      join (lines.take (n + 1)) = above ++ line.text ∧
      placeAfter .outside above = placeAfter .outside ((lines.map (·.text)).take n).flatten := by
  obtain ⟨hn, rfl⟩ := List.getElem?_eq_some_iff.1 hline
  obtain ⟨gap, hgap, hnext⟩ := join_append_cons (lines.take n) lines[n]
  have hlines : lines = lines.take n ++ lines[n] :: lines.drop (n + 1) := by
    rw [List.cons_getElem_drop_succ, List.take_append_drop]
  rw [hlines] at hjoin
  have htext := hjoin.symm.trans (hnext _)
  refine ⟨join (lines.take n) ++ gap, _, htext.trans (List.append_assoc _ _ _).symm, ?_, ?_⟩
  · rw [← List.take_append_getElem hn, hnext, List.flatMap_nil, List.append_nil, List.append_assoc]
  · rw [placeAfter_gap hparse hgap htext, placeAfter_join hparse hjoin, ← List.map_take, List.flatMap_def]

end

end Line

namespace Paint

/-- Lines of a text are painted by the structure of all of it, whichever of them a window shows. -/
structure PaintsStructure (text : List Char) (lines : List Line) (painted : ℕ → List Cell) : Prop where
  /-- The row of a line is a marker and what is painted of it, on a background if its number is in the range. -/
  rows : ∀ (window : Window) (highlight : ℤ × ℤ), Paint.rows (lines.map (·.text)) window highlight =
    (((List.range lines.length).drop window.scroll).take window.height).map fun n =>
      (cells .marker (markerOf (n = window.cursor)) ++ painted n).map fun cell =>
        { cell with highlighted := highlight.1 ≤ n && n < highlight.2 }
  /-- What is painted of a line is all of it, and nothing else. -/
  shows : ∀ (n : ℕ) (line : Line), lines[n]? = some line → plainText (painted n) = line.text
  /-- The characters painted as brackets are those that are brackets of the text, outside of all of its strings. -/
  brackets : ∀ (n : ℕ) (line : Line), lines[n]? = some line → ∃ above below, text = above ++ (line.text ++ below) ∧
    Line.join (lines.take (n + 1)) = above ++ line.text ∧
    ∀ (j : ℕ) (c : Char), line.text[j]? = some c → ∃ role, (painted n)[j]? = some ⟨c, role, false⟩ ∧
      (role = .bracket ↔ Json.BracketAt text (above.length + j)) ∧
      (Json.BracketAt text (above.length + j) ↔ isBracket c = true ∧ ¬ Json.InString text (above.length + j))

/-- Lines without control characters that are put together to a text are painted by its structure. -/
theorem exists_paintsStructure {text : List Char} {data : Json} (hparse : Json.parse text = .ok data)
    {lines : List Line} (hjoin : Line.join lines = text) (hvisible : ∀ line ∈ lines, ∀ c ∈ line.text, 32 ≤ c.toNat) :
    ∃ painted, PaintsStructure text lines painted := by
  -- each line is painted from where the lines above it end, which no window has a part in
  have hpainted {n : ℕ} {line : Line} (hline : lines[n]? = some line) :
      Painted (placeAfter .outside ((lines.map (·.text)).take n).flatten) line.text
        (placeAfter (placeAfter .outside ((lines.map (·.text)).take n).flatten) line.text)
        (rowLine (placeAfter .outside ((lines.map (·.text)).take n).flatten) ((lines.map (·.text)).getD n [])) := by
    have hget : (lines.map (·.text)).getD n [] = line.text := by simp [hline]
    rw [hget]
    exact painted_rowLine _ (hvisible line (List.mem_of_getElem? hline))
  refine ⟨fun n => rowLine (placeAfter .outside ((lines.map (·.text)).take n).flatten)
    ((lines.map (·.text)).getD n []), ?_, fun n line hline => (hpainted hline).plainText_eq, fun n line hline => ?_⟩
  · intro window highlight
    rw [rows_eq, List.length_map]
    simp only [row_eq]
  · obtain ⟨above, below, htext, htake, hplace⟩ := Line.exists_above hparse hjoin hline
    refine ⟨above, below, htext, htake, fun j c hj => ?_⟩
    obtain ⟨role, hcell, hrole⟩ := (hpainted hline).getElem? hj
    have hj' : j < line.text.length := (List.getElem?_eq_some_iff.1 hj).1
    have hi : text[above.length + j]? = some c := by
      rw [htext, List.getElem?_append_right (Nat.le_add_right _ _), Nat.add_sub_cancel_left,
        List.getElem?_append_left hj', hj]
    -- a scan of the text gets to the character as a scan of its line does
    have hscan : text.take (above.length + j) = above ++ line.text.take j := by
      rw [htext, List.take_length_add_append, List.take_append_of_le_length hj'.le]
    refine ⟨role, hcell, ?_, Json.bracketAt_iff_not_inString hparse hi⟩
    rw [hrole, Json.bracketAt_iff hparse hi, hscan, placeAfter_append, hplace]

/--
In a view of any width the text of a document is painted by its structure, from any window and with any lines
highlighted.
-/
theorem paintsStructure_of_render {doc : Document} (hwf : (Value.document doc).WellFormed) {sortKeys : Bool}
    {text : List Char} (hrender : doc.render sortKeys = .ok text) :
    ∃ tree, Json.parse text = .ok tree ∧
      ∀ width : ℤ, ∃ painted, PaintsStructure text (Line.wrap width text) painted := by
  obtain ⟨fields, rfl, htree⟩ := Document.render_eq_ok hwf hrender
  have hparse : Json.parse (Json.obj fields).indentedText = .ok (.obj fields) :=
    Json.parseWith_write Json.Layout.indented_blank htree
  -- a rendered text has no control characters, so wrapping loses none and tabs do not occur
  have hvisible : ∀ piece ∈ Text.splitAt '\n' (Json.obj fields).indentedText, ∀ c ∈ piece, 32 ≤ c.toNat := by
    intro piece hpiece
    rw [← Json.Entry.lines_root] at hpiece
    obtain ⟨indent, -, hindented⟩ :=
      Json.Entry.indented_of_mem_lines (e := Json.Entry.root (.obj fields)) htree piece hpiece
    exact hindented.printable
  refine ⟨.obj fields, hparse, fun width => ?_⟩
  exact exists_paintsStructure hparse (Line.join_wrap_of_visible width hvisible) fun line hline =>
    Line.le_toNat_of_mem_wrap width hvisible hline

/-- A bracket on a row of its own is part of a value where the string has started on another row. -/
theorem paintsStructure_of_string :
    ∃ text painted, Document.render false [("a", .string "x [ y")] = .ok text ∧
      PaintsStructure text (Line.wrap 3 text) painted ∧
      (∃ cell, (painted 0)[0]? = some cell ∧ cell.char = '\x7b' ∧ cell.role = .bracket) ∧
      ∃ cell, (painted 4)[0]? = some cell ∧ cell.char = '[' ∧ cell.role ≠ .bracket := by
  have hwf : (Value.document [("a", .string "x [ y")]).WellFormed := by
    simp [Value.WellFormed, Value.WellFormedFields, keysOf]
  have hreadable : (Json.obj [("a", .str "x [ y")]).Readable := ⟨by simp [keysOf], trivial, trivial⟩
  have hrender : Document.render false [("a", .string "x [ y")] = .ok (Json.obj [("a", .str "x [ y")]).indentedText :=
    Document.render_of_encode (by rfl) hreadable
  obtain ⟨tree, hparse, hpaints⟩ := paintsStructure_of_render hwf hrender
  obtain ⟨painted, hpainted⟩ := hpaints 3
  refine ⟨_, painted, hrender, hpainted, ?_, ?_⟩
  · -- the brace that opens the document
    obtain ⟨above, below, -, htake, hcells⟩ := hpainted.brackets 0 ⟨['\x7b'], 0, false⟩ (by rfl)
    have habove : above = [] := List.append_cancel_right (htake.symm.trans (by rfl))
    obtain ⟨role, hcell, hbracket, -⟩ := hcells 0 '\x7b' rfl
    rw [habove, Json.bracketAt_iff hparse (c := '\x7b') (by rfl)] at hbracket
    exact ⟨_, hcell, rfl, hbracket.2 ⟨by rfl, by decide⟩⟩
  · -- the bracket inside the string, which starts a line of its own
    obtain ⟨above, below, -, htake, hcells⟩ := hpainted.brackets 4 ⟨['[', ' '], 0, true⟩ (by rfl)
    have habove : above = "\x7b\n  \"a\": \"x ".toList := List.append_cancel_right (htake.symm.trans (by rfl))
    obtain ⟨role, hcell, hbracket, -⟩ := hcells 0 '[' rfl
    rw [habove, Json.bracketAt_iff hparse (c := '[') (by rfl)] at hbracket
    refine ⟨_, hcell, rfl, fun hrole => ?_⟩
    exact absurd (hbracket.1 hrole).1 (by decide +kernel)

end Paint

end DocBrowser
