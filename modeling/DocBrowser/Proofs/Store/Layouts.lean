import Mathlib
import DocBrowser.Proofs.Query.Pieces
import DocBrowser.Proofs.Query.Saved
import DocBrowser.Proofs.Store.File
/-!
# Layouts of files

More than one document is laid out on lines or in an array. Lines are compiled one by one, and the whole of
them never compiles as one document. An array is read as strict JSON: it holds the documents of its items
exactly where each of them is JSON itself.
-/

namespace DocBrowser.DocumentFile

open Json (tokens isBareSign Expects)
open Shorthand (EndsPiece expand expandFrom isBareChar)
open Text (StopsAt stopsAt_cons)

/-- A line is the text of a document in braces. -/
structure LineOf (doc : Document) (line : List Char) : Prop where
  opens : line.head? = some '\x7b'
  lineEnds : ∀ c ∈ line, Text.isLineEnd c = false
  compiles : Query.compile .utc (String.ofList line) = .ok doc

namespace LineOf

variable {doc : Document} {line : List Char} (h : LineOf doc line)

include h

theorem eq_cons : ∃ body, line = '\x7b' :: body := List.head?_eq_some_iff.1 h.opens

theorem noReturn : '\r' ∉ line := by
  intro hmem
  cases h.lineEnds _ hmem

theorem isVisible : Text.isVisible line = true := by
  obtain ⟨body, hline⟩ := h.eq_cons
  exact Text.isVisible_of_mem (hline ▸ List.mem_cons_self) (show Text.isBlank '\x7b' = false by decide)

/-- A line that is JSON holds the data of its document. -/
theorem decode_of_parse {data : Json} (hparse : Json.parse line = .ok data) :
    ExtendedJson.decode .utc data = .ok (.document doc) := by
  have hreads := (Json.parse_eq_ok.1 hparse).2
  rw [← List.append_nil line] at hreads
  obtain ⟨fields, hfields, hdecode⟩ :=
    Query.parse_of_reads_append h.opens h.compiles (Text.stopsAt_nil isBareChar) hreads
  cases hparse.symm.trans hfields
  exact hdecode

/-- A line that is read where a value may start is JSON, and the rest is read behind its data. -/
theorem exists_parse {state : Json.State} {stack : List Json.Frame} {rest : List Char} {data : Json} {p : ℕ}
    (hstate : Expects state stack) (hrest : StopsAt isBareChar rest)
    (hreads : Json.Reads state ((tokens .strict p (line ++ rest)).map (·.2)) data) :
    ∃ item q, Json.parse line = .ok item ∧
      Json.Reads (.after stack item) ((tokens .strict q rest).map (·.2)) data := by
  obtain ⟨fields, hparse, -⟩ := Query.parse_of_reads_append h.opens h.compiles hrest hreads
  have hstop : StopsAt isBareSign rest := Shorthand.stopsAt_of_bare (fun _ => Shorthand.isBareChar_of_isBareSign) hrest
  obtain ⟨q, hbehind⟩ := Json.reads_of_append hstate hparse hstop hreads
  exact ⟨_, q, hparse, hbehind⟩

end LineOf

theorem exists_lineOf_of_mem {docs : List Document} {lines : List (List Char)} (h : List.Forall₂ LineOf docs lines) :
    ∀ line ∈ lines, ∃ doc, LineOf doc line := by
  induction h with
  | nil => simp
  | cons hfirst _ ih => exact List.forall_mem_cons.2 ⟨⟨_, hfirst⟩, ih⟩

/-- Lines hold no carriage return, so nothing is put in their place. -/
theorem not_mem_joinWith {docs : List Document} {lines : List (List Char)} (h : List.Forall₂ LineOf docs lines)
    {separator : List Char} (hseparator : '\r' ∉ separator) : '\r' ∉ Text.joinWith separator lines := by
  intro hmem
  rcases Text.mem_of_mem_joinWith hmem with hmem | ⟨line, hline, hmem⟩
  · exact hseparator hmem
  · obtain ⟨doc, hdoc⟩ := exists_lineOf_of_mem h line hline
    exact hdoc.noReturn hmem

/-! ## Arrays -/

/-- Lines as the items of an array. -/
def arrayOf (lines : List (List Char)) : List Char := '[' :: (Text.joinWith [','] lines ++ [']'])

/-- A comma or the closing bracket stands behind an item. -/
theorem stopsAt_items (lines : List (List Char)) : StopsAt isBareChar (lines.flatMap ([','] ++ ·) ++ [']']) := by
  cases lines <;> exact stopsAt_cons.2 (by decide)

theorem asDocuments?_map (docs : List Document) : asDocuments? (docs.map .document) = some docs := by
  induction docs with
  | nil => rfl
  | cons doc docs ih =>
    rw [asDocuments?] at ih
    rw [asDocuments?, List.map_cons, List.mapM_cons, ih]
    rfl

section

variable {docs : List Document} {lines : List (List Char)} (h : List.Forall₂ LineOf docs lines)

include h

/-- Lines that are read as the items behind the first one are JSON. -/
theorem forall_parse_of_reads {stack : List Json.Frame} {items : List Json} {value data : Json} {p : ℕ}
    (hreads : Json.Reads (.after (.array items :: stack) value)
      ((tokens .strict p (lines.flatMap ([','] ++ ·) ++ [']'])).map (·.2)) data) :
    ∀ line ∈ lines, ∃ data, Json.parse line = .ok data := by
  induction h generalizing items value p with
  | nil => simp
  | @cons doc line docs lines hfirst _ ih =>
    rw [List.flatMap_cons, List.append_assoc, List.append_assoc, List.singleton_append, Json.tokens_comma] at hreads
    cases hreads with
    | step hmove hreads =>
      cases hmove with
      | nextItem =>
        obtain ⟨item, q, hparse, hrest⟩ := hfirst.exists_parse (.value _) (stopsAt_items lines) hreads
        exact List.forall_mem_cons.2 ⟨⟨item, hparse⟩, ih hrest⟩

theorem forall_parse_of_parse_arrayOf {data : Json} (hparse : Json.parse (arrayOf lines) = .ok data) :
    ∀ line ∈ lines, ∃ data, Json.parse line = .ok data := by
  have hreads := (Json.parse_eq_ok.1 hparse).2
  rw [arrayOf, Json.tokens_openBracket] at hreads
  cases hreads with
  | step hmove hreads =>
    cases hmove with
    | openBracket hstate =>
      cases hstate
      cases h with
      | nil => simp
      | @cons doc line docs lines hfirst hothers =>
        rw [Text.joinWith_cons, List.append_assoc] at hreads
        obtain ⟨item, q, hparse, hrest⟩ := hfirst.exists_parse (.first _) (stopsAt_items lines) hreads
        exact List.forall_mem_cons.2 ⟨⟨item, hparse⟩, forall_parse_of_reads hothers hrest⟩

/-- Lines that are JSON hold the data of their documents. -/
theorem exists_decodeItems (hlines : ∀ line ∈ lines, ∃ data, Json.parse line = .ok data) :
    ∃ datas, List.Forall₂ (fun line data => Json.parse line = .ok data) lines datas ∧
      ExtendedJson.decodeItems .utc datas = .ok (docs.map .document) := by
  induction h with
  | nil => exact ⟨[], .nil, rfl⟩
  | cons hfirst _ ih =>
    rw [List.forall_mem_cons] at hlines
    obtain ⟨data, hparse⟩ := hlines.1
    obtain ⟨datas, hdatas, hdecode⟩ := ih hlines.2
    refine ⟨data :: datas, .cons hparse hdatas, ?_⟩
    rw [ExtendedJson.decodeItems, hfirst.decode_of_parse hparse, hdecode]
    rfl

/-- An array of lines is read as their documents where each line is JSON, and refused where one is not. -/
theorem readArray_arrayOf_cases (path : String) :
    (∀ line ∈ lines, ∃ data, Json.parse line = .ok data) ∧ readArray path (arrayOf lines) = .ok docs ∨
    (∃ line ∈ lines, ∃ fault, Json.parse line = .error fault) ∧
      ∃ message, readArray path (arrayOf lines) = .error (arrayFault path message) := by
  by_cases hlines : ∀ line ∈ lines, ∃ data, Json.parse line = .ok data
  · refine .inl ⟨hlines, ?_⟩
    obtain ⟨datas, hdatas, hdecode⟩ := exists_decodeItems h hlines
    have hparse : Json.parse (arrayOf lines) = .ok (.arr datas) := Json.parse_array hdatas
    have hitems : ExtendedJson.decode .utc (.arr datas) = .ok (.array (docs.map .document)) := by
      rw [ExtendedJson.decode, hdecode]
      rfl
    simp only [readArray, hparse, hitems, asDocuments?_map]
  · refine .inr ⟨?_, ?_⟩
    · -- one line that is no strict data keeps the whole array from being any
      push Not at hlines
      obtain ⟨line, hline, hnot⟩ := hlines
      refine ⟨line, hline, ?_⟩
      cases hparse : Json.parse line with
      | error fault => exact ⟨fault, rfl⟩
      | ok data => exact absurd hparse (hnot data)
    · unfold readArray
      split
      · exact ⟨_, rfl⟩
      · exact absurd (forall_parse_of_parse_arrayOf h ‹_›) hlines

/-- An array is told by its brackets. -/
theorem load_arrayOf (path : String) :
    load path (some (Text.encodeUtf8 (arrayOf lines))) = readArray path (arrayOf lines) := by
  have hreturn : '\r' ∉ arrayOf lines := by
    have hjoined := not_mem_joinWith h (show '\r' ∉ [','] by decide)
    simpa [arrayOf] using hjoined
  have htrim : Text.trim (arrayOf lines) = arrayOf lines := by
    refine Text.trim_of_stopsAt (stopsAt_cons.2 (by decide)) ?_
    rw [arrayOf, List.reverse_cons, List.reverse_append]
    exact stopsAt_cons.2 (by decide)
  have hlayout : layoutOf (arrayOf lines) = .ok .array := by
    rw [layoutOf, htrim]
    rfl
  rw [load_encodeUtf8 path hreturn, read, hlayout]
  show readArray path (Text.trim (arrayOf lines)) = _
  rw [htrim]

end

/-! ## Lines -/

section

variable {docs : List Document} {lines : List (List Char)}

/-- The text of a document is expanded alike wherever it stands. -/
theorem LineOf.exists_expandFrom {doc : Document} {line : List Char} (h : LineOf doc line) (text : List Char) :
    ∃ written, expand .utc line = .ok ('\x7b' :: written) ∧ ∀ last {rest}, EndsPiece rest →
      ∃ last', expandFrom .utc text last (line ++ rest) =
        (expandFrom .utc text last' rest).map ('\x7b' :: written ++ ·) := by
  obtain ⟨body, rfl⟩ := h.eq_cons
  obtain ⟨written, hexpand⟩ := Query.exists_expand_of_compile h.compiles
  have hopen (text : List Char) (last : Option Char) (cs : List Char) : expandFrom .utc text last ('\x7b' :: cs) =
      (expandFrom .utc text (some '\x7b') cs).map ('\x7b' :: ·) := Shorthand.expandFrom_sign (by decide) last cs
  rw [expand, hopen] at hexpand
  obtain ⟨others, hothers, rfl⟩ := map_eq_ok.1 hexpand
  refine ⟨others, by rw [expand, hopen, hothers]; rfl, fun last rest hrest => ?_⟩
  obtain ⟨last', happend⟩ := Shorthand.expandFrom_append hrest hothers text
  refine ⟨last', ?_⟩
  rw [List.cons_append, hopen, happend]
  cases expandFrom .utc text last' rest <;> rfl

/-- A newline ends every piece where a brace opens behind it. -/
theorem endsPiece_newline (rest : List Char) : EndsPiece ('\n' :: '\x7b' :: rest) := by
  refine Shorthand.endsPiece_cons (by decide) ?_
  have hopen : Text.isBlank '\x7b' = false := by decide
  simp [Shorthand.nextSign, Shorthand.skipBlanks, hopen]

theorem endsPiece_gap {gap : List Char} (h : ∀ c ∈ gap, Text.isBlank c = true) : EndsPiece gap := by
  cases gap with
  | nil => exact Shorthand.endsPiece_nil
  | cons c gap =>
    rw [List.forall_mem_cons] at h
    refine Shorthand.endsPiece_cons h.1 ?_
    simp [Shorthand.nextSign, Shorthand.skipBlanks, List.dropWhile_eq_nil_iff.2 h.2]

/-- Lines are expanded, and the first one is in front as it is expanded alone. -/
theorem exists_expandFrom_lines {doc : Document} {line : List Char}
    (h : List.Forall₂ LineOf (doc :: docs) (line :: lines)) {gap : List Char}
    (hgap : ∀ c ∈ gap, Text.isBlank c = true) (text : List Char) (last : Option Char) :
    ∃ written rest, expand .utc line = .ok ('\x7b' :: written) ∧
      expandFrom .utc text last (joined (line :: lines) ++ gap) = .ok ('\x7b' :: written ++ rest) ∧
      (lines ≠ [] → ∃ rest', rest = '\n' :: '\x7b' :: rest') := by
  induction lines generalizing doc docs line last with
  | nil =>
    obtain ⟨hfirst, -⟩ := List.forall₂_cons.1 h
    obtain ⟨written, hexpand, hlocal⟩ := hfirst.exists_expandFrom text
    obtain ⟨last', hline⟩ := hlocal last (endsPiece_gap hgap)
    refine ⟨written, gap, hexpand, ?_, fun hne => absurd rfl hne⟩
    rw [joined, Text.joinWith, hline, Shorthand.expandFrom_signs (by simp [Text.squeeze_eq_nil hgap])]
    rfl
  | cons next lines ih =>
    obtain ⟨hfirst, hothers⟩ := List.forall₂_cons.1 h
    obtain ⟨doc', docs', rfl⟩ := List.exists_cons_of_ne_nil (show docs ≠ [] by rintro rfl; cases hothers)
    obtain ⟨written, hexpand, hlocal⟩ := hfirst.exists_expandFrom text
    -- the next line opens an object, so this one ends at the line break
    have hopens : ∃ body, joined (next :: lines) ++ gap = '\x7b' :: body := by
      obtain ⟨body, rfl⟩ := (List.forall₂_cons.1 hothers).1.eq_cons
      exact ⟨_, by rw [joined, Text.joinWith_cons]; rfl⟩
    obtain ⟨body, hbody⟩ := hopens
    obtain ⟨last', hline⟩ := hlocal last (endsPiece_newline body)
    obtain ⟨written', rest, -, hexpand', -⟩ := ih hothers last'
    refine ⟨written, '\n' :: '\x7b' :: (written' ++ rest), hexpand, ?_, fun _ => ⟨_, rfl⟩⟩
    rw [joined_cons_cons, List.append_assoc, List.cons_append, hbody, hline, expandFrom,
      if_pos (by decide), ← hbody, hexpand']
    rfl

/-- Behind the expansion of a document no strict JSON goes on with a second one. -/
theorem LineOf.not_parse {doc : Document} {line written : List Char} (h : LineOf doc line)
    (hexpand : expand .utc line = .ok written) (rest : List Char) (data : Json) :
    Json.parse (written ++ '\n' :: '\x7b' :: rest) ≠ .ok data := by
  intro hparse
  have hreads := (Json.parse_eq_ok.1 hparse).2
  have hitem : ∃ item, Json.parse written = .ok item := by
    rcases Query.compile_eq_ok h.compiles with ⟨hblank, -⟩ | ⟨expanded, fields, hexpanded, hfields, -⟩
    · -- blank text is its own expansion
      rw [String.toList_ofList] at hblank
      have hsame : expand .utc line = .ok line :=
        Shorthand.expandFrom_signs (Query.mem_structureSigns_of_isBlank hblank) none
      cases hexpand.symm.trans hsame
      obtain ⟨item, -, hitem, -⟩ := h.exists_parse (.value []) (endsPiece_newline rest).bare hreads
      exact ⟨item, hitem⟩
    · rw [String.toList_ofList] at hexpanded
      cases hexpand.symm.trans hexpanded
      exact ⟨_, hfields⟩
  obtain ⟨item, hitem⟩ := hitem
  obtain ⟨q, hbehind⟩ := Json.reads_of_append (.value []) hitem (stopsAt_cons.2 (by decide)) hreads
  rw [tokens, if_pos (by decide), Json.tokens_sign rfl rfl fun _ _ => rfl] at hbehind
  cases hbehind with
  | step hmove _ => rcases hmove.closes with h | h | h <;> cases h

/-- Where a sign stands in a text with some end, it stands in front of the end if it is not in it. -/
theorem exists_of_append_eq_append_cons {front gap other rest : List Char} {c : Char}
    (h : front ++ gap = other ++ c :: rest) (hc : c ∉ gap) : ∃ rest', front = other ++ c :: rest' := by
  rcases List.append_eq_append_iff.1 h with ⟨between, -, hgap⟩ | ⟨between, hfront, hrest⟩
  · rw [hgap] at hc
    simp at hc
  · cases between with
    | nil =>
      rw [List.nil_append] at hrest
      simp [← hrest] at hc
    | cons d between =>
      obtain ⟨rfl, -⟩ := List.cons.inj hrest
      exact ⟨between, hfront⟩

end

/-! ## Lines as a whole -/

section

variable {doc doc' : Document} {docs : List Document} {line next : List Char} {lines : List (List Char)}
  (h : List.Forall₂ LineOf (doc :: doc' :: docs) (line :: next :: lines)) {ending whole gap : List Char}
  (hending : ∀ c ∈ ending, Text.isBlank c = true) (hgap : ∀ c ∈ gap, Text.isBlank c = true)
  (hwhole : joined (line :: next :: lines) ++ ending = whole ++ gap)

include h in
theorem joined_eq (ending : List Char) : ∃ body more,
    joined (line :: next :: lines) ++ ending = '\x7b' :: (body ++ '\x7b' :: more) := by
  obtain ⟨hfirst, hothers⟩ := List.forall₂_cons.1 h
  obtain ⟨front, rfl⟩ := hfirst.eq_cons
  obtain ⟨behind, rfl⟩ := (List.forall₂_cons.1 hothers).1.eq_cons
  refine ⟨front ++ ['\n'], behind ++ lines.flatMap (['\n'] ++ ·) ++ ending, ?_⟩
  rw [joined_cons_cons, joined, Text.joinWith_cons]
  simp

include h hending hgap hwhole

/-- No number is too long for the lines as a whole. -/
theorem not_meetsOverlong_lines : ¬ Shorthand.MeetsOverlong .utc whole := by
  intro hmeets
  have hlong := Shorthand.isLong_expandFrom_append (endsPiece_gap hgap)
    ((Shorthand.isLong_expandFrom .utc whole none whole).2 hmeets) whole
  obtain ⟨written, rest, -, hexpand, -⟩ := exists_expandFrom_lines h hending whole none
  rw [← hwhole, hexpand] at hlong
  exact Shorthand.isLong_ok _ hlong

/-- The lines as a whole are no document. -/
theorem not_compile_lines (all : Document) : Query.compile .utc (String.ofList whole) ≠ .ok all := by
  intro hcompile
  have hbrace : Text.isBlank '\x7b' = false := by decide
  have hnot : '\x7b' ∉ gap := fun hmem => by simp [hgap _ hmem] at hbrace
  rcases Query.compile_eq_ok hcompile with ⟨hblank, -⟩ | ⟨expanded, fields, hexpanded, hparse, -⟩
  · -- two opening braces are visible
    obtain ⟨body, more, hjoined⟩ := joined_eq h ending
    have hsqueeze : Text.squeeze whole =
        '\x7b' :: (Text.squeeze body ++ '\x7b' :: Text.squeeze more) := by
      have hsame : Text.squeeze (whole ++ gap) = Text.squeeze whole := by
        rw [Text.squeeze_append, Text.squeeze_eq_nil hgap, List.append_nil]
      rw [← hsame, ← hwhole, hjoined]
      simp [Text.squeeze, hbrace]
    rw [String.toList_ofList, Query.isBlank, hsqueeze] at hblank
    simp [List.append_eq_cons_iff] at hblank
  · -- behind the first document the expansion goes on with the second one
    rw [String.toList_ofList] at hexpanded
    obtain ⟨written, rest, hexpand, hlines, hrest⟩ := exists_expandFrom_lines h hending whole none
    obtain ⟨rest', rfl⟩ := hrest (by simp)
    obtain ⟨last', happend⟩ := Shorthand.expandFrom_append (endsPiece_gap hgap) hexpanded whole
    rw [← hwhole, hlines, Shorthand.expandFrom_signs (by simp [Text.squeeze_eq_nil hgap])] at happend
    have heq : expanded ++ gap = ('\x7b' :: written ++ ['\n']) ++ '\x7b' :: rest' := by
      simpa using (Except.ok.inj happend).symm
    obtain ⟨rest'', rfl⟩ := exists_of_append_eq_append_cons heq hnot
    rw [List.append_assoc, List.singleton_append] at hparse
    exact (List.forall₂_cons.1 h).1.not_parse hexpand rest'' _ hparse

omit hgap hwhole

/-- More than one document never compiles as one, so lines are read as lines. -/
theorem layoutOf_lines : layoutOf (joined (line :: next :: lines) ++ ending) = .ok .lines := by
  have hbrace : Text.isBlank '\x7b' = false := by decide
  obtain ⟨body, more, hjoined⟩ := joined_eq h ending
  have hstart : StopsAt Text.isBlank (joined (line :: next :: lines) ++ ending) := by
    rw [hjoined]
    exact stopsAt_cons.2 hbrace
  -- what is trimmed is white space at the end
  obtain ⟨gap, hwhole, hgap⟩ := Text.exists_eq_trim_append hstart
  have hnot : '\x7b' ∉ gap := fun hmem => by simp [hgap _ hmem] at hbrace
  have hopens : Text.trim (joined (line :: next :: lines) ++ ending) ++ gap =
      [] ++ '\x7b' :: (body ++ '\x7b' :: more) := hwhole.symm.trans hjoined
  obtain ⟨body', hbody'⟩ := exists_of_append_eq_append_cons hopens hnot
  rw [layoutOf_braces hbody']
  rw [hbody', List.nil_append] at hwhole
  have hcases := Query.compile_cases .utc (String.ofList ('\x7b' :: body'))
  rw [String.toList_ofList] at hcases
  rcases hcases with ⟨-, ⟨all, hall⟩ | ⟨fault, fragment, hfault, hfragment⟩⟩ | ⟨hmeets, -⟩
  · exact absurd hall (not_compile_lines h hending hgap hwhole all)
  · rw [hfault]
    simp [hfragment]
  · exact absurd hmeets (not_meetsOverlong_lines h hending hgap hwhole)

end

/-! ## Files of more than one document -/

theorem ne_nil_of_two_le {docs : List Document} {lines : List (List Char)} (h : List.Forall₂ LineOf docs lines)
    (hlength : 2 ≤ docs.length) : lines ≠ [] := by
  rintro rfl
  cases h
  simp at hlength

/-- More than one document on lines is loaded line by line, with a newline at the very end or without one. -/
theorem load_lines (path : String) {docs : List Document} {lines : List (List Char)}
    (h : List.Forall₂ LineOf docs lines) (hlength : 2 ≤ docs.length) {ending : List Char}
    (hending : ending = [] ∨ ending = ['\n']) :
    load path (some (Text.encodeUtf8 (joined lines ++ ending))) = .ok docs := by
  have hne := ne_nil_of_two_le h hlength
  have hreturn : '\r' ∉ joined lines ++ ending := by
    have hjoined := not_mem_joinWith h (show '\r' ∉ ['\n'] by decide)
    rcases hending with rfl | rfl <;> simpa [joined] using hjoined
  have hsplit : Text.splitLines (joined lines ++ ending) = lines := by
    have hends : ∀ line ∈ lines, ∀ c ∈ line, Text.isLineEnd c = false := fun line hline =>
      (exists_lineOf_of_mem h line hline).choose_spec.lineEnds
    rcases hending with rfl | rfl
    · rw [List.append_nil]
      refine Text.splitLines_joinWith (fun line hline => ?_) hends
      obtain ⟨body, rfl⟩ := (exists_lineOf_of_mem h line hline).choose_spec.eq_cons
      exact List.cons_ne_nil _ _
    · rw [← unlines_eq_joined hne]
      exact Text.splitLines_unlines hends
  -- two documents in a row are what tells lines from a single one
  have hlayout : layoutOf (joined lines ++ ending) = .ok .lines := by
    have hblank : ∀ c ∈ ending, Text.isBlank c = true := by
      rcases hending with rfl | rfl
      · exact List.forall_mem_nil _
      · exact List.forall_mem_singleton.2 (by decide)
    cases h with
    | nil => simp at hlength
    | cons hfirst hothers =>
      cases hothers with
      | nil => simp at hlength
      | cons hnext hrest => exact layoutOf_lines (.cons hfirst (.cons hnext hrest)) hblank
  have hlines : readLines path 1 lines = .ok docs :=
    readLines_eq_ok path 1 (h.imp fun _ _ hline => ⟨hline.isVisible, hline.compiles⟩)
  rw [load_encodeUtf8 path hreturn, read, hlayout]
  show readLines path 1 (Text.splitLines (joined lines ++ ending)) = _
  rw [hsplit, hlines]

/--
More than one document on lines is loaded as these documents. An array of the lines is loaded as the same
documents where each line is strict JSON, and is refused where one of them is not.
-/
theorem load_lines_and_arrayOf (path : String) {docs : List Document} {lines : List (List Char)}
    (h : List.Forall₂ LineOf docs lines) (hlength : 2 ≤ docs.length) :
    load path (some (Text.encodeUtf8 (Text.unlines lines))) = .ok docs ∧
    load path (some (Text.encodeUtf8 (Text.joinWith ['\n'] lines))) = .ok docs ∧
    ((∀ line ∈ lines, ∃ data, Json.parse line = .ok data) ∧
        load path (some (Text.encodeUtf8 (arrayOf lines))) = .ok docs ∨
      (∃ line ∈ lines, ∃ fault, Json.parse line = .error fault) ∧
        ∃ message, load path (some (Text.encodeUtf8 (arrayOf lines))) = .error (arrayFault path message)) := by
  refine ⟨?_, ?_, ?_⟩
  · rw [unlines_eq_joined (ne_nil_of_two_le h hlength)]
    exact load_lines path h hlength (.inr rfl)
  · have hload := load_lines path h hlength (.inl rfl)
    rwa [List.append_nil] at hload
  · rw [load_arrayOf h path]
    exact readArray_arrayOf_cases h path

theorem lineOf_quotedKey : LineOf [("b", .array [.bool true])] "\x7b\"b\": [true]\x7d".toList where
  opens := rfl
  lineEnds := by simp [Text.isLineEnd]
  compiles := by
    have hparse : Json.parse "\x7b\"b\": [true]\x7d".toList = .ok (.obj [("b", .arr [.bool true])]) := by cbv
    exact Query.compile_of_parse (by decide) hparse rfl

/-- Two documents with quoted keys are loaded from both layouts. -/
theorem load_lines_and_arrayOf_quotedKey :
    load "docs" (some (Text.encodeUtf8 "\x7b\"b\": [true]\x7d\n\x7b\x7d\n".toList)) =
      .ok [[("b", .array [.bool true])], []] ∧
    load "docs" (some (Text.encodeUtf8 "[\x7b\"b\": [true]\x7d,\x7b\x7d]".toList)) =
      .ok [[("b", .array [.bool true])], []] := by
  have hblank : LineOf [] "\x7b\x7d".toList := ⟨rfl, by simp [Text.isLineEnd], rfl⟩
  obtain ⟨hlines, -, ⟨-, harray⟩ | ⟨⟨line, hline, fault, hfault⟩, -⟩⟩ :=
    load_lines_and_arrayOf "docs" (.cons lineOf_quotedKey (.cons hblank .nil)) (by decide)
  · exact ⟨hlines, harray⟩
  · have hquoted : Json.parse "\x7b\"b\": [true]\x7d".toList = .ok (.obj [("b", .arr [.bool true])]) := by cbv
    have hempty : Json.parse "\x7b\x7d".toList = .ok (.obj []) := by cbv
    simp only [List.mem_cons, List.not_mem_nil, or_false] at hline
    rcases hline with rfl | rfl
    · cases hfault.symm.trans hquoted
    · cases hfault.symm.trans hempty

theorem lineOf_bareKey : LineOf [("a", .int32 ⟨1, by decide, by decide⟩)] "\x7ba: 1\x7d".toList where
  opens := rfl
  lineEnds := by simp [Text.isLineEnd]
  compiles := by
    -- the brace, the key that is quoted, and the rest, which is kept as it is
    have hopen : Shorthand.readPiece .utc "\x7ba: 1\x7d".toList none '\x7b' "a: 1\x7d".toList =
        .ok ⟨['\x7b'], '\x7b', 1⟩ := rfl
    have hkey : Shorthand.readPiece .utc "\x7ba: 1\x7d".toList (some '\x7b') 'a' ": 1\x7d".toList =
        .ok ⟨Json.writeText true ['a'], '"', 1⟩ := rfl
    have hrest (text : List Char) : expandFrom .utc text (some '"') ": 1\x7d".toList = .ok ": 1\x7d".toList := by
      have hspace : ∀ c ∈ [' '], Json.isSpace c = true := List.forall_mem_singleton.2 rfl
      have hends : Shorthand.EndsValue ['\x7d'] := ⟨stopsAt_cons.2 (by decide), by decide⟩
      have hbare : ∀ c ∈ ['1'], isBareChar c = true := List.forall_mem_singleton.2 rfl
      obtain ⟨last, hone⟩ : ∃ last, Shorthand.Kept .utc text (some ':', ['1'] ++ ['\x7d']) (last, ['\x7d']) :=
        Shorthand.kept_bare (some ':') rfl hbare hends
      have hcolon : Shorthand.Kept .utc text (some '"', [':', ' ', '1', '\x7d']) (some ':', [' '] ++ ['1', '\x7d']) :=
        Shorthand.kept_sign _ _ (by decide)
      have hclose : Shorthand.Kept .utc text (last, ['\x7d']) (some '\x7d', []) :=
        Shorthand.kept_sign _ _ (by decide)
      exact (hcolon.trans ((Shorthand.kept_gap _ _ hspace).trans (hone.trans hclose))).expandFrom_eq
    have hbehind := (Shorthand.expandFrom_piece (by decide) hkey).trans (congrArg _ (hrest _))
    have hexpand : expand .utc "\x7ba: 1\x7d".toList = .ok "\x7b\"a\": 1\x7d".toList :=
      (Shorthand.expandFrom_piece (by decide) hopen).trans (congrArg _ hbehind)
    have hparse : Json.parse "\x7b\"a\": 1\x7d".toList = .ok (.obj [("a", .int 1)]) := by cbv
    exact Query.compile_of_expand (by decide) hexpand hparse rfl

/-- A document with a bare key is loaded from a line and refused in an array. -/
theorem not_load_arrayOf_bareKey :
    load "docs" (some (Text.encodeUtf8 "\x7ba: 1\x7d\n\x7b\"b\": [true]\x7d\n".toList)) =
      .ok [[("a", .int32 ⟨1, by decide, by decide⟩)], [("b", .array [.bool true])]] ∧
    load "docs" (some (Text.encodeUtf8 "[\x7ba: 1\x7d,\x7b\"b\": [true]\x7d]".toList)) =
      .error (arrayFault "docs"
        "Expecting property name enclosed in double quotes: line 1 column 3 (char 2)") := by
  have hlines := List.Forall₂.cons lineOf_bareKey (.cons lineOf_quotedKey .nil)
  refine ⟨load_lines "docs" hlines (by decide) (.inr rfl), (load_arrayOf hlines "docs").trans ?_⟩
  have hparse : Json.parse "[\x7ba: 1\x7d,\x7b\"b\": [true]\x7d]".toList = .error (.syntaxAt .propertyName 2) := by cbv
  rw [readArray, show arrayOf _ = "[\x7ba: 1\x7d,\x7b\"b\": [true]\x7d]".toList from rfl, hparse]
  rfl

end DocBrowser.DocumentFile
