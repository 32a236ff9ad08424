import Mathlib
import DocBrowser.Store.File
import DocBrowser.Proofs.ExtendedJson.Characters
import DocBrowser.Proofs.Query.RoundTrip
import DocBrowser.Proofs.Text.Bytes
import DocBrowser.Proofs.Text.Lines
/-!
# Dumped documents load again

A dump of at most one document loads again. A dump of more documents is read line by line, and the
reader knows more line ends than the writer escapes: such a dump loads again exactly where no string
and no key has one of the line ends outside ASCII.
-/

namespace DocBrowser

open ExtendedJson (DatesFit)

/-! ## Characters of dumps -/

/-- The line ends outside ASCII. -/
def isWideLineEnd (c : Char) : Bool := c = '\x85' || c = '\u2028' || c = '\u2029'

/-- The line ends that strings show as they are are those outside ASCII. -/
theorem unescaped_isLineEnd : Json.unescaped Text.isLineEnd = isWideLineEnd := by
  funext c
  have hchar (d : Char) : c = d ↔ c.toNat = d.toNat := ⟨congrArg _, fun h => Char.ext (UInt32.toNat_inj.1 h)⟩
  have hnext : '\x85'.toNat = 133 := rfl
  have hline : '\u2028'.toNat = 8232 := rfl
  have hparagraph : '\u2029'.toNat = 8233 := rfl
  rw [Bool.eq_iff_iff]
  simp only [Json.unescaped, Text.isLineEnd, isWideLineEnd, Bool.and_eq_true, Bool.or_eq_true, decide_eq_true_eq,
    beq_iff_eq, hchar, hnext, hline, hparagraph]
  omega

theorem notPrintable_isLineEnd : Json.NotPrintable Text.isLineEnd := by
  intro c hlow hhigh
  simp only [Text.isLineEnd, Bool.or_eq_false_iff, Bool.and_eq_false_iff, decide_eq_false_iff_not, beq_eq_false_iff_ne]
  omega

theorem isWideLineEnd_of_lt {c : Char} (h : c.toNat < 128) : isWideLineEnd c = false := by
  rw [← unescaped_isLineEnd, Json.unescaped]
  by_cases hlow : 32 ≤ c.toNat
  · simp [notPrintable_isLineEnd c hlow h]
  · simp [hlow]

/-! ## Lines of dumps -/

/-- A line is what a dump has for a document. -/
structure DumpsAs (doc : Document) (line : List Char) : Prop where
  format_eq : doc.format false = .ok line
  object : ∃ fields, (Json.obj fields).Readable ∧ line = Json.compactText (.obj fields)
  compile_eq : Query.compile .utc (String.ofList line) = .ok doc
  lineEnds : line.any Text.isLineEnd = (Value.document doc).textAny isWideLineEnd
  noReturn : '\r' ∉ line

theorem dumpsAs_of_format {doc : Document} {line : List Char} (hwf : (Value.document doc).WellFormed)
    (hdates : DatesFit (.document doc)) (h : doc.format false = .ok line) : DumpsAs doc line := by
  rcases Document.format_render_cases hwf hdates false with
    ⟨-, keys, hformat, -⟩ | ⟨-, fields, hencode, hformat, -, hstands⟩
  · rw [h] at hformat
    cases hformat
  · rw [h, Except.ok.injEq] at hformat
    subst hformat
    have hreadable := (hstands .utc).readable
    refine ⟨h, ⟨fields, hreadable, rfl⟩, ?_, ?_, ?_⟩
    · have hstands := hstands .utc
      rw [ExtendedJson.arrangedFields_false] at hstands
      exact Query.compile_write Json.Layout.compact_blank hstands
    · rw [Json.any_compactText notPrintable_isLineEnd hreadable, unescaped_isLineEnd]
      exact ExtendedJson.textAny_encode (fun c => isWideLineEnd_of_lt) (.document doc) hencode
    · exact Json.not_mem_compactText _ (by decide)

/-- A dump has one line for each document. -/
theorem dumpDocuments_eq_ok {docs : List Document} {text : List Char} (h : dumpDocuments docs = .ok text) :
    ∃ lines, text = Text.unlines lines ∧ List.Forall₂ (fun doc line => doc.format false = .ok line) docs lines := by
  unfold dumpDocuments at h
  obtain ⟨lines, hlines, htext⟩ := bind_eq_ok.1 h
  refine ⟨lines, (Except.ok.inj htext).symm, ?_⟩
  clear h htext
  induction docs generalizing lines with
  | nil =>
    cases hlines
    exact .nil
  | cons doc docs ih =>
    rw [List.mapM_cons] at hlines
    obtain ⟨line, hfirst, hlines⟩ := bind_eq_ok.1 hlines
    obtain ⟨rest, hrest, hlines⟩ := bind_eq_ok.1 hlines
    cases hlines
    exact .cons hfirst (ih rest hrest)

theorem forall₂_dumpsAs {docs : List Document} {text : List Char}
    (hwf : ∀ doc ∈ docs, (Value.document doc).WellFormed) (hdates : ∀ doc ∈ docs, DatesFit (.document doc))
    (h : dumpDocuments docs = .ok text) : ∃ lines, text = Text.unlines lines ∧ List.Forall₂ DumpsAs docs lines := by
  obtain ⟨lines, rfl, hlines⟩ := dumpDocuments_eq_ok h
  refine ⟨lines, rfl, ?_⟩
  clear h
  induction hlines with
  | nil => exact .nil
  | cons hfirst _ ih =>
    exact .cons (dumpsAs_of_format (hwf _ (by simp)) (hdates _ (by simp)) hfirst)
      (ih (fun doc hdoc => hwf doc (List.mem_cons_of_mem _ hdoc)) fun doc hdoc =>
        hdates doc (List.mem_cons_of_mem _ hdoc))

/-- A line starts and ends with the braces of an object. -/
theorem DumpsAs.eq_braces {doc : Document} {line : List Char} (h : DumpsAs doc line) :
    ∃ body, line = '\x7b' :: (body ++ ['\x7d']) := by
  obtain ⟨fields, -, rfl⟩ := h.object
  rcases fields with _ | ⟨⟨key, value⟩, rest⟩
  · exact ⟨[], rfl⟩
  · rw [Json.compactText, Json.write, Json.writeAt]
    exact ⟨_, rfl⟩

/-! ## The layout of dumps -/

/-- Nothing is trimmed off braces but the newline behind them. -/
theorem trim_braces (body : List Char) :
    Text.trim ('\x7b' :: (body ++ ['\x7d']) ++ ['\n']) = '\x7b' :: (body ++ ['\x7d']) := by
  have hopen : Text.isBlank '\x7b' = false := by decide
  have hclose : Text.isBlank '\x7d' = false := by decide
  have hnewline : Text.isBlank '\n' = true := by decide
  simp [Text.trim, Text.trimStart, Text.trimEnd, Text.dropEndWhile, hopen, hclose, hnewline]

/-- Lines with a newline between neighbours. -/
def joined (lines : List (List Char)) : List Char := Text.joinWith ['\n'] lines

theorem joined_cons_cons (line next : List Char) (lines : List (List Char)) :
    joined (line :: next :: lines) = line ++ '\n' :: joined (next :: lines) := by
  simp [joined, Text.joinWith]

theorem unlines_eq_joined {lines : List (List Char)} (h : lines ≠ []) :
    Text.unlines lines = joined lines ++ ['\n'] := by
  obtain ⟨line, lines, rfl⟩ := List.exists_cons_of_ne_nil h
  clear h
  induction lines generalizing line with
  | nil => simp [joined, Text.joinWith]
  | cons next lines ih => rw [Text.unlines_cons, ih next, joined_cons_cons, List.append_assoc, List.cons_append]

/-- The lines of a dump start and end with braces, so all of it does. -/
theorem joined_eq_braces {docs : List Document} {line : List Char} {lines : List (List Char)}
    (h : List.Forall₂ DumpsAs docs (line :: lines)) : ∃ body, joined (line :: lines) = '\x7b' :: (body ++ ['\x7d']) := by
  induction lines generalizing docs line with
  | nil =>
    cases h with
    | cons hfirst _ => simpa [joined, Text.joinWith] using hfirst.eq_braces
  | cons next lines ih =>
    cases h with
    | cons hfirst hrest =>
      obtain ⟨body, rfl⟩ := hfirst.eq_braces
      obtain ⟨body', hbody'⟩ := ih hrest
      refine ⟨body ++ '\x7d' :: '\n' :: '\x7b' :: body', ?_⟩
      rw [joined_cons_cons, hbody']
      simp

/-- A dump is expanded to itself. -/
theorem kept_joined (zone : Zone) (text : List Char) {docs : List Document} {line : List Char}
    {lines : List (List Char)} (h : List.Forall₂ DumpsAs docs (line :: lines)) (last : Option Char) :
    ∃ last', Shorthand.Kept zone text (last, joined (line :: lines)) (last', []) := by
  induction lines generalizing docs line last with
  | nil =>
    cases h with
    | cons hfirst _ =>
      obtain ⟨fields, hreadable, rfl⟩ := hfirst.object
      obtain ⟨last', hkept⟩ := Shorthand.kept_writeAt Json.Layout.compact_blank last 0 (.obj fields) hreadable
        Shorthand.endsValue_nil
      rw [List.append_nil] at hkept
      exact ⟨last', hkept⟩
  | cons next lines ih =>
    cases h with
    | cons hfirst hrest =>
      obtain ⟨fields, hreadable, rfl⟩ := hfirst.object
      obtain ⟨body, hbody⟩ := joined_eq_braces hrest
      have hspace : ∀ c ∈ ['\n'], Json.isSpace c = true := by simp [Json.isSpace]
      -- behind the newline comes a brace, no colon that would make a key of what is in front
      have hends : Shorthand.EndsValue ('\n' :: joined (next :: lines)) := by
        refine ⟨Text.stopsAt_cons.2 (Shorthand.isBareChar_of_isSpace rfl), ?_⟩
        have hnewline : Text.isBlank '\n' = true := by decide
        have hopen : Text.isBlank '\x7b' = false := by decide
        simp [hbody, Shorthand.nextSign, Shorthand.skipBlanks, hnewline, hopen]
      obtain ⟨last₁, hkept⟩ := Shorthand.kept_writeAt Json.Layout.compact_blank last 0 (.obj fields) hreadable hends
      obtain ⟨last₂, hkept'⟩ := ih hrest last₁
      rw [joined_cons_cons]
      exact ⟨last₂, hkept.trans ((Shorthand.kept_gap last₁ _ hspace).trans hkept')⟩

/-- Read as one text, a dump of more than one document has something behind the first one. -/
theorem parse_joined {docs : List Document} {line next : List Char} {lines : List (List Char)}
    (h : List.Forall₂ DumpsAs docs (line :: next :: lines)) :
    ∃ position, Json.parse (joined (line :: next :: lines)) = .error (.syntaxAt .extraData position) := by
  cases h with
  | cons hfirst hrest =>
    obtain ⟨fields, hreadable, rfl⟩ := hfirst.object
    obtain ⟨body, hbody⟩ := joined_eq_braces hrest
    have hspace : ∀ c ∈ ['\n'], Json.isSpace c = true := by simp [Json.isSpace]
    have hstop : Text.StopsAt Json.continuesNumber ('\n' :: joined (next :: lines)) := Text.stopsAt_cons.2 (by decide)
    have hreach : Json.Reaches .strict
        (.value [], Json.compactText (.obj fields) ++ ('\n' :: joined (next :: lines))) _ :=
      (Json.reaches_writeAt Json.Layout.compact_blank (.value []) 0 (.obj fields) hreadable hstop).trans
        (Json.reaches_spaces (joined (next :: lines)) hspace)
    obtain ⟨body', hbody'⟩ := hfirst.eq_braces
    have hmark : (joined (Json.compactText (.obj fields) :: next :: lines)).head? ≠ some '\uFEFF' := by
      rw [joined_cons_cons, hbody']
      simp
    -- the machine has read the first object when the brace of the second one comes
    obtain ⟨q, hq⟩ := hreach (joined (Json.compactText (.obj fields) :: next :: lines)).length 0
    refine ⟨q, ?_⟩
    rw [Json.parse, Json.parseWith, if_neg hmark]
    rw [joined_cons_cons] at hq ⊢
    refine hq.trans ?_
    rw [hbody]
    simp only
    rw [Json.tokens, if_neg (by decide)]
    rfl

/-- A text in braces is one document where it compiles. -/
theorem layoutOf_braces {text body : List Char} (h : Text.trim text = '\x7b' :: body) :
    DocumentFile.layoutOf text =
      match Query.compile .utc (String.ofList ('\x7b' :: body)) with
      | .ok doc => .ok (.single doc)
      | .error fault => if fault.fragment?.isSome then .ok .lines else .error fault.failure := by
  rw [DocumentFile.layoutOf, h]
  rfl

/-- A dump of more than one document is read by lines. -/
theorem layoutOf_unlines {docs : List Document} {line next : List Char} {lines : List (List Char)}
    (h : List.Forall₂ DumpsAs docs (line :: next :: lines)) :
    DocumentFile.layoutOf (Text.unlines (line :: next :: lines)) = .ok .lines := by
  obtain ⟨body, hbody⟩ := joined_eq_braces h
  obtain ⟨last', hkept⟩ := kept_joined .utc (joined (line :: next :: lines)) h none
  obtain ⟨position, hparse⟩ := parse_joined h
  -- a text counts as blank if hardly anything is left of it without white space; four braces are
  have hblank : Query.isBlank (joined (line :: next :: lines)) = false := by
    cases h with
    | cons hfirst hrest =>
      obtain ⟨body₁, rfl⟩ := hfirst.eq_braces
      obtain ⟨body₂, hbody₂⟩ := joined_eq_braces hrest
      have hopen : Text.isBlank '\x7b' = false := by decide
      have hclose : Text.isBlank '\x7d' = false := by decide
      have hlength : 3 ≤ (Text.squeeze (joined (('\x7b' :: (body₁ ++ ['\x7d'])) :: next :: lines))).length := by
        rw [joined_cons_cons, hbody₂]
        simp only [Text.squeeze, List.cons_append, List.append_assoc, List.filter_cons, List.filter_append, hopen,
          hclose, Bool.not_false, if_true, List.length_cons, List.length_append]
        split <;> simp only [List.length_cons] <;> omega
      simp only [Query.isBlank, Bool.or_eq_false_iff, decide_eq_false_iff_not]
      constructor <;> intro hsqueeze <;> rw [hsqueeze] at hlength <;> simp at hlength
  have hcompile : Query.compile .utc (String.ofList (joined (line :: next :: lines))) =
      .error (.invalid .extraData (String.ofList (Query.excerpt (joined (line :: next :: lines)) position))) := by
    rw [Query.compile, String.toList_ofList, hblank, if_neg Bool.false_ne_true, Shorthand.expand, hkept.expandFrom_eq]
    simp only [Query.resolve, hparse]
  rw [hbody] at hcompile
  rw [unlines_eq_joined (List.cons_ne_nil _ _), hbody, layoutOf_braces (trim_braces body), hcompile]
  rfl

/-! ## Documents on lines -/

/-- Lines that are not blank and compile are read as their documents. -/
theorem readLines_eq_ok (path : String) (number : ℕ) {docs : List Document} {lines : List (List Char)}
    (h : List.Forall₂ (fun doc line => Text.isVisible line = true ∧ Query.compile .utc (String.ofList line) = .ok doc)
      docs lines) : DocumentFile.readLines path number lines = .ok docs := by
  induction h generalizing number with
  | nil => rfl
  | cons hfirst _ ih =>
    rw [DocumentFile.readLines, if_neg (of_decide_eq_true hfirst.1), hfirst.2]
    simp only [ih]
    rfl

theorem DumpsAs.isVisible {doc : Document} {line : List Char} (h : DumpsAs doc line) : Text.isVisible line = true := by
  obtain ⟨body, hbody⟩ := h.eq_braces
  exact Text.isVisible_of_mem (hbody ▸ List.mem_cons_self) (show Text.isBlank '\x7b' = false by decide)

/-- Lines are read as one document for each line that is not blank. -/
theorem length_of_readLines {path : String} {number : ℕ} {lines : List (List Char)} {docs : List Document}
    (h : DocumentFile.readLines path number lines = .ok docs) : docs.length = lines.countP Text.isVisible := by
  induction lines generalizing number docs with
  | nil =>
    cases h
    rfl
  | cons line lines ih =>
    rw [DocumentFile.readLines] at h
    -- a line that shows nothing is skipped, every other gives one document or stops the reading
    split_ifs at h with hblank
    · rw [List.countP_cons_of_neg (by simp [Text.isVisible, hblank]), ih h]
    · rw [List.countP_cons_of_pos (by simp [Text.isVisible, hblank])]
      cases hline : Query.compile .utc (String.ofList line) with
      | error fault =>
        simp only [hline] at h
        split at h <;> cases h
      | ok doc =>
        simp only [hline] at h
        obtain ⟨others, hrest, rfl⟩ := map_eq_ok.1 h
        rw [List.length_cons, ih hrest]

theorem DumpsAs.countP_splitLines {doc : Document} {line : List Char} (h : DumpsAs doc line) :
    1 ≤ (Text.splitLines (line ++ ['\n'])).countP Text.isVisible ∧
      ((Value.document doc).textAny isWideLineEnd = true →
        2 ≤ (Text.splitLines (line ++ ['\n'])).countP Text.isVisible) := by
  obtain ⟨body, hbody⟩ := h.eq_braces
  have hopen : Text.isBlank '\x7b' = false := by decide
  have hclose : Text.isBlank '\x7d' = false := by decide
  have hreturn := h.noReturn
  constructor
  · refine Text.one_le_countP_splitLines ?_ (by rw [hbody]; simp) hopen
    simpa using hreturn
  · intro hwide
    have hends := h.lineEnds
    rw [hwide, hbody, List.any_eq_true] at hends
    rw [hbody] at hreturn ⊢
    refine Text.two_le_countP_splitLines (fun hmem => hreturn (by simp [hmem])) hopen hclose ?_
    -- the line end is neither of the braces, so it stands between them
    obtain ⟨c, hc, hend⟩ := hends
    refine ⟨c, ?_, hend⟩
    simp only [List.mem_cons, List.mem_append, List.not_mem_nil, or_false] at hc
    rcases hc with rfl | hc | rfl
    · exact absurd hend (by decide)
    · exact hc
    · exact absurd hend (by decide)

/-- No line of a dump has a carriage return. -/
theorem noReturn_of_mem {docs : List Document} {lines : List (List Char)} (h : List.Forall₂ DumpsAs docs lines) :
    ∀ line ∈ lines, '\r' ∉ line := by
  induction h with
  | nil => simp
  | cons hfirst _ ih => exact List.forall_mem_cons.2 ⟨hfirst.noReturn, ih⟩

/-- Each document has at least one line that is not blank. -/
theorem length_le_sum_countP {docs : List Document} {lines : List (List Char)} (h : List.Forall₂ DumpsAs docs lines) :
    docs.length ≤ (lines.map fun line => (Text.splitLines (line ++ ['\n'])).countP Text.isVisible).sum := by
  induction h with
  | nil => simp
  | cons hfirst _ ih =>
    have hone := hfirst.countP_splitLines.1
    simp only [List.length_cons, List.map_cons, List.sum_cons]
    omega

/-- A line end inside of a string makes more lines that are not blank than there are documents. -/
theorem length_lt_countP_splitLines {docs : List Document} {lines : List (List Char)}
    (h : List.Forall₂ DumpsAs docs lines) (hwide : ∃ doc ∈ docs, (Value.document doc).textAny isWideLineEnd = true) :
    docs.length < (Text.splitLines (Text.unlines lines)).countP Text.isVisible := by
  rw [Text.countP_splitLines_unlines (noReturn_of_mem h)]
  induction h with
  | nil => simp at hwide
  | cons hfirst hrest ih =>
    obtain ⟨hone, htwo⟩ := hfirst.countP_splitLines
    simp only [List.length_cons, List.map_cons, List.sum_cons]
    obtain ⟨doc, hdoc, hany⟩ := hwide
    rcases List.mem_cons.1 hdoc with rfl | hdoc
    · -- the first line is cut in two, and the others are not fewer than their documents
      have hle := length_le_sum_countP hrest
      have htwo' := htwo hany
      omega
    · have hih := ih ⟨doc, hdoc, hany⟩
      omega

/-! ## Dumps that load again -/

/-- The bytes of a text without carriage returns are read as the text. -/
theorem load_encodeUtf8 (path : String) {text : List Char} (h : '\r' ∉ text) :
    DocumentFile.load path (some (Text.encodeUtf8 text)) = DocumentFile.read path text := by
  simp only [DocumentFile.load, DocumentFile.decode, Text.decodeUtf8?_encodeUtf8, Text.universalNewlines_of_not_mem h]
  rfl

/-- The bytes of a dump are read as its text. -/
theorem load_dump (path : String) {docs : List Document} {lines : List (List Char)}
    (h : List.Forall₂ DumpsAs docs lines) :
    DocumentFile.load path (some (Text.encodeUtf8 (Text.unlines lines))) =
      DocumentFile.read path (Text.unlines lines) := by
  refine load_encodeUtf8 path ?_
  have hlines := noReturn_of_mem h
  simpa [Text.unlines] using fun line hline hmem => hlines line hline hmem

/-- A dump of at most one document loads again. -/
theorem load_dump_of_length_le (path : String) {docs : List Document} {lines : List (List Char)}
    (h : List.Forall₂ DumpsAs docs lines) (hlength : docs.length ≤ 1) :
    DocumentFile.load path (some (Text.encodeUtf8 (Text.unlines lines))) = .ok docs := by
  rw [load_dump path h]
  rcases h with _ | @⟨doc, line, _, _, hfirst, _ | _⟩
  · rfl
  · -- all of the file is the one document
    obtain ⟨body, hbody⟩ := hfirst.eq_braces
    have htrim := trim_braces body
    have hcompile := hfirst.compile_eq
    rw [hbody] at hcompile
    have hlayout : DocumentFile.layoutOf (Text.unlines [line]) = .ok (.single doc) := by
      rw [Text.unlines_cons, Text.unlines_nil, hbody, layoutOf_braces htrim, hcompile]
    rw [DocumentFile.read, hlayout]
    rfl
  · simp at hlength

/-- A dump of more documents loads again without line ends in strings, and only then. -/
theorem load_dump_iff_of_lt_length (path : String) {docs : List Document} {lines : List (List Char)}
    (h : List.Forall₂ DumpsAs docs lines) (hlength : 1 < docs.length) :
    DocumentFile.load path (some (Text.encodeUtf8 (Text.unlines lines))) = .ok docs ↔
      ∀ doc ∈ docs, (Value.document doc).textAny isWideLineEnd = false := by
  rw [load_dump path h]
  have hlayout : DocumentFile.layoutOf (Text.unlines lines) = .ok .lines := by
    match lines, h with
    | [], h =>
      cases h
      simp at hlength
    | [_], h =>
      have := h.length_eq
      simp at this
      omega
    | _ :: _ :: _, h => exact layoutOf_unlines h
  have hread : DocumentFile.read path (Text.unlines lines) =
      DocumentFile.readLines path 1 (Text.splitLines (Text.unlines lines)) := by
    rw [DocumentFile.read, hlayout]
    rfl
  rw [hread]
  constructor
  · -- a line end in a string leaves more lines to read than there are documents
    intro hok
    by_contra hcontra
    push Not at hcontra
    have hlt := length_lt_countP_splitLines h (by simpa using hcontra)
    have hcount := length_of_readLines hok
    omega
  · -- without one, the lines are cut where they were put together
    intro hfree
    have hlines : ∀ line ∈ lines, ∀ c ∈ line, Text.isLineEnd c = false := by
      clear hlayout hread hlength
      induction h with
      | nil => simp
      | cons hfirst _ ih =>
        refine List.forall_mem_cons.2 ⟨?_, ih fun doc hdoc => hfree doc (List.mem_cons_of_mem _ hdoc)⟩
        have hends := hfirst.lineEnds
        rw [hfree _ (by simp), List.any_eq_false] at hends
        simpa using hends
    rw [Text.splitLines_unlines hlines]
    exact readLines_eq_ok path 1 (h.imp fun _ _ hline => ⟨hline.isVisible, hline.compile_eq⟩)

/--
A dump loads again exactly where it has at most one document, or none of its strings and keys has a
line end outside ASCII.
-/
theorem load_dumpDocuments_iff (path : String) {docs : List Document} {text : List Char}
    (hwf : ∀ doc ∈ docs, (Value.document doc).WellFormed) (hdates : ∀ doc ∈ docs, DatesFit (.document doc))
    (h : dumpDocuments docs = .ok text) :
    DocumentFile.load path (some (Text.encodeUtf8 text)) = .ok docs ↔
      docs.length ≤ 1 ∨ ∀ doc ∈ docs, (Value.document doc).textAny isWideLineEnd = false := by
  obtain ⟨lines, rfl, hlines⟩ := forall₂_dumpsAs hwf hdates h
  by_cases hlength : docs.length ≤ 1
  · simp [hlength, load_dump_of_length_le path hlines hlength]
  · rw [load_dump_iff_of_lt_length path hlines (not_le.1 hlength)]
    simp [hlength]

/-- Two documents without such line ends load again. -/
theorem load_dumpDocuments_two :
    DocumentFile.load "docs" (some (Text.encodeUtf8 "\x7b\"a\":\"x\"\x7d\n\x7b\"b\":null\x7d\n".toList)) =
      .ok [[("a", .string "x")], [("b", .null)]] := by
  refine (load_dumpDocuments_iff "docs" ?_ ?_ (by rfl)).2 (.inr ?_)
  · simp [Value.WellFormed, Value.WellFormedFields, keysOf]
  · simp [DatesFit, ExtendedJson.DatesFitFields]
  · simp [Value.textAny, Value.textAnyFields, isWideLineEnd]

/-- A line separator in a string of the first of two documents keeps them from loading again. -/
theorem load_dumpDocuments_separator :
    ∃ text, dumpDocuments [[("a", .string "x\u2028y")], [("b", .null)]] = .ok text ∧
      DocumentFile.load "docs" (some (Text.encodeUtf8 text)) ≠ .ok [[("a", .string "x\u2028y")], [("b", .null)]] := by
  have hdump : dumpDocuments [[("a", .string "x\u2028y")], [("b", .null)]] =
      .ok "\x7b\"a\":\"x\u2028y\"\x7d\n\x7b\"b\":null\x7d\n".toList := by rfl
  obtain ⟨lines, htext, hlines⟩ := forall₂_dumpsAs
    (by simp [Value.WellFormed, Value.WellFormedFields, keysOf]) (by simp [DatesFit, ExtendedJson.DatesFitFields]) hdump
  refine ⟨_, hdump, ?_⟩
  rw [htext, Ne, load_dump_iff_of_lt_length "docs" hlines (by simp)]
  simp [Value.textAny, Value.textAnyFields, isWideLineEnd]

end DocBrowser
