import Mathlib
import DocBrowser.Proofs.History
import DocBrowser.Proofs.Json.Respaced
import DocBrowser.Proofs.Query.Collapsed
import DocBrowser.Proofs.Query.Recompile
import DocBrowser.Proofs.Query.StrictJson
/-!
# Saved queries compiled again

A query is saved collapsed. Its pieces are written the same then, with other white space between them, so the
JSON it stands for is read alike, and the entry compiles to the document that the query compiled to. What is
saved is another query where a string or a regular expression holds white space other than single spaces.
-/

namespace DocBrowser.Shorthand

open Json (Fronts ReadAlike fronts_sign fronts_space fronts_writeText)
open Text (StopsAt stopsAt_cons collapseBehind)

/-! ## What pieces are written as -/

/-- A key with its colon and a space. -/
theorem fronts_key (key : String) : Fronts (Json.writeText false key.toList ++ [':', ' ']) :=
  (fronts_writeText false key.toList).append ((fronts_sign (by simp)).append fronts_space)

theorem fronts_open : Fronts ['\x7b'] := fronts_sign (by simp)

theorem fronts_close : Fronts ['\x7d'] := fronts_sign (by simp)

theorem fronts_comma : Fronts [',', ' '] := (fronts_sign (by simp)).append fronts_space

theorem fronts_wrapped (key : String) {written : List Char} (h : Fronts (written ++ ['\x7d'])) :
    Fronts (wrapped key written) := by
  have hall := fronts_open.append ((fronts_key key).append h)
  simpa [wrapped] using hall

theorem fronts_wrapped_text (key : String) (text : List Char) : Fronts (wrapped key (Json.writeText true text)) :=
  fronts_wrapped key ((fronts_writeText true text).append fronts_close)

/-- No sign of structure and no white space may stand in a bare word. -/
theorem isSpace_isSign_of_isBareChar {c : Char} (h : isBareChar c = true) :
    Json.isSpace c = false ∧ Json.isSign c = false := by
  constructor
  · by_contra hspace
    rw [isBareChar_of_isSpace (Bool.eq_true_of_not_eq_false hspace)] at h
    cases h
  · have hnot : ∀ d ∈ ['\x7b', '\x7d', '[', ']', ',', ':', '"'], isBareChar d = false := by
      simp [isBareChar, Text.isWordChar]
    rw [Json.isSign, List.contains_eq_mem, decide_eq_false_iff_not]
    intro hmem
    rw [hnot c hmem] at h
    cases h

theorem stopsAt_isBareSign {cs : List Char} (h : StopsAt isBareChar cs) : StopsAt Json.isBareSign cs := by
  refine h.mono fun c hc => ?_
  by_contra hsign
  rw [isBareChar_of_isBareSign (Bool.eq_true_of_not_eq_false hsign)] at hc
  cases hc

/-- A bare word may stand in front where it ends. -/
theorem readAlike_bare {word cs cs' : List Char} (hword : ∀ c ∈ word, isBareChar c = true)
    (hcs : StopsAt isBareChar cs) (hcs' : StopsAt isBareChar cs') (h : ReadAlike cs cs') :
    ReadAlike (word ++ cs) (word ++ cs') :=
  .word (fun c hc => isSpace_isSign_of_isBareChar (hword c hc)) (stopsAt_isBareSign hcs) (stopsAt_isBareSign hcs') h

theorem fronts_one : Fronts (['1'] ++ ['\x7d']) := by
  intro cs cs' h
  rw [List.append_assoc, List.append_assoc]
  have hstop (rest : List Char) : StopsAt isBareChar (['\x7d'] ++ rest) := stopsAt_cons.2 (by decide)
  exact readAlike_bare (by simp [isBareChar, Text.isWordChar]) (hstop cs) (hstop cs') (fronts_close h)

/-- Whatever a call stands for is an object. -/
theorem fronts_of_expandCall {zone : Zone} {call : Call} {arguments : List Argument} {fragment written : List Char}
    (h : expandCall zone call arguments fragment = .ok written) : Fronts written ∧ written.head? = some '\x7b' := by
  have hwrapped (key : String) (text : List Char) : Fronts (wrapped key (Json.writeText true text)) ∧
      (wrapped key (Json.writeText true text)).head? = some '\x7b' := ⟨fronts_wrapped_text key text, rfl⟩
  -- every call writes a wrapper: its key, and a text or one more object inside
  cases call with
  | objectId capital =>
    obtain ⟨value, -, h⟩ := bind_eq_ok.1 h
    cases h
    exact hwrapped _ _
  | date =>
    obtain ⟨value, -, h⟩ := bind_eq_ok.1 h
    split at h <;> cases h
    exact ⟨fronts_wrapped _ ((fronts_wrapped_text _ _).append fronts_close), rfl⟩
  | int | long =>
    obtain ⟨value, -, h⟩ := bind_eq_ok.1 h
    obtain ⟨n, -, h⟩ := bind_eq_ok.1 h
    cases h
    exact hwrapped _ _
  | decimal =>
    obtain ⟨value, -, h⟩ := bind_eq_ok.1 h
    dsimp only at h
    split_ifs at h
    cases h
    exact hwrapped _ _
  | binary =>
    unfold expandCall at h
    dsimp only at h
    split at h
    · rename_i payload
      obtain ⟨subtype, -, h⟩ := bind_eq_ok.1 h
      cases h
      have hpayload := (fronts_key "base64").append (fronts_writeText true payload)
      have hsubtype := (fronts_key "subType").append (fronts_writeText true (Text.hexText 2 subtype.toNat))
      have hinner := fronts_open.append (hpayload.append (fronts_comma.append (hsubtype.append fronts_close)))
      have hall := fronts_open.append ((fronts_key "$binary").append (hinner.append fronts_close))
      refine ⟨?_, rfl⟩
      convert hall using 1
      simp [Json.writeText, Json.writeChar]
    · cases h
  | minKey | maxKey =>
    unfold expandCall at h
    dsimp only at h
    split_ifs at h
    cases h
    exact ⟨fronts_wrapped _ fronts_one, rfl⟩

section

variable {zone : Zone} {text : List Char} {last : Option Char} {c : Char} {rest : List Char} {piece : Piece}

theorem fronts_of_readRegex (h : readRegex rest = .ok piece) :
    Fronts piece.written ∧ piece.written.head? = some '\x7b' := by
  unfold readRegex at h
  dsimp only at h
  split at h
  · cases h
  split at h
  · cases h
  split at h
  · cases h
    have hopen : Fronts "\x7b\"$regex\": ".toList := by
      simpa [Json.writeText, Json.writeChar] using fronts_open.append (fronts_key "$regex")
    have hoptions : Fronts ", \"$options\": ".toList := by
      simpa [Json.writeText, Json.writeChar] using fronts_comma.append (fronts_key "$options")
    refine ⟨((hopen.append (fronts_writeText false _)).append ?_).append fronts_close, rfl⟩
    split
    · exact fun _ _ halike => halike
    · exact hoptions.append (fronts_writeText true _)
  · cases h

/-- A piece is written as tokens of their own, or it is a bare word that ends there. -/
theorem written_cases (h : readPiece zone text last c rest = .ok piece) :
    (Fronts piece.written ∧ piece.written.head?.any Json.isSign = true) ∨
      (piece.written ≠ [] ∧ (∀ d ∈ piece.written, isBareChar d = true) ∧ isBareChar c = true ∧
        StopsAt isBareChar (rest.drop (piece.length - 1))) := by
  have hobject {written : List Char} (h : Fronts written ∧ written.head? = some '\x7b') :
      Fronts written ∧ written.head?.any Json.isSign = true := ⟨h.1, by rw [h.2]; rfl⟩
  rw [readPiece] at h
  -- strings, patterns, signs of structure, and what is bare
  split_ifs at h with hquote hslash hstructural
  · obtain ⟨⟨chars, n⟩, -, hpiece⟩ := map_eq_ok.1 h
    cases hpiece
    exact .inl ⟨fronts_writeText false chars, rfl⟩
  · exact .inl (hobject (fronts_of_readRegex h))
  · cases h
    have hsign : c ∈ ['\x7b', '\x7d', '[', ']', ':', ','] := by
      simpa [isStructural, List.contains_eq_mem] using hstructural
    refine .inl ⟨fronts_sign hsign, ?_⟩
    simp only [List.head?_cons, Option.any_some, Json.isSign, List.contains_eq_mem, decide_eq_true_eq]
    simp only [List.mem_cons, List.not_mem_nil, or_false] at hsign ⊢
    tauto
  · cases readBare_eq_ok.1 h with
    | call _ _ expand => exact .inl (hobject (fronts_of_expandCall (expand [])))
    | bound _ _ expand => exact .inl (hobject (fronts_of_expandCall expand))
    | key => exact .inl ⟨fronts_writeText true _, rfl⟩
    | word _ _ isFinal =>
      -- a bare word is written as it stands, and the sign behind it is not bare
      have hne : (c :: rest).takeWhile isBareChar ≠ [] := List.ne_nil_of_mem (List.mem_of_getLast? isFinal)
      have hc : isBareChar c = true := by
        by_contra hc
        exact hne (List.takeWhile_cons_of_neg hc)
      refine .inr ⟨hne, fun d hd => List.mem_takeWhile_imp hd, hc, ?_⟩
      rw [List.takeWhile_cons_of_pos hc, List.length_cons, Nat.add_sub_cancel, Text.drop_length_takeWhile]
      exact Text.stopsAt_dropWhile _ rest

theorem isBareChar_of_isSign (h : Json.isSign c = true) : isBareChar c = false := by
  by_contra hbare
  rw [(isSpace_isSign_of_isBareChar (Bool.eq_true_of_not_eq_false hbare)).2] at h
  cases h

/-- The expansion of a piece starts with a sign, or with a bare character where the piece starts with one. -/
theorem head?_append_cases (h : readPiece zone text last c rest = .ok piece) (behind : List Char) :
    ∃ d, (piece.written ++ behind).head? = some d ∧
      (Json.isSign d = true ∨ isBareChar d = true ∧ isBareChar c = true) := by
  rcases written_cases h with ⟨-, hsign⟩ | ⟨hne, hbare, hc, -⟩
  · obtain ⟨d, hd, hsign⟩ := (Option.any_eq_true _ _).1 hsign
    exact ⟨d, by rw [List.head?_append, hd, Option.some_or], .inl hsign⟩
  · obtain ⟨d, others, hcons⟩ := List.exists_cons_of_ne_nil hne
    rw [hcons] at hbare ⊢
    exact ⟨d, rfl, .inr ⟨hbare d List.mem_cons_self, hc⟩⟩

/-- What an expansion starts with. -/
theorem expandFrom_cases {cs written : List Char} (h : expandFrom zone text last cs = .ok written) :
    (written = [] ∧ cs = []) ∨ ∃ c d, cs.head? = some c ∧ written.head? = some d ∧
      (Text.isBlank d = true ∨ Json.isSign d = true ∨ isBareChar d = true ∧ isBareChar c = true) := by
  cases expandFrom_eq_ok_iff.1 h with
  | nil => exact .inl ⟨rfl, rfl⟩
  | @blank _ c _ _ hblank => exact .inr ⟨c, c, rfl, rfl, .inl hblank⟩
  | @piece _ c _ behind piece _ hpiece =>
    obtain ⟨d, hd, hcases⟩ := head?_append_cases hpiece behind
    exact .inr ⟨c, d, rfl, hd, .inr hcases⟩

/-- Where no bare word starts, none is written. -/
theorem stopsAt_expandFrom {cs written : List Char} (hcs : StopsAt isBareChar cs)
    (h : expandFrom zone text last cs = .ok written) : StopsAt isBareChar written := by
  rcases expandFrom_cases h with ⟨rfl, -⟩ | ⟨c, d, hc, hd, hcases⟩
  · exact Text.stopsAt_nil _
  · intro d' hd'
    rw [hd, Option.mem_some_iff] at hd'
    subst hd'
    rcases hcases with hblank | hsign | ⟨-, hbare⟩
    · by_contra hbare
      rw [isBlank_of_isBareChar (Bool.eq_true_of_not_eq_false hbare)] at hblank
      cases hblank
    · exact isBareChar_of_isSign hsign
    · rw [hcs c hc] at hbare
      cases hbare

/-- An expansion starts with no byte order mark. -/
theorem head?_expandFrom {cs written : List Char} (h : expandFrom zone text last cs = .ok written) :
    written.head? ≠ some '\uFEFF' := by
  rcases expandFrom_cases h with ⟨rfl, -⟩ | ⟨c, d, -, hd, hcases⟩
  · simp
  · rw [hd]
    rintro ⟨⟩
    rcases hcases with hblank | hsign | ⟨hbare, -⟩
    · exact absurd hblank (by decide)
    · exact absurd hsign (by decide)
    · exact absurd hbare (by decide +kernel)

/-- Collapsed text is expanded to text that is read alike. -/
theorem exists_expandFrom_collapseBehind (text' : List Char) {cs written : List Char}
    (hquiet : Quiet (opensValue last) cs) (h : expandFrom zone text last cs = .ok written) :
    ∃ written', expandFrom zone text' last (collapseBehind cs) = .ok written' ∧ ReadAlike written written' := by
  rw [expandFrom_eq_ok_iff] at h
  -- white space is left out or written as one space, pieces are read again
  induction h with
  | nil => exact ⟨[], by rw [Text.collapseBehind_nil, expandFrom], Json.readAlike_nil⟩
  | @blank _ c rest _ hblank _ ih =>
    obtain ⟨written', hwritten', halike⟩ := ih ((quiet_cons_of_blank hblank).1 hquiet)
    rcases Text.collapseBehind_cons_cases hblank rest with hcollapse | hcollapse
    · rw [hcollapse]
      exact ⟨written', hwritten', halike.cons_blank hblank⟩
    · rw [hcollapse, expandFrom_blank (by decide), hwritten']
      exact ⟨' ' :: written', rfl, (halike.cons_blank hblank).space⟩
  | @piece _ c rest behind piece hc hpiece hbehind ih =>
    obtain ⟨hquiet', n, hpiece', hdrop⟩ := collapses_readPiece text' hc hquiet hpiece
    obtain ⟨behind', hbehind', halike⟩ := ih hquiet'
    rw [← expandFrom_eq_ok_iff] at hbehind
    refine ⟨piece.written ++ behind', ?_, ?_⟩
    · rw [Text.collapseBehind_cons_of_visible hc, expandFrom_piece hc hpiece', hdrop, hbehind']
      rfl
    · rcases written_cases hpiece with ⟨hfronts, -⟩ | ⟨-, hbare, -, hstop⟩
      · exact hfronts halike
      · -- a bare word must not grow together with what is written behind it, in neither text
        have hstop' := Text.stopsAt_collapseBehind (fun _ => isBlank_of_isBareChar) hstop
        exact readAlike_bare hbare (stopsAt_expandFrom hstop hbehind) (stopsAt_expandFrom hstop' hbehind') halike

/-- A query whose literals are quiet is expanded from its collapsed text to text that is read alike. -/
theorem exists_expandFrom_collapse (text' : List Char) {cs written : List Char} (hquiet : Quiet false cs)
    (h : expandFrom zone text none cs = .ok written) :
    ∃ written', expandFrom zone text' none (Text.collapse cs) = .ok written' ∧ ReadAlike written written' := by
  -- over the blanks in front: they are left out, and the machine skips them as well
  induction cs generalizing written with
  | nil => exact @exists_expandFrom_collapseBehind zone text none text' [] written hquiet h
  | cons c cs ih =>
    cases hc : Text.isBlank c with
    | true =>
      rw [expandFrom_blank hc] at h
      obtain ⟨written, hwritten, rfl⟩ := map_eq_ok.1 h
      obtain ⟨written', hwritten', halike⟩ := ih ((quiet_cons_of_blank hc).1 hquiet) hwritten
      rw [Text.collapse_cons_of_blank hc]
      exact ⟨written', hwritten', halike.cons_blank hc⟩
    | false =>
      rw [Text.collapse_cons_of_visible hc, ← Text.collapseBehind_cons_of_visible hc]
      exact exists_expandFrom_collapseBehind text' hquiet h

end

end DocBrowser.Shorthand

namespace DocBrowser.Query

theorem isBlank_collapse (text : List Char) : isBlank (Text.collapse text) = isBlank text := by
  rw [isBlank, Text.squeeze_collapse, isBlank]

/-- What expanded text stands for is told by its data. -/
theorem resolve_of_parse {zone : Zone} {text : String} {expanded : List Char} {fields : List (String × Json)}
    {doc : Document} (hparse : Json.parse expanded = .ok (.obj fields))
    (hdecode : ExtendedJson.decode zone (.obj fields) = .ok (.document doc)) :
    resolve zone text expanded = .ok doc := by
  rw [resolve, hparse]
  simp only [hdecode]

/-- Text compiles step by step. -/
theorem compile_of_expand {zone : Zone} {text expanded : List Char} {fields : List (String × Json)} {doc : Document}
    (hblank : isBlank text = false) (hexpand : Shorthand.expand zone text = .ok expanded)
    (hparse : Json.parse expanded = .ok (.obj fields))
    (hdecode : ExtendedJson.decode zone (.obj fields) = .ok (.document doc)) :
    compile zone (String.ofList text) = .ok doc := by
  rw [compile, String.toList_ofList, if_neg (by simp [hblank]), hexpand]
  exact resolve_of_parse hparse hdecode

/-- A query whose literals hold single spaces only compiles collapsed to the document that it compiles to. -/
theorem compile_collapse {zone : Zone} {text : List Char} {doc : Document}
    (hliterals : ∀ literal ∈ Shorthand.literals text, Text.collapse literal = literal)
    (h : compile zone (String.ofList text) = .ok doc) :
    compile zone (String.ofList (Text.collapse text)) = .ok doc := by
  cases hblank : isBlank text with
  | true =>
    rw [compile, String.toList_ofList, if_pos hblank] at h
    rw [compile, String.toList_ofList, if_pos ((isBlank_collapse text).trans hblank), h]
  | false =>
    -- a text with something visible is expanded, and what it expands to reads like the collapsed text's
    rcases compile_eq_ok h with ⟨hempty, -⟩ | ⟨expanded, fields, hexpand, hparse, hdecode⟩
    · rw [String.toList_ofList, hblank] at hempty
      cases hempty
    · rw [String.toList_ofList] at hexpand
      obtain ⟨expanded', hexpand', halike⟩ :=
        Shorthand.exists_expandFrom_collapse (Text.collapse text) hliterals hexpand
      have hparse' := halike.parse hparse (Shorthand.head?_expandFrom hexpand')
      exact compile_of_expand ((isBlank_collapse text).trans hblank) hexpand' hparse' hdecode

end DocBrowser.Query

namespace DocBrowser.History

/-- The newest entry behind saving is what was saved. -/
theorem getLast?_save {history : History} (hlimit : 1 ≤ history.limit) {text : List Char}
    (hvisible : Text.collapse text ≠ []) : (history.save text).1.getLast? = some (Text.collapse text) := by
  obtain ⟨n, hn⟩ := Nat.exists_eq_add_of_le' (show 1 ≤ history.limit.toNat by omega)
  rw [save_of_collapse_ne_nil history hvisible, record, newest_of_pos (by omega), hn, List.rtake_concat_succ,
    List.getLast?_concat]

/--
Saving a query that is not blank records a newest entry that compiles to the document that the query compiles to,
if the strings and regular expressions of the query hold no white space but single spaces.
-/
theorem compile_newest {history : History} (hlimit : 1 ≤ history.limit) {zone : Zone} {text : List Char}
    {doc : Document} (hvisible : Text.collapse text ≠ []) (hcompile : Query.compile zone (String.ofList text) = .ok doc)
    (hliterals : ∀ literal ∈ Shorthand.literals text, Text.collapse literal = literal) :
    ∃ entry, (history.save text).1.getLast? = some entry ∧ Query.compile zone (String.ofList entry) = .ok doc :=
  ⟨Text.collapse text, getLast?_save hlimit hvisible, Query.compile_collapse hliterals hcompile⟩

/-- A query over several lines with a bare key, a string and a regular expression. -/
def severalLines : List Char := "\x7ba:\n [ 'c d' ,\t/x y/i]\x7d".toList

/-- The document that it compiles to. -/
def severalLinesDocument : Document :=
  [("a", .array [.string "c d", .document [("$regex", .string "x y"), ("$options", .string "i")]])]

theorem expand_severalLines : Shorthand.expand .utc severalLines =
    .ok "\x7b\"a\":\n [ \"c d\" ,\t\x7b\"$regex\": \"x y\", \"$options\": \"i\"\x7d]\x7d".toList := by
  have hopen : Shorthand.readPiece .utc severalLines none '\x7b' "a:\n [ 'c d' ,\t/x y/i]\x7d".toList =
      .ok ⟨['\x7b'], '\x7b', 1⟩ := rfl
  have hkey : Shorthand.readPiece .utc severalLines (some '\x7b') 'a' ":\n [ 'c d' ,\t/x y/i]\x7d".toList =
      .ok ⟨Json.writeText true ['a'], '"', 1⟩ := rfl
  have hrest : Shorthand.expandFrom .utc severalLines (some '"') ":\n [ 'c d' ,\t/x y/i]\x7d".toList =
      .ok ":\n [ \"c d\" ,\t\x7b\"$regex\": \"x y\", \"$options\": \"i\"\x7d]\x7d".toList := by cbv
  have hbehind := (Shorthand.expandFrom_piece (by decide) hkey).trans (congrArg _ hrest)
  exact (Shorthand.expandFrom_piece (by decide) hopen).trans (congrArg _ hbehind)

theorem compile_severalLines : Query.compile .utc (String.ofList severalLines) = .ok severalLinesDocument := by
  have hparse : Json.parse
      "\x7b\"a\":\n [ \"c d\" ,\t\x7b\"$regex\": \"x y\", \"$options\": \"i\"\x7d]\x7d".toList =
      .ok (.obj [("a", .arr [.str "c d", .obj [("$regex", .str "x y"), ("$options", .str "i")]])]) := by cbv
  exact Query.compile_of_expand (by decide) expand_severalLines hparse rfl

/-- It is saved on one line. -/
theorem compile_newest_severalLines :
    (1 : ℤ) ≤ 100 ∧ Text.collapse severalLines ≠ [] ∧
      Query.compile .utc (String.ofList severalLines) = .ok severalLinesDocument ∧
      (∀ literal ∈ Shorthand.literals severalLines, Text.collapse literal = literal) ∧
      ∃ entry, (({ limit := 100 } : History).save severalLines).1.getLast? = some entry ∧
        Query.compile .utc (String.ofList entry) = .ok severalLinesDocument := by
  have hvisible : Text.collapse severalLines ≠ [] := by decide
  have hliterals : ∀ literal ∈ Shorthand.literals severalLines, Text.collapse literal = literal := by
    have hlist : Shorthand.literals severalLines = ["'c d'".toList, "/x y/".toList] := by cbv
    rw [hlist]
    decide
  exact ⟨by decide, hvisible, compile_severalLines, hliterals,
    compile_newest (by decide) hvisible compile_severalLines hliterals⟩

theorem compile_string {text : List Char} {value : String} (hblank : Query.isBlank text = false)
    (hexpand : Shorthand.expand .utc text = .ok text) (hparse : Json.parse text = .ok (.obj [("a", .str value)])) :
    Query.compile .utc (String.ofList text) = .ok [("a", .string value)] :=
  Query.compile_of_expand hblank hexpand hparse rfl

/-- A string with two spaces is saved with one, and the entry compiles to another document. -/
theorem not_compilesTo_two_spaces :
    Query.compile .utc (String.ofList "\x7b\"a\": \"x  y\"\x7d".toList) = .ok [("a", .string "x  y")] ∧
    Text.collapse "\x7b\"a\": \"x  y\"\x7d".toList ≠ [] ∧
    ∃ entry, (({ limit := 100 } : History).save "\x7b\"a\": \"x  y\"\x7d".toList).1.getLast? = some entry ∧
      ¬ Query.CompilesTo .utc entry [("a", .string "x  y")] := by
  have htwo : Query.compile .utc (String.ofList "\x7b\"a\": \"x  y\"\x7d".toList) = .ok [("a", .string "x  y")] :=
    compile_string (by decide) (by cbv) (by cbv)
  have hone : Query.compile .utc (String.ofList "\x7b\"a\": \"x y\"\x7d".toList) = .ok [("a", .string "x y")] :=
    compile_string (by decide) (by cbv) (by cbv)
  refine ⟨htwo, by decide, "\x7b\"a\": \"x y\"\x7d".toList, by decide, ?_⟩
  -- what is kept compiles to the text with one space, which is another document
  rintro ⟨result, hresult, hsame⟩
  rw [hone, Except.ok.injEq] at hresult
  subst hresult
  have hdifferent : Document.same [("a", .string "x y")] [("a", .string "x  y")] = .ok false := rfl
  rw [hdifferent] at hsame
  cases hsame

end DocBrowser.History
