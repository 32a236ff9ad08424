import Mathlib
import DocBrowser.Query.Shorthand
import DocBrowser.Proofs.Failure
import DocBrowser.Proofs.Query.Arguments
import DocBrowser.Proofs.Query.Closed
import DocBrowser.Proofs.Query.Literals
/-!
# Collapsed query text read piece by piece

What a text starts with and what is left of it behind are found in the collapsed text as they are in the text
itself, as long as the literals of the text are quiet. Each reader of shell-style text has one lemma for that:
it reads the same piece, and leaves what is left, collapsed. What is read bare is a call, a bound, a key or a word,
whichever text a fault would show.
-/

namespace DocBrowser.Shorthand

open Text (collapseBehind)

/-! ## Calls -/

section

variable {zone : Zone} {call : Call} {fragment : List Char}

theorem onlyArgument_eq_ok {numbers : Bool} {arguments : List Argument} {value : List Char}
    (h : onlyArgument call numbers fragment arguments = .ok value) (fragment' : List Char) :
    onlyArgument call numbers fragment' arguments = .ok value := by
  unfold onlyArgument at h ⊢
  split at h
  · exact h
  · split_ifs at h with hnumbers
    rw [if_pos hnumbers]
    exact h
  · cases h

theorem readBits_eq_ok {bits : ℕ} {raw : List Char} {n : ℤ} (h : readBits call bits fragment raw = .ok n)
    (fragment' : List Char) : readBits call bits fragment' raw = .ok n := by
  unfold readBits at h ⊢
  dsimp only at h ⊢
  split_ifs at h ⊢ with hinteger
  split at h
  · cases h
  · cases h
  · split_ifs at h ⊢
    exact h

theorem readSubtype_eq_ok {raw : List Char} {subtype : UInt8} (h : readSubtype fragment raw = .ok subtype)
    (fragment' : List Char) : readSubtype fragment' raw = .ok subtype := by
  unfold readSubtype at h ⊢
  dsimp only at h ⊢
  split_ifs at h ⊢ with hinteger
  split at h
  · cases h
  · cases h
  · split at h
    · exact h
    · cases h

/-- What a call stands for does not depend on the fragment that a fault would show. -/
theorem expandCall_eq_ok {arguments : List Argument} {written : List Char}
    (h : expandCall zone call arguments fragment = .ok written) (fragment' : List Char) :
    expandCall zone call arguments fragment' = .ok written := by
  -- the fragment is only quoted in faults, so no step of a call that succeeds depends on it
  cases call with
  | objectId capital =>
    obtain ⟨value, hvalue, h⟩ := bind_eq_ok.1 h
    exact bind_eq_ok.2 ⟨value, onlyArgument_eq_ok hvalue _, h⟩
  | date =>
    obtain ⟨value, hvalue, h⟩ := bind_eq_ok.1 h
    refine bind_eq_ok.2 ⟨value, onlyArgument_eq_ok hvalue _, ?_⟩
    split at h
    · cases h
    · exact h
  | int | long =>
    obtain ⟨value, hvalue, h⟩ := bind_eq_ok.1 h
    obtain ⟨n, hn, h⟩ := bind_eq_ok.1 h
    exact bind_eq_ok.2 ⟨value, onlyArgument_eq_ok hvalue _, bind_eq_ok.2 ⟨n, readBits_eq_ok hn _, h⟩⟩
  | decimal =>
    obtain ⟨value, hvalue, h⟩ := bind_eq_ok.1 h
    refine bind_eq_ok.2 ⟨value, onlyArgument_eq_ok hvalue _, ?_⟩
    dsimp only at h ⊢
    split_ifs at h ⊢
    exact h
  | binary =>
    unfold expandCall at h ⊢
    dsimp only at h ⊢
    split at h
    · obtain ⟨subtype, hsubtype, h⟩ := bind_eq_ok.1 h
      exact bind_eq_ok.2 ⟨subtype, readSubtype_eq_ok hsubtype _, h⟩
    · cases h
  | minKey | maxKey =>
    unfold expandCall at h ⊢
    dsimp only at h ⊢
    split_ifs at h ⊢
    exact h

end

/-! ## Bare pieces -/

/-- Whether a word behind a sign of structure is a key: it stands where one may, and a colon follows. -/
def StandsAsKey (last : Option Char) (behind : List Char) : Prop :=
  (last = some '\x7b' ∨ last = some ',') ∧ nextSign behind = some ':'

/-- What is read where a word may start: a call with its arguments, a bound of all values, a key or another word. -/
inductive BarePiece (zone : Zone) (last : Option Char) (cs : List Char) : Piece → Prop where
  | call {call : Call} {behind after : List Char} {arguments : List Argument} {written : List Char}
    (isCall : callAt? cs = some (call, behind)) (read : Arguments true behind arguments after)
    (expand : ∀ fragment, expandCall zone call arguments fragment = .ok written) :
    BarePiece zone last cs ⟨written, '\x7d', cs.length - after.length⟩
  | bound {call : Call} {written : List Char} {n : ℕ} (noCall : callAt? cs = none)
    (isBound : boundAt? cs = some (call, n)) (expand : expandCall zone call [] [] = .ok written) :
    BarePiece zone last cs ⟨written, '\x7d', n⟩
  | key (noCall : callAt? cs = none) (noBound : boundAt? cs = none) (nonempty : cs.takeWhile isBareChar ≠ [])
    (isKey : StandsAsKey last (cs.drop (cs.takeWhile isBareChar).length)) :
    BarePiece zone last cs
      ⟨Json.writeText true (cs.takeWhile isBareChar), '"', (cs.takeWhile isBareChar).length⟩
  | word {final : Char} (noCall : callAt? cs = none) (noBound : boundAt? cs = none)
    (isFinal : (cs.takeWhile isBareChar).getLast? = some final)
    (noKey : ¬ StandsAsKey last (cs.drop (cs.takeWhile isBareChar).length)) :
    BarePiece zone last cs ⟨cs.takeWhile isBareChar, final, (cs.takeWhile isBareChar).length⟩

/-- What is read bare does not depend on the text that faults would show. -/
theorem readBare_eq_ok {zone : Zone} {text cs : List Char} {last : Option Char} {piece : Piece} :
    readBare zone text last cs = .ok piece ↔ BarePiece zone last cs piece := by
  have hkey (behind : List Char) : ((last = some '\x7b' || last = some ',') && nextSign behind = some ':') = true ↔
      StandsAsKey last behind := by
    simp [StandsAsKey]
  constructor
  · intro h
    rw [readBare] at h
    split at h
    · obtain ⟨⟨arguments, after⟩, harguments, h⟩ := bind_eq_ok.1 h
      obtain ⟨written, hwritten, h⟩ := bind_eq_ok.1 h
      cases h
      exact .call ‹_› (arguments_of_readArguments harguments) (expandCall_eq_ok hwritten)
    · split at h
      · obtain ⟨written, hwritten, h⟩ := bind_eq_ok.1 h
        cases h
        exact .bound ‹_› ‹_› hwritten
      · dsimp only at h
        split at h
        · cases h
        · rename_i final hfinal
          split_ifs at h with hisKey <;> cases h
          · exact .key ‹_› ‹_› (List.ne_nil_of_mem (List.mem_of_getLast? hfinal)) ((hkey _).1 hisKey)
          · exact .word ‹_› ‹_› hfinal (mt (hkey _).2 hisKey)
  · intro h
    cases h with
    | call isCall read expand =>
      rw [readBare, isCall]
      simp only [read.readArguments text (Nat.lt_succ_self _), expand, bind, Except.bind]
    | bound noCall isBound expand =>
      rw [readBare, noCall, isBound]
      simp only [expand, bind, Except.bind]
    | key noCall noBound nonempty isKey =>
      rw [readBare, noCall, noBound]
      dsimp only
      rw [List.getLast?_eq_some_getLast nonempty]
      exact if_pos ((hkey _).2 isKey)
    | word noCall noBound isFinal noKey =>
      rw [readBare, noCall, noBound]
      dsimp only
      rw [isFinal]
      exact if_neg (mt (hkey _).1 noKey)

theorem bare_of_boundAt? {cs : List Char} {call : Call} {n : ℕ} (h : boundAt? cs = some (call, n)) :
    1 ≤ n ∧ n ≤ cs.length ∧ ∀ d ∈ cs.take n, isBareChar d = true := by
  obtain ⟨other, -, hother⟩ := List.exists_of_findSome?_eq_some h
  dsimp only at hother
  split_ifs at hother with hbound
  cases hother
  simp only [Bool.and_eq_true] at hbound
  obtain ⟨more, rfl⟩ := List.isPrefixOf_iff_prefix.1 hbound.1.1
  obtain ⟨first, -, name, hname⟩ := name_eq_cons call
  refine ⟨by simp [hname], by simp, fun d hd => ?_⟩
  rw [List.take_left] at hd
  exact isBareChar_of_mem_name hd

namespace BarePiece

variable {zone : Zone} {last : Option Char} {cs cs' : List Char} {piece : Piece}

/-- Where a call starts, it is the call that is read. -/
theorem exists_call (h : BarePiece zone last cs piece) {call : Call} {behind : List Char}
    (hcall : callAt? cs = some (call, behind)) :
    ∃ arguments after written, Arguments true behind arguments after ∧
      (∀ fragment, expandCall zone call arguments fragment = .ok written) ∧
      piece = ⟨written, '\x7d', cs.length - after.length⟩ := by
  cases h with
  | call isCall read expand =>
    rw [hcall] at isCall
    cases isCall
    exact ⟨_, _, _, read, expand, rfl⟩
  | bound noCall | key noCall | word noCall =>
    rw [hcall] at noCall
    cases noCall

/-- Elsewhere the piece is told by the bound or the word that a text starts with, and by what stands behind the word. -/
theorem congr (h : BarePiece zone last cs piece) (hcall : callAt? cs = none) (hcall' : callAt? cs' = none)
    (hbound : boundAt? cs' = boundAt? cs) (hword : cs'.takeWhile isBareChar = cs.takeWhile isBareChar)
    (hkey : StandsAsKey last (cs'.drop (cs.takeWhile isBareChar).length) ↔
      StandsAsKey last (cs.drop (cs.takeWhile isBareChar).length)) : BarePiece zone last cs' piece := by
  cases h with
  | call isCall =>
    rw [hcall] at isCall
    cases isCall
  | bound _ isBound expand => exact .bound hcall' (hbound.trans isBound) expand
  | key _ noBound nonempty isKey =>
    rw [← hkey] at isKey
    rw [← hword] at nonempty isKey ⊢
    exact .key hcall' (hbound.trans noBound) nonempty isKey
  | word _ noBound isFinal noKey =>
    rw [← hkey] at noKey
    rw [← hword] at isFinal noKey ⊢
    exact .word hcall' (hbound.trans noBound) isFinal noKey

theorem length_le (h : BarePiece zone last cs piece) : piece.length ≤ cs.length := by
  cases h with
  | call => exact Nat.sub_le _ _
  | bound _ isBound => exact (bare_of_boundAt? isBound).2.1
  | key | word => exact (List.takeWhile_prefix _).length_le

end BarePiece

/-! ## Pieces -/

/--
Whether a piece in front of a text leaves a quiet text behind, and what is read in front of the collapsed text is
the same piece, which leaves the same, collapsed. Only the lengths of the two may differ.
-/
def Collapses (piece : Piece) (rest : List Char) (read : Except Fault Piece) : Prop :=
  Quiet (opensValue (some piece.last)) (rest.drop (piece.length - 1)) ∧
    ∃ n, read = .ok ⟨piece.written, piece.last, n⟩ ∧
      (collapseBehind rest).drop (n - 1) = collapseBehind (rest.drop (piece.length - 1))

section

variable {zone : Zone} {text rest : List Char} {last : Option Char} {value : Bool} {c : Char} {piece : Piece}

theorem collapses_string (hquote : isQuote c = true) (hquiet : Quiet value (c :: rest)) {chars : List Char} {n : ℕ}
    (h : readString c rest = .ok (chars, n)) :
    Collapses ⟨Json.writeText false chars, '"', n⟩ rest
      ((readString c (collapseBehind rest)).map fun (chars, n) => ⟨Json.writeText false chars, '"', n⟩) := by
  obtain ⟨raw, signs, more, rfl, rfl, hscan, hlocal⟩ := exists_of_readString hquote h
  obtain ⟨hcollapse, hmore⟩ := hquiet.string hquote (hscan more)
  refine ⟨?_, signs.length + 2, ?_, ?_⟩
  · rw [Json.drop_string]
    exact hmore
  · rw [hcollapse, hlocal]
    rfl
  · rw [hcollapse, Json.drop_string, Json.drop_string]

/-- A regular expression is told by its signs up to the closing slash and its flags. -/
theorem exists_of_readRegex (h : readRegex rest = .ok piece) :
    ∃ signs more, rest = signs ++ '/' :: more ∧
      (∀ more', patternLength false (signs ++ '/' :: more') = (signs.length, true)) ∧ piece.last = '\x7d' ∧
      piece.length = signs.length + 2 + (more.takeWhile Text.isLetter).length ∧
      ∀ more', more'.takeWhile Text.isLetter = more.takeWhile Text.isLetter →
        readRegex (signs ++ '/' :: more') = .ok piece := by
  rcases hpattern : patternLength false rest with ⟨n, closed⟩
  unfold readRegex at h
  rw [hpattern] at h
  dsimp only at h
  split at h
  · cases h
  rename_i hclosed
  obtain rfl : closed = true := by simpa using hclosed
  obtain ⟨signs, more, rfl, rfl, hlocal⟩ := exists_of_patternLength hpattern
  have htake (more : List Char) : (signs ++ '/' :: more).take signs.length = signs := List.take_left
  have hdrop (more : List Char) : (signs ++ '/' :: more).drop (signs.length + 1) = more := List.drop_length_add_append 1
  rw [hdrop, htake] at h
  split at h
  · cases h
  rename_i hempty
  split at h
  · rename_i hflags
    cases h
    -- what follows matters up to the end of the flags
    refine ⟨signs, more, rfl, hlocal, rfl, rfl, fun more' hsame => ?_⟩
    unfold readRegex
    rw [hlocal]
    dsimp only
    rw [hdrop, htake, hsame, if_neg (by simp), if_neg hempty, if_pos hflags]
  · cases h

theorem isBareChar_of_isLetter (h : Text.isLetter c = true) : isBareChar c = true := by
  rw [Text.isLetter] at h
  rw [isBareChar, Text.isWordChar]
  split_ifs at h ⊢ with hascii
  · simp [Char.isAlphanum, h]
  · simp [h]

theorem collapses_regex (hquiet : Quiet true ('/' :: rest)) (h : readRegex rest = .ok piece) :
    Collapses piece rest (readRegex (collapseBehind rest)) := by
  obtain ⟨signs, more, rfl, hpattern, hlast, hlength, hlocal⟩ := exists_of_readRegex h
  obtain ⟨hcollapse, hmore⟩ := hquiet.pattern (hpattern more)
  have hletter : ∀ d, Text.isLetter d = true → Text.isBlank d = false := fun d hd =>
    isBlank_of_isBareChar (isBareChar_of_isLetter hd)
  have hbehind (more' : List Char) : (signs ++ '/' :: more').drop (piece.length - 1) =
      more'.drop (more.takeWhile Text.isLetter).length := by
    rw [hlength, show signs.length + 2 + (more.takeWhile Text.isLetter).length - 1 =
      signs.length + (1 + (more.takeWhile Text.isLetter).length) by omega, ← List.drop_drop, List.drop_left,
      ← List.drop_drop, List.drop_one, List.tail_cons]
  refine ⟨?_, piece.length, ?_, ?_⟩
  · rw [hbehind, hlast, Text.drop_length_takeWhile]
    -- with flags, the text goes on behind bare characters; without them, behind the slash itself
    by_cases hnil : more.takeWhile Text.isLetter = []
    · have hsplit := List.takeWhile_append_dropWhile (p := Text.isLetter) (l := more)
      rw [hnil, List.nil_append] at hsplit
      rw [hsplit]
      exact hmore
    · rw [← List.takeWhile_append_dropWhile (p := Text.isLetter) (l := more)] at hmore
      exact hmore.bare hnil fun d hd => isBareChar_of_isLetter (List.mem_takeWhile_imp hd)
  · rw [hcollapse]
    exact hlocal _ (Text.takeWhile_collapseBehind hletter more)
  · rw [hcollapse, hbehind, hbehind, Text.drop_takeWhile_collapseBehind hletter]

/-- A piece that is a bare word takes the same from the collapsed text. -/
theorem collapses_bare {n : ℕ} {final : Char} (written : List Char) (hn : 1 ≤ n)
    (hbare : ∀ d ∈ (c :: rest).take n, isBareChar d = true) (hfinal : opensValue (some final) = false)
    (hquiet : Quiet value (c :: rest)) : Collapses ⟨written, final, n⟩ rest (.ok ⟨written, final, n⟩) := by
  obtain ⟨n, rfl⟩ := Nat.exists_eq_add_of_le' hn
  have hc : Text.isBlank c = false := isBlank_of_isBareChar (hbare c (by simp))
  have hdrop := (stays_of_bare hbare).take_drop.2
  rw [Text.collapseBehind_cons_of_visible hc, List.drop_succ_cons, List.drop_succ_cons] at hdrop
  rw [← List.take_append_drop (n + 1) (c :: rest)] at hquiet
  refine ⟨?_, n + 1, rfl, hdrop⟩
  rw [hfinal]
  exact hquiet.bare (by simp) hbare

theorem exists_of_callAt? {cs behind : List Char} {call : Call} (h : callAt? cs = some (call, behind)) :
    ∃ rest, cs = call.name.toList ++ rest ∧ skipBlanks rest = '(' :: behind := by
  obtain ⟨other, -, hother⟩ := List.exists_of_findSome?_eq_some h
  dsimp only at hother
  split_ifs at hother with hname
  split at hother
  · cases hother
    obtain ⟨rest, rfl⟩ := List.isPrefixOf_iff_prefix.1 hname
    rename_i hopen
    rw [List.drop_left] at hopen
    exact ⟨rest, rfl, hopen⟩
  · cases hother

/-- Behind the opening parenthesis of a call the text is quiet. -/
theorem Quiet.call {call : Call} {behind : List Char} (h : callAt? (c :: rest) = some (call, behind))
    (hquiet : Quiet value (c :: rest)) : Quiet false behind := by
  obtain ⟨more, hcs, hopen⟩ := exists_of_callAt? h
  obtain ⟨first, -, name, hname⟩ := name_eq_cons call
  rw [hcs] at hquiet
  have hmore := (hquiet.bare (by simp [hname]) fun _ => isBareChar_of_mem_name).skipBlanks
  rw [hopen] at hmore
  exact hmore.bare_cons (by decide)

theorem suffix_of_callAt? {call : Call} {behind : List Char} (h : callAt? (c :: rest) = some (call, behind)) :
    behind <:+ rest := by
  obtain ⟨more, hcs, hopen⟩ := exists_of_callAt? h
  obtain ⟨first, -, name, hname⟩ := name_eq_cons call
  rw [hname, List.cons_append, List.cons.injEq] at hcs
  rw [hcs.2]
  exact (suffix_of_skipBlanks hopen).trans (List.suffix_append _ _)

theorem drop_of_suffix {after : List Char} (h : after <:+ rest) :
    rest.drop ((c :: rest).length - after.length - 1) = after := by
  have hlength : (c :: rest).length - after.length - 1 = rest.length - after.length := by
    rw [List.length_cons]
    omega
  rw [hlength]
  exact (List.suffix_iff_eq_drop.1 h).symm

theorem standsAsKey_collapseBehind (last : Option Char) (behind : List Char) :
    StandsAsKey last (collapseBehind behind) ↔ StandsAsKey last behind := by
  rw [StandsAsKey, StandsAsKey, nextSign_collapseBehind]

/-- A call, a bound, a key or a word is read from collapsed text as it is from the text itself. -/
theorem collapses_readBare (text' : List Char) (hc : Text.isBlank c = false) (hquiet : Quiet value (c :: rest))
    (h : readBare zone text last (c :: rest) = .ok piece) :
    Collapses piece rest (readBare zone text' last (c :: collapseBehind rest)) := by
  have hpiece := readBare_eq_ok.1 h
  have hcall' := callAt?_collapseBehind (c :: rest)
  rw [Text.collapseBehind_cons_of_visible hc] at hcall'
  have hbare : ∀ d ∈ (c :: rest).take ((c :: rest).takeWhile isBareChar).length, isBareChar d = true := by
    rw [← List.prefix_iff_eq_take.1 (List.takeWhile_prefix _)]
    exact fun d hd => List.mem_takeWhile_imp hd
  -- without a call the same word stands there, and whether it is a key is told by the sign behind white space
  have hsame (hnone : callAt? (c :: rest) = none) : readBare zone text' last (c :: collapseBehind rest) = .ok piece := by
    have hvisible : ∀ d, isBareChar d = true → Text.isBlank d = false := fun _ => isBlank_of_isBareChar
    have hdrop := Text.drop_takeWhile_collapseBehind hvisible (c :: rest)
    rw [hnone] at hcall'
    rw [← Text.collapseBehind_cons_of_visible hc] at hcall' ⊢
    refine readBare_eq_ok.2 (hpiece.congr hnone hcall' (boundAt?_collapseBehind _)
      (Text.takeWhile_collapseBehind hvisible _) ?_)
    rw [hdrop, standsAsKey_collapseBehind]
  cases hpiece with
  | @call call behind after arguments written isCall read expand =>
    obtain ⟨read', hafter⟩ := read.collapsed (hquiet.call isCall)
    rw [isCall] at hcall'
    have hsuffix := drop_of_suffix (c := c) (read.suffix.trans (suffix_of_callAt? isCall))
    have hsuffix' := drop_of_suffix (c := c) (read'.suffix.trans (suffix_of_callAt? hcall'))
    -- the call takes fewer characters of the collapsed text, so its length is counted there anew
    refine ⟨?_, _, readBare_eq_ok.2 (.call hcall' read' expand), ?_⟩
    · rw [hsuffix]
      exact hafter
    · rw [hsuffix, hsuffix']
  | bound noCall isBound =>
    obtain ⟨hn, -, hbound⟩ := bare_of_boundAt? isBound
    rw [hsame noCall]
    exact collapses_bare _ hn hbound (by decide) hquiet
  | key noCall _ nonempty =>
    rw [hsame noCall]
    exact collapses_bare _ (List.length_pos_iff.2 nonempty) hbare (by decide) hquiet
  | @word final noCall _ isFinal =>
    have hmem : final ∈ (c :: rest).takeWhile isBareChar := List.mem_of_getLast? isFinal
    have hfinal := (opens_nothing_of_isBareChar (List.mem_takeWhile_imp hmem)).2.2
    rw [hsame noCall]
    exact collapses_bare _ (List.length_pos_of_mem hmem) hbare hfinal hquiet

/-- A piece is read from collapsed text as it is from the text itself. -/
theorem collapses_readPiece (text' : List Char) (hc : Text.isBlank c = false)
    (hquiet : Quiet (opensValue last) (c :: rest)) (h : readPiece zone text last c rest = .ok piece) :
    Collapses piece rest (readPiece zone text' last c (collapseBehind rest)) := by
  rw [readPiece] at h ⊢
  by_cases hquote : isQuote c = true
  · have hquote' := hquote
    rw [isQuote] at hquote'
    rw [if_pos hquote'] at h ⊢
    obtain ⟨⟨chars, n⟩, hread, hpiece⟩ := map_eq_ok.1 h
    cases hpiece
    exact collapses_string hquote hquiet hread
  · have hquote' := hquote
    rw [isQuote] at hquote'
    rw [if_neg hquote'] at h ⊢
    by_cases hslash : (c = '/' && opensValue last) = true
    · rw [if_pos hslash] at h ⊢
      rw [Bool.and_eq_true, decide_eq_true_eq] at hslash
      obtain ⟨rfl, hvalue⟩ := hslash
      rw [hvalue] at hquiet
      exact collapses_regex hquiet h
    · rw [if_neg hslash] at h ⊢
      split_ifs at h ⊢
      · cases h
        exact ⟨hquiet.cons hc (by simpa using hquote) (by simpa using hslash), 1, rfl, rfl⟩
      · exact collapses_readBare text' hc hquiet h

end

end DocBrowser.Shorthand
