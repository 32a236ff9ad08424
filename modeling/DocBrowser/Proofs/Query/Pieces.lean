import Mathlib
import DocBrowser.Proofs.Json.Joined
import DocBrowser.Proofs.Query.Collapsed
import DocBrowser.Proofs.Query.Recompile
import DocBrowser.Proofs.Query.Saved
import DocBrowser.Proofs.Query.StrictJson
/-!
# Query texts behind each other

A text that can be expanded is expanded alike in front of other text, as long as that neither goes on with its
last word nor makes a key or a call of it. And where strict JSON can be read from such a text and what follows
it, both readers cut it into the same pieces, so strict JSON can be read from the text alone.
-/

namespace DocBrowser.Shorthand

open Json (Reads Token isSign isBareSign bareRun readToken tokens)
open Text (StopsAt stopsAt_cons)

/-! ## What may follow -/

/-- Whether a piece ends in front of a text: a value does, and nothing makes a call of it. -/
structure EndsPiece (rest : List Char) : Prop extends EndsValue rest where
  opening : nextSign rest ≠ some '('

/-- White space and what does not go on with a word end a piece. -/
theorem endsPiece_cons {c : Char} {rest : List Char} (hc : Text.isBlank c = true)
    (hrest : nextSign rest ∉ [some ':', some '(']) : EndsPiece (c :: rest) := by
  have hbare : isBareChar c = false := by
    cases hbare : isBareChar c with
    | false => rfl
    | true => simp [isBlank_of_isBareChar hbare] at hc
  have hskip : nextSign (c :: rest) = nextSign rest := by
    rw [nextSign, skipBlanks, List.dropWhile_cons_of_pos hc, nextSign, skipBlanks]
  simp only [List.mem_cons, List.not_mem_nil, or_false, not_or] at hrest
  exact ⟨⟨stopsAt_cons.2 hbare, hskip ▸ hrest.1⟩, hskip ▸ hrest.2⟩

theorem endsPiece_nil : EndsPiece [] := ⟨endsValue_nil, by simp [nextSign, skipBlanks]⟩

section

variable {cs rest more : List Char} {c : Char}

theorem skipBlanks_append (h : skipBlanks cs = c :: more) (rest : List Char) :
    skipBlanks (cs ++ rest) = c :: (more ++ rest) := by
  rw [skipBlanks] at h
  rw [skipBlanks, List.dropWhile_append, h]
  rfl

theorem skipBlanks_append_of_eq_nil (h : skipBlanks cs = []) (rest : List Char) :
    skipBlanks (cs ++ rest) = skipBlanks rest := by
  rw [skipBlanks] at h
  rw [skipBlanks, List.dropWhile_append, h]
  rfl

theorem nextSign_append (cs rest : List Char) : nextSign (cs ++ rest) = (nextSign cs).or (nextSign rest) := by
  cases hskip : skipBlanks cs with
  | nil => simp [nextSign, hskip, skipBlanks_append_of_eq_nil hskip]
  | cons c more => simp [nextSign, hskip, skipBlanks_append hskip]

/-- A sign that what follows does not start with stands behind a text if it stands in it. -/
theorem nextSign_append_eq_iff (h : nextSign rest ≠ some c) (cs : List Char) :
    nextSign (cs ++ rest) = some c ↔ nextSign cs = some c := by
  rw [nextSign_append]
  cases nextSign cs <;> simp [h]

theorem EndsValue.of_append (h : EndsValue (cs ++ rest)) : EndsValue cs := by
  refine ⟨h.bare.of_append, fun hsign => h.sign ?_⟩
  rw [nextSign_append, hsign]
  rfl

end

/-! ## Calls and bounds -/

/-- What does not go on with a bare word does not go on with anything that bare words are made of. -/
theorem stopsAt_of_bare {p : Char → Bool} (hp : ∀ c, p c = true → isBareChar c = true) {rest : List Char}
    (h : StopsAt isBareChar rest) : StopsAt p rest := by
  refine h.mono fun c hc => ?_
  by_contra hno
  rw [hp c (Bool.eq_true_of_not_eq_false hno)] at hc
  cases hc

theorem isBareChar_of_continuesName {c : Char} (h : continuesName c = true) : isBareChar c = true := by
  simp only [continuesName, Bool.or_eq_true, Bool.and_eq_true, decide_eq_true_eq] at h
  rcases h with (⟨hascii, halnum⟩ | rfl) | rfl
  · simp [isBareChar, Text.isWordChar, hascii, halnum]
  · decide
  · decide

section

variable {rest : List Char} (hrest : EndsPiece rest)

include hrest

theorem isPrefixOf_name_append (call : Call) (cs : List Char) :
    call.name.toList.isPrefixOf (cs ++ rest) = call.name.toList.isPrefixOf cs :=
  Text.isPrefixOf_append_of_stopsAt (fun _ => isBareChar_of_mem_name) hrest.bare cs

/-- What follows a text is behind the call at its start. -/
theorem callAt?_append (cs : List Char) :
    callAt? (cs ++ rest) = (callAt? cs).map fun (call, behind) => (call, behind ++ rest) := by
  rw [callAt?, callAt?, List.map_findSome?]
  congr 1
  funext call
  rw [Function.comp_apply]
  dsimp only
  rw [isPrefixOf_name_append hrest]
  split_ifs with hname
  · obtain ⟨more, rfl⟩ := List.isPrefixOf_iff_prefix.1 hname
    rw [List.append_assoc, List.drop_left, List.drop_left]
    -- the bracket may be missing behind the name: then `rest` does not supply it
    cases hskip : skipBlanks more with
    | nil =>
      have hopen := hrest.opening
      rw [skipBlanks_append_of_eq_nil hskip]
      rw [nextSign] at hopen
      split
      · simp_all
      · rfl
    | cons c behind =>
      rw [skipBlanks_append hskip]
      by_cases hc : c = '('
      · rw [hc]
        rfl
      · split <;> split <;> simp_all
  · rfl

theorem boundAt?_append (cs : List Char) : boundAt? (cs ++ rest) = boundAt? cs := by
  rw [boundAt?, boundAt?]
  congr 1
  funext call
  dsimp only
  rw [isPrefixOf_name_append hrest]
  cases hname : call.name.toList.isPrefixOf cs with
  | false => rfl
  | true =>
    obtain ⟨more, rfl⟩ := List.isPrefixOf_iff_prefix.1 hname
    -- `rest` starts with nothing that continues a name
    have hhead : (more ++ rest).head?.any continuesName = more.head?.any continuesName := by
      have hstop : StopsAt continuesName rest := stopsAt_of_bare (fun _ => isBareChar_of_continuesName) hrest.bare
      cases more with
      | nil =>
        rcases rest with _ | ⟨c, rest⟩
        · rfl
        · simpa using hstop
      | cons c more => rfl
    rw [List.append_assoc, List.drop_left, List.drop_left, hhead]
    simp only [ne_eq, nextSign_append_eq_iff hrest.sign]

end

/-! ## Numbers -/

section

variable {rest : List Char} (hrest : StopsAt isBareChar rest)

include hrest

theorem ne_cons_of_stopsAt {c : Char} (hc : isBareChar c = true) (more : List Char) : rest ≠ c :: more := by
  rintro rfl
  rw [stopsAt_cons, hc] at hrest
  cases hrest

theorem takeSign_append (cs : List Char) :
    (Text.takeSign (cs ++ rest)).2 = (Text.takeSign cs).2 ++ rest ∧ signLength (cs ++ rest) = signLength cs := by
  have hsign : (Text.takeSign (cs ++ rest)).2 = (Text.takeSign cs).2 ++ rest := by
    cases cs with
    | nil =>
      rw [List.nil_append, Json.takeSign_of_ne (ne_cons_of_stopsAt hrest (by decide))
        (ne_cons_of_stopsAt hrest (by decide))]
      rfl
    | cons c cs =>
      unfold Text.takeSign
      split <;> simp_all
  refine ⟨hsign, ?_⟩
  rw [signLength, signLength, hsign, List.length_append, List.length_append, Nat.add_sub_add_right]

theorem takeWhile_isDecimalDigit_append (cs : List Char) :
    (cs ++ rest).takeWhile Text.isDecimalDigit = cs.takeWhile Text.isDecimalDigit :=
  Text.takeWhile_append_of_stopsAt cs (stopsAt_of_bare (fun _ => isBareChar_of_isDecimalDigit) hrest)

theorem fractionLength_append (cs : List Char) : fractionLength (cs ++ rest) = fractionLength cs := by
  cases cs with
  | nil => exact fractionLength_of_ne (ne_cons_of_stopsAt hrest (by decide))
  | cons c cs =>
    by_cases hc : c = '.'
    · rw [hc, List.cons_append, fractionLength, fractionLength, takeWhile_isDecimalDigit_append hrest]
    · rw [fractionLength_of_ne (by simp [hc]), fractionLength_of_ne (by simp [hc])]

theorem exponentLength_append (cs : List Char) : exponentLength (cs ++ rest) = exponentLength cs := by
  cases cs with
  | nil =>
    refine exponentLength_of_ne ?_
    simp only [List.forall_mem_cons]
    exact ⟨ne_cons_of_stopsAt hrest (by decide), ne_cons_of_stopsAt hrest (by decide), by simp⟩
  | cons e cs =>
    obtain ⟨hunsigned, hsign⟩ := takeSign_append hrest cs
    rw [List.cons_append, exponentLength, exponentLength, hunsigned, hsign, takeWhile_isDecimalDigit_append hrest]

theorem numberLength_append (cs : List Char) : numberLength (cs ++ rest) = numberLength cs := by
  have hwhole (cs : List Char) : (cs.takeWhile Text.isDecimalDigit).length ≤ cs.length :=
    (List.takeWhile_prefix _).length_le
  have hfraction (cs : List Char) : fractionLength cs ≤ cs.length := by
    unfold fractionLength
    split
    · rename_i more
      have hdigits := hwhole more
      rw [List.length_cons]
      omega
    · exact Nat.zero_le _
  simp only [numberLength_eq, takeSign_append hrest, takeWhile_isDecimalDigit_append hrest, fractionLength_append hrest,
    exponentLength_append hrest, List.drop_append_of_le_length (hwhole _), List.drop_append_of_le_length (hfraction _)]

/-! ## Arguments -/

/-- An argument that ends in front of a text is read with that text behind it as without it. -/
theorem readArgument_append_iff {cs : List Char} {c : Char} {argument : Argument} {n : ℕ} (hle : n ≤ (c :: cs).length) :
    readArgument (c :: (cs ++ rest)) = .ok (argument, n) ↔ readArgument (c :: cs) = .ok (argument, n) := by
  cases hquote : isQuote c with
  | true =>
    rw [readArgument_of_isQuote hquote, readArgument_of_isQuote hquote, map_eq_ok, map_eq_ok]
    refine exists_congr fun ⟨value, length⟩ => and_congr_left fun hpair => ?_
    obtain ⟨-, rfl⟩ := Prod.mk.inj hpair
    exact readString_append_iff hquote hle rest
  | false =>
    have hlength := numberLength_append hrest (c :: cs)
    rw [List.cons_append] at hlength
    rw [readArgument_of_not_isQuote hquote, readArgument_of_not_isQuote hquote, hlength]
    split_ifs
    · exact ⟨nofun, nofun⟩
    · simp only [Except.ok.injEq, Prod.mk.injEq]
      refine and_congr_left fun hn => ?_
      rw [hn, ← List.cons_append, List.take_append_of_le_length hle]

/-- An argument and the sign behind it are found in front of other text as they are without it. -/
theorem argument_append {cs more : List Char} {c sign : Char} {argument : Argument} {n : ℕ}
    (hread : readArgument (c :: cs) = .ok (argument, n)) (hsign : skipBlanks ((c :: cs).drop n) = sign :: more) :
    readArgument (c :: (cs ++ rest)) = .ok (argument, n) ∧
      skipBlanks ((c :: (cs ++ rest)).drop n) = sign :: (more ++ rest) := by
  -- something stands behind the argument, so the argument ends before `rest`
  have hle : n ≤ (c :: cs).length := by
    by_contra hlong
    rw [List.drop_eq_nil_of_le (by omega)] at hsign
    cases hsign
  refine ⟨(readArgument_append_iff hrest hle).2 hread, ?_⟩
  rw [← List.cons_append, List.drop_append_of_le_length hle]
  exact skipBlanks_append hsign rest

/-- The arguments of a call are read in front of other text as they are without it. -/
theorem Arguments.append {isFirst : Bool} {cs behind : List Char} {arguments : List Argument}
    (h : Arguments isFirst cs arguments behind) : Arguments isFirst (cs ++ rest) arguments (behind ++ rest) := by
  induction h with
  | none hclose => exact .none (skipBlanks_append hclose rest)
  | last hstart hsome hread hclose =>
    obtain ⟨hread', hclose'⟩ := argument_append hrest hread hclose
    exact .last (skipBlanks_append hstart rest) hsome hread' hclose'
  | next hstart hsome hread hcomma _ ih =>
    obtain ⟨hread', hcomma'⟩ := argument_append hrest hread hcomma
    exact .next (skipBlanks_append hstart rest) hsome hread' hcomma' ih

end

/-! ## Pieces -/

section

variable {zone : Zone} {text : List Char} {last : Option Char} {c : Char} {cs rest : List Char} {piece : Piece}
  (hrest : EndsPiece rest)

include hrest

/-- Where no call starts, a bare piece is the same in front of other text as it is without it. -/
theorem barePiece_append_iff {cs : List Char} (hcall : callAt? cs = none) :
    BarePiece zone last (cs ++ rest) piece ↔ BarePiece zone last cs piece := by
  have hcall' := callAt?_append hrest cs
  rw [hcall, Option.map_none] at hcall'
  have hbound := boundAt?_append hrest cs
  have hword := Text.takeWhile_append_of_stopsAt cs hrest.bare
  -- whether the word is a key is told by the sign behind it, which `rest` does not supply
  have hkey : StandsAsKey last ((cs ++ rest).drop (cs.takeWhile isBareChar).length) ↔
      StandsAsKey last (cs.drop (cs.takeWhile isBareChar).length) := by
    rw [List.drop_append_of_le_length (List.takeWhile_prefix _).length_le, StandsAsKey, StandsAsKey,
      nextSign_append_eq_iff hrest.sign]
  constructor
  · intro h
    exact h.congr hcall' hcall hbound.symm hword.symm (hword.symm ▸ hkey.symm)
  · intro h
    exact h.congr hcall hcall' hbound hword hkey

theorem readBare_append (h : readBare zone text last (c :: cs) = .ok piece) (text' : List Char) :
    readBare zone text' last (c :: (cs ++ rest)) = .ok piece ∧ piece.length - 1 ≤ cs.length := by
  rw [readBare_eq_ok] at h ⊢
  rw [← List.cons_append]
  refine ⟨?_, Nat.sub_le_of_le_add h.length_le⟩
  cases hcall : callAt? (c :: cs) with
  | some found =>
    obtain ⟨call, behind⟩ := found
    obtain ⟨arguments, after, written, hread, hexpand, rfl⟩ := h.exists_call hcall
    have hcall' := callAt?_append hrest (c :: cs)
    rw [hcall] at hcall'
    have hlength : (c :: cs ++ rest).length - (after ++ rest).length = (c :: cs).length - after.length := by
      simp only [List.length_append]
      omega
    exact hlength ▸ .call hcall' (hread.append hrest.bare) hexpand
  | none => exact (barePiece_append_iff hrest hcall).2 h

omit hrest in
theorem length_le_of_readRegex (h : readRegex cs = .ok piece) : piece.length - 1 ≤ cs.length := by
  obtain ⟨signs, more, rfl, -, -, hlength, -⟩ := exists_of_readRegex h
  have hflags : (more.takeWhile Text.isLetter).length ≤ more.length := (List.takeWhile_prefix _).length_le
  rw [hlength]
  simp only [List.length_append, List.length_cons]
  omega

/-- A regular expression that ends in front of a text is read with that text behind it as without it. -/
theorem readRegex_append_iff (hle : piece.length - 1 ≤ cs.length) :
    readRegex (cs ++ rest) = .ok piece ↔ readRegex cs = .ok piece := by
  have hflags (more : List Char) : (more ++ rest).takeWhile Text.isLetter = more.takeWhile Text.isLetter :=
    Text.takeWhile_append_of_stopsAt more (stopsAt_of_bare (fun _ => isBareChar_of_isLetter) hrest.bare)
  constructor
  · intro h
    obtain ⟨signs, more, happend, -, -, hlength, hlocal⟩ := exists_of_readRegex h
    obtain ⟨more', rfl⟩ := exists_of_append_eq happend (by omega)
    rw [List.append_assoc, List.cons_append, List.append_cancel_left_eq, List.cons.injEq] at happend
    obtain ⟨-, rfl⟩ := happend
    exact hlocal more' (hflags more').symm
  · intro h
    obtain ⟨signs, more, rfl, -, -, -, hlocal⟩ := exists_of_readRegex h
    rw [List.append_assoc, List.cons_append]
    exact hlocal _ (hflags more)

/-- A piece is read in front of other text as it is without it. -/
theorem readPiece_append (h : readPiece zone text last c cs = .ok piece) (text' : List Char) :
    readPiece zone text' last c (cs ++ rest) = .ok piece ∧ piece.length - 1 ≤ cs.length := by
  rw [readPiece] at h ⊢
  split_ifs at h ⊢ with hquote
  · obtain ⟨⟨chars, n⟩, hread, rfl⟩ := map_eq_ok.1 h
    have hle := length_le_of_readString hquote hread
    exact ⟨map_eq_ok.2 ⟨_, (readString_append_iff hquote hle rest).2 hread, rfl⟩, Nat.sub_le_of_le_add hle⟩
  · have hle := length_le_of_readRegex h
    exact ⟨(readRegex_append_iff hrest hle).2 h, hle⟩
  · cases h
    exact ⟨rfl, Nat.zero_le _⟩
  · exact readBare_append hrest h text'

/-- A text is expanded in front of other text as it is without it. -/
theorem expandFrom_append {written : List Char} (h : expandFrom zone text last cs = .ok written) (text' : List Char) :
    ∃ last', expandFrom zone text' last (cs ++ rest) = (expandFrom zone text' last' rest).map (written ++ ·) := by
  rw [expandFrom_eq_ok_iff] at h
  -- each piece is read the same with `rest` behind it
  induction h with
  | nil last =>
    refine ⟨last, ?_⟩
    rw [List.nil_append]
    cases expandFrom zone text' last rest <;> rfl
  | blank hblank _ ih =>
    obtain ⟨last', hlast'⟩ := ih
    refine ⟨last', ?_⟩
    rw [List.cons_append, expandFrom_blank hblank, hlast']
    cases expandFrom zone text' last' rest <;> rfl
  | piece hblank hpiece _ ih =>
    obtain ⟨hpiece', hle⟩ := readPiece_append hrest hpiece text'
    obtain ⟨last', hlast'⟩ := ih
    refine ⟨last', ?_⟩
    rw [List.cons_append, expandFrom_piece hblank hpiece', List.drop_append_of_le_length hle, hlast']
    cases expandFrom zone text' last' rest <;> simp [Except.map]

/-- What is read piece by piece is read so in front of other text. -/
theorem Passes.append {place place' : Option Char × List Char} (h : Passes zone text place place')
    (text' : List Char) : Passes zone text' (place.1, place.2 ++ rest) (place'.1, place'.2 ++ rest) := by
  induction h with
  | refl => exact .refl _
  | blank hblank _ ih => exact .blank hblank ih
  | @piece last c cs place' piece hblank hpiece _ ih =>
    obtain ⟨hpiece', hle⟩ := readPiece_append hrest hpiece text'
    rw [← List.drop_append_of_le_length hle] at ih
    exact .piece hblank hpiece' ih

/-- A number that is too long is met in front of other text as it is without it. -/
theorem isLong_expandFrom_append (h : IsLong (expandFrom zone text last cs)) (text' : List Char) :
    IsLong (expandFrom zone text' last (cs ++ rest)) := by
  obtain ⟨last', cs', hpasses, call, behind, arguments, after, raw, hcall, harguments, hraw, hoverlong⟩ :=
    (isLong_expandFrom zone text last cs).1 h
  refine (isLong_expandFrom zone text' last _).2 ⟨last', cs' ++ rest, hpasses.append hrest text', call, behind ++ rest,
    arguments, after ++ rest, raw, ?_, ?_, hraw, hoverlong⟩
  · rw [callAt?_append hrest, hcall]
    rfl
  · exact ((arguments_of_readArguments harguments).append hrest.bare).readArguments text' (Nat.lt_succ_self _)

end

/-! ## Pieces that are tokens -/

section

variable {zone : Zone} {text : List Char} {last : Option Char} {c : Char} {cs rest : List Char} {piece : Piece}
  {p n : ℕ} {token : Token}

/-- A piece that starts like a bare value is a bare word. -/
theorem length_of_startsBare (hstart : startsBare c = true) (h : readPiece zone text last c cs = .ok piece) :
    piece.length = ((c :: cs).takeWhile isBareChar).length := by
  rw [readPiece_of_startsBare last cs hstart, readBare_eq_ok] at h
  cases h with
  | call isCall =>
    rw [callAt?_eq_none _ hstart] at isCall
    cases isCall
  | bound _ isBound =>
    rw [boundAt?_eq_none _ hstart] at isBound
    cases isBound
  | key | word => rfl

/-- A word or a number of JSON is the whole of the piece that starts with its first sign. -/
theorem length_of_readPiece_literal (hpiece : readPiece zone text last c cs = .ok piece)
    (hrest : StopsAt isBareChar rest) (hsign : isSign c = false)
    (hread : readToken .strict p (c :: (cs ++ rest)) = (token, n)) (hlast : token.isLast = false)
    (hends : EndsValue ((cs ++ rest).drop (n - 1))) :
    piece.length - 1 = n - 1 ∧ n - 1 ≤ cs.length ∧ readToken .strict p (c :: cs) = (token, n) := by
  obtain ⟨hfirst, data, rfl⟩ := Json.literal_of_readToken hsign hread hlast
  have hstart : startsBare c = true := by simpa [startsBare] using hfirst
  have hstop : StopsAt isBareSign ((cs ++ rest).drop (n - 1)) :=
    stopsAt_of_bare (fun _ => isBareChar_of_isBareSign) hends.bare
  obtain ⟨hsplit, hlength, -⟩ := Json.readToken_append hsign hread rfl hstop
  -- the word that the piece is read from is the run of the token
  have hc : isBareSign c = true := Json.isBareSign_of_readToken hsign hread rfl
  have hrun : ∀ d ∈ c :: bareRun (cs ++ rest), isBareChar d = true := by
    intro d hd
    rw [← Json.bareRun_cons hc] at hd
    exact isBareChar_of_isBareSign (List.mem_takeWhile_imp hd)
  have hword : (c :: cs).takeWhile isBareChar = c :: bareRun (cs ++ rest) := by
    rw [← Text.takeWhile_append_of_stopsAt (c :: cs) hrest, List.cons_append]
    conv_lhs => rw [hsplit]
    exact Text.takeWhile_run hrun hends.bare
  have hpieceLength := length_of_startsBare hstart hpiece
  have hle : ((c :: cs).takeWhile isBareChar).length ≤ (c :: cs).length := (List.takeWhile_prefix _).length_le
  rw [hword, List.length_cons, ← hlength] at hpieceLength hle
  rw [List.length_cons] at hle
  refine ⟨by omega, by omega, ?_⟩
  rw [← hread]
  exact Json.readToken_congr p p hc
    (Json.bareRun_append_of_stopsAt cs (stopsAt_of_bare (fun _ => isBareChar_of_isBareSign) hrest)).symm

/-- Both readers take a string up to the same closing quote. -/
theorem length_of_readPiece_string {raw chars more : List Char} (hpiece : readPiece zone text last '"' cs = .ok piece)
    (hraw : Json.Literal raw chars) (hcs : cs ++ rest = raw ++ '"' :: more) :
    piece.length = raw.length + 2 ∧ ∃ more', cs = raw ++ '"' :: more' := by
  rw [readPiece, if_pos (by simp)] at hpiece
  obtain ⟨⟨value, n⟩, hvalue, hmap⟩ := map_eq_ok.1 hpiece
  cases hmap
  obtain ⟨-, signs, more', rfl, rfl, -, hlocal⟩ := exists_of_readString rfl hvalue
  have hwhole := hlocal (more' ++ rest)
  rw [List.append_assoc, List.cons_append] at hcs
  rw [hcs, readString_literal hraw, Except.ok.injEq, Prod.mk.injEq] at hwhole
  -- both readers stop at the same quote, so what stands behind it is the same
  obtain ⟨rfl, -⟩ := List.append_inj hcs (by omega)
  exact ⟨rfl, more', rfl⟩

/-- Where a token of JSON starts a text, the piece that starts the text without what follows is as long. -/
theorem length_of_readPiece (hpiece : readPiece zone text last c cs = .ok piece) (hrest : StopsAt isBareChar rest)
    (hread : readToken .strict p (c :: (cs ++ rest)) = (token, n)) (hlast : token.isLast = false)
    (hends : ∀ data, token = .literal data → EndsValue ((cs ++ rest).drop (n - 1))) :
    piece.length - 1 = n - 1 ∧ n - 1 ≤ cs.length ∧ readToken .strict p (c :: cs) = (token, n) := by
  cases Json.tokenText_of_readToken hread hlast with
  | literal hsign => exact length_of_readPiece_literal hpiece hrest hsign hread hlast (hends _ rfl)
  | sign hc hany =>
    have hlength : readPiece zone text last c cs = .ok ⟨[c], c, 1⟩ := by
      simp only [List.mem_cons, List.not_mem_nil, or_false] at hc
      rcases hc with rfl | rfl | rfl | rfl | rfl | rfl <;> simp [readPiece, isStructural]
    rw [hlength] at hpiece
    cases hpiece
    exact ⟨rfl, Nat.zero_le _, hany p cs⟩
  | string hc hcs hraw =>
    subst hc
    obtain ⟨hlength, more, rfl⟩ := length_of_readPiece_string hpiece hraw hcs
    exact ⟨by rw [hlength], by simp, Json.readToken_string hraw p more⟩

end

/--
Where JSON can be read from a text that is expanded and what follows it, the text has the tokens of its
expansion.
-/
theorem tells_of_reads_append {zone : Zone} {text cs rest written : List Char} {last : Option Char}
    (hexpand : expandFrom zone text last cs = .ok written) (hrest : StopsAt isBareChar rest) {state : Json.State}
    {data : Json} {p : ℕ} (h : Reads state ((tokens .strict p (cs ++ rest)).map (·.2)) data) :
    (∀ entry ∈ tokens .strict p cs, entry.2.isLast = false) ∧
      ∀ last', Tells zone text last' cs ((tokens .strict p cs).map (·.2)) := by
  rw [expandFrom_eq_ok_iff] at hexpand
  induction hexpand generalizing state p with
  | nil =>
    rw [tokens]
    exact ⟨by simp, fun last' => tells_nil last'⟩
  | @blank _ c cs _ hblank _ ih =>
    rw [List.cons_append] at h
    -- a blank that the machine reads is one of the four it skips
    have hspace : Json.isSpace c = true := by
      by_contra hspace
      obtain ⟨next, hmove, -⟩ := (Json.reads_tokens_cons (Bool.eq_false_of_not_eq_true hspace)).1 h
      exact hspace (Json.isSpace_of_readToken hblank hmove.isLast_eq_false)
    rw [tokens, if_pos hspace] at h ⊢
    obtain ⟨hlast, htells⟩ := ih h
    exact ⟨hlast, fun last' => (htells last').space hspace⟩
  | @piece _ c cs _ piece hblank hpiece _ ih =>
    have hspace : Json.isSpace c = false := by
      by_contra hspace
      rw [Json.isBlank_of_isSpace (Bool.eq_true_of_not_eq_false hspace)] at hblank
      cases hblank
    rw [List.cons_append, Json.reads_tokens_cons hspace] at h
    rcases hread : readToken .strict p (c :: (cs ++ rest)) with ⟨token, n⟩
    rw [hread] at h
    obtain ⟨next, hmove, hreads⟩ := h
    -- after a literal the machine is behind a value, where a comma or a closing sign follows
    have hends : ∀ data, token = .literal data → EndsValue ((cs ++ rest).drop (n - 1)) := by
      rintro data rfl
      obtain ⟨stack, value, rfl⟩ := hmove.exists_after
      exact endsValue_of_reads hreads
    obtain ⟨hlength, hle, hread'⟩ := length_of_readPiece hpiece hrest hread hmove.isLast_eq_false hends
    rw [List.drop_append_of_le_length hle] at hreads hends
    rw [← hlength] at hreads
    obtain ⟨hlast, htells⟩ := ih hreads
    rw [hlength] at hlast htells
    have htokens : tokens .strict p (c :: cs) = (p, token) :: tokens .strict (p + n) (cs.drop (n - 1)) := by
      rw [tokens, if_neg (by simp [hspace]), hread']
      exact if_neg (by simp [hmove.isLast_eq_false])
    rw [htokens]
    exact ⟨List.forall_mem_cons.2 ⟨hmove.isLast_eq_false, hlast⟩, fun last' =>
      .token last' hspace hread' hmove.isLast_eq_false (fun data hdata => (hends data hdata).of_append) htells⟩

/-! ## Signs of structure alone -/

/-- The signs of structure. -/
def structureSigns : List Char := ['\x7b', '\x7d', '[', ']', ':', ',']

/-- A sign of structure is expanded to itself, whatever was written in front of it. -/
theorem expandFrom_sign {zone : Zone} {text : List Char} {c : Char} (hc : c ∈ structureSigns) (last : Option Char)
    (cs : List Char) :
    expandFrom zone text last (c :: cs) = (expandFrom zone text (some c) cs).map (c :: ·) := by
  have hexpand : expandFrom zone text last ([c] ++ cs) = _ := (kept_sign last cs hc).expandFrom_append
  exact hexpand

/-- Signs of structure are expanded to themselves, whatever white space stands between them. -/
theorem expandFrom_signs {zone : Zone} {text cs : List Char} (h : ∀ c ∈ Text.squeeze cs, c ∈ structureSigns)
    (last : Option Char) : expandFrom zone text last cs = .ok cs := by
  induction cs generalizing last with
  | nil => rw [expandFrom]
  | cons c cs ih =>
    by_cases hblank : Text.isBlank c = true
    · rw [Text.squeeze, List.filter_cons_of_neg (by simp [hblank])] at h
      rw [expandFrom_blank hblank, ih h]
      rfl
    · rw [Text.squeeze, List.filter_cons_of_pos (by simp [hblank]), List.forall_mem_cons] at h
      rw [expandFrom_sign h.1, ih h.2]
      rfl

/-- Where nothing but signs of structure is visible, they are the tokens. -/
theorem tokens_of_signs {p : ℕ} {cs : List Char} (hlast : ∀ entry ∈ tokens .strict p cs, entry.2.isLast = false)
    (h : ∀ c ∈ Text.squeeze cs, c ∈ structureSigns) :
    (tokens .strict p cs).map (·.2) = (Text.squeeze cs).map fun c => (readToken .strict 0 [c]).1 := by
  fun_induction tokens .strict p cs with
  | case1 => rfl
  | case2 p c cs hspace ih =>
    rw [Text.squeeze, List.filter_cons_of_neg (by simp [Json.isBlank_of_isSpace hspace])] at h ⊢
    exact ih hlast h
  | case3 p c cs hspace token n hread hlast' =>
    rw [List.forall_mem_singleton] at hlast
    rw [hlast] at hlast'
    cases hlast'
  | case4 p c cs hspace token n hread hlast' ih =>
    rw [List.forall_mem_cons] at hlast
    -- a blank that is not skipped would end the tokens
    have hblank : Text.isBlank c = false := by
      by_contra hblank
      have hlast : (readToken .strict p (c :: cs)).1.isLast = false := by
        rw [hread]
        exact hlast.1
      exact hspace (Json.isSpace_of_readToken (Bool.eq_true_of_not_eq_false hblank) hlast)
    rw [Text.squeeze, List.filter_cons_of_pos (by simp [hblank]), List.forall_mem_cons] at h
    obtain ⟨token', -, hany⟩ := Json.exists_readToken_sign h.1
    rw [hany, Prod.mk.injEq] at hread
    obtain ⟨rfl, rfl⟩ := hread
    rw [Text.squeeze, List.filter_cons_of_pos (by simp [hblank]), List.map_cons, List.map_cons, hany]
    exact congrArg _ (ih hlast.2 h.2)

end DocBrowser.Shorthand

namespace DocBrowser.Query

open Json (Reads tokens)
open Shorthand (expand expandFrom isBareChar structureSigns)
open Text (StopsAt)

/-- Blank text shows no more than an empty pair of braces. -/
theorem mem_structureSigns_of_isBlank {text : List Char} (h : isBlank text = true) :
    ∀ c ∈ Text.squeeze text, c ∈ structureSigns := by
  simp only [isBlank, Bool.or_eq_true, decide_eq_true_eq] at h
  rcases h with h | h <;> rw [h] <;> simp [structureSigns]

/-- Text that shows anything but a sign of structure is not blank. -/
theorem isBlank_eq_false_of_mem {text : List Char} {c : Char} (hc : c ∈ text) (hblank : Text.isBlank c = false)
    (hsign : c ∉ structureSigns) : isBlank text = false := by
  by_contra h
  refine hsign (mem_structureSigns_of_isBlank (Bool.eq_true_of_not_eq_false h) c ?_)
  simp [Text.squeeze, hc, hblank]

/-- Text that compiles can be expanded. -/
theorem exists_expand_of_compile {zone : Zone} {text : List Char} {doc : Document}
    (h : compile zone (String.ofList text) = .ok doc) : ∃ written, expand zone text = .ok written := by
  rcases compile_eq_ok h with ⟨hblank, -⟩ | ⟨expanded, -, hexpand, -⟩
  · rw [String.toList_ofList] at hblank
    exact ⟨text, Shorthand.expandFrom_signs (mem_structureSigns_of_isBlank hblank) none⟩
  · rw [String.toList_ofList] at hexpand
    exact ⟨expanded, hexpand⟩

/--
Where JSON can be read from the text of a document and what follows it, the text is JSON itself, and its data
stands for the document.
-/
theorem parse_of_reads_append {zone : Zone} {text rest : List Char} {doc : Document}
    (hopen : text.head? = some '\x7b') (hcompile : compile zone (String.ofList text) = .ok doc)
    (hrest : StopsAt isBareChar rest) {state : Json.State} {data : Json} {p : ℕ}
    (h : Reads state ((tokens .strict p (text ++ rest)).map (·.2)) data) :
    ∃ fields, Json.parse text = .ok (.obj fields) ∧
      ExtendedJson.decode zone (.obj fields) = .ok (.document doc) := by
  obtain ⟨written, hwritten⟩ := exists_expand_of_compile hcompile
  obtain ⟨hlast, htells⟩ := Shorthand.tells_of_reads_append hwritten hrest h
  have hparse {data : Json} (hreads : Reads (.value []) ((tokens .strict p text).map (·.2)) data) :
      Json.parse text = .ok data := by
    obtain ⟨q, hq⟩ := Json.tokens_append hlast (Text.stopsAt_nil _) 0
    rw [List.append_nil, tokens, List.map_nil, List.append_nil] at hq
    exact Json.parse_eq_ok.2 ⟨by simp [hopen], hq ▸ hreads⟩
  rcases compile_eq_ok hcompile with ⟨hblank, rfl⟩ | ⟨expanded, fields, hexpand, hparsed, hdecode⟩
  · rw [String.toList_ofList] at hblank
    have htokens := Shorthand.tokens_of_signs hlast (mem_structureSigns_of_isBlank hblank)
    -- the brace in front is visible, so there is the other one as well
    have hsqueeze : Text.squeeze text = ['\x7b', '\x7d'] := by
      obtain ⟨body, rfl⟩ := List.head?_eq_some_iff.1 hopen
      simp only [isBlank, Bool.or_eq_true, decide_eq_true_eq] at hblank
      refine hblank.resolve_left ?_
      rw [Text.squeeze, List.filter_cons_of_pos (by decide)]
      exact List.cons_ne_nil _ _
    rw [hsqueeze] at htokens
    refine ⟨[], hparse ?_, rfl⟩
    rw [htokens]
    exact .step (.openBrace (.value [])) (.step (.emptyObject []) (.done _))
  · rw [String.toList_ofList] at hexpand
    obtain ⟨written', hwritten', -, htokens⟩ := htells none
    cases hexpand.symm.trans hwritten'
    refine ⟨fields, hparse ?_, hdecode⟩
    rw [← htokens 0]
    exact (Json.parse_eq_ok.1 hparsed).2

/-- The text of an object compiles to the document that the object stands for. -/
theorem compile_of_parse {zone : Zone} {text : List Char} {fields : List (String × Json)} {doc : Document}
    (hblank : isBlank text = false) (hparse : Json.parse text = .ok (.obj fields))
    (hdecode : ExtendedJson.decode zone (.obj fields) = .ok (.document doc)) :
    compile zone (String.ofList text) = .ok doc := by
  obtain ⟨hmark, hreads⟩ := Json.parse_eq_ok.1 hparse
  obtain ⟨written, hexpand, hhead, htokens⟩ := Shorthand.tells_of_reads none hreads
  have hwritten : Json.parse written = .ok (.obj fields) :=
    Json.parse_eq_ok.2 ⟨hhead ▸ hmark, htokens 0 ▸ hreads⟩
  exact compile_of_expand hblank hexpand hwritten hdecode

end DocBrowser.Query
