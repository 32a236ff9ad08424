import Mathlib
import DocBrowser.Proofs.Query.Shorthand
import DocBrowser.Proofs.Text.Integers
import DocBrowser.Proofs.Text.Words
/-!
# The literals of query text

White space in query text matters in two places only: between the quotes of a string, and between the slashes
of a regular expression. These literals are found by reading the text from left to right with one bit of
memory, which tells whether a value may start. Where their white space is collapsed already, collapsing the
text leaves them as they are.
-/

namespace DocBrowser.Shorthand

open Text (StopsAt stopsAt_cons collapseBehind Stays EndsVisible)

/-- The literals of the rest of a text, where `value` tells whether a value may start at once. -/
def literalsFrom (value : Bool) : List Char → List (List Char)
  | [] => []
  | c :: rest =>
    if Text.isBlank c then literalsFrom value rest
    else if c = '"' || c = '\'' then
      match scanString c rest with
      | some (_, length) => (c :: rest.take length) :: literalsFrom false (rest.drop length)
      | none => []
    else if c = '/' && value then
      match patternLength false rest with
      | (length, true) => (c :: rest.take (length + 1)) :: literalsFrom false (rest.drop (length + 1))
      | (_, false) => []
    else literalsFrom (opensValue (some c)) rest
termination_by cs => cs.length
decreasing_by all_goals simp only [List.length_drop, List.length_cons]; omega

/-- The strings of a text with their quotes, and its regular expressions with their slashes. -/
def literals (text : List Char) : List (List Char) := literalsFrom false text

/-- Whether collapsing leaves the literals of the rest of a text as they are. -/
def Quiet (value : Bool) (cs : List Char) : Prop := ∀ literal ∈ literalsFrom value cs, Text.collapse literal = literal

/-! ## Where literals end -/

/-- What opens a string. -/
def isQuote (c : Char) : Bool := c = '"' || c = '\''

theorem ne_backslash_of_isQuote {quote : Char} (h : isQuote quote = true) : quote ≠ '\\' := by
  rintro rfl
  cases h

theorem isBlank_of_isQuote {quote : Char} (h : isQuote quote = true) : Text.isBlank quote = false := by
  simp only [isQuote, Bool.or_eq_true, decide_eq_true_eq] at h
  rcases h with rfl | rfl <;> decide

/-- A string is told by its signs up to the closing quote. -/
theorem exists_of_scanString {quote : Char} {cs raw : List Char} {n : ℕ} (hquote : isQuote quote = true)
    (h : scanString quote cs = some (raw, n)) :
    ∃ signs more, cs = signs ++ quote :: more ∧ n = signs.length + 1 ∧
      ∀ more', scanString quote (signs ++ quote :: more') = some (raw, n) := by
  have hbackslash := ne_backslash_of_isQuote hquote
  induction cs using scanString.induct quote generalizing raw n with
  | case1 => cases h
  | case2 c rest ih =>
    rw [scanString] at h
    obtain ⟨⟨raw, n⟩, hscan, hpair⟩ := Option.map_eq_some_iff.1 h
    cases hpair
    obtain ⟨signs, more, rfl, rfl, hlocal⟩ := ih hscan
    refine ⟨'\\' :: c :: signs, more, rfl, rfl, fun more' => ?_⟩
    rw [List.cons_append, List.cons_append, scanString, hlocal]
    rfl
  | case3 rest =>
    rw [scanString_of_ne hbackslash, if_pos rfl] at h
    cases h
    refine ⟨[], rest, rfl, rfl, fun more' => ?_⟩
    rw [List.nil_append, scanString_of_ne hbackslash, if_pos rfl]
  | case4 c rest hescape hne ih =>
    rw [scanString.eq_3 _ _ _ hescape, if_neg hne] at h
    obtain ⟨⟨raw, n⟩, hscan, hpair⟩ := Option.map_eq_some_iff.1 h
    cases hpair
    obtain ⟨signs, more, rfl, rfl, hlocal⟩ := ih hscan
    -- a backslash in front of anything would be an escape
    have hc : c ≠ '\\' := by
      obtain ⟨first, others, hcons⟩ := List.exists_cons_of_ne_nil (show signs ++ quote :: more ≠ [] by simp)
      exact fun hc => hescape first others hc hcons
    refine ⟨c :: signs, more, rfl, rfl, fun more' => ?_⟩
    rw [List.cons_append, scanString_of_ne hc, if_neg hne, hlocal]
    rfl

/-- What a string stands for is told by its signs up to the closing quote. -/
theorem exists_of_readString {quote : Char} {cs value : List Char} {n : ℕ} (hquote : isQuote quote = true)
    (h : readString quote cs = .ok (value, n)) :
    ∃ raw signs more, cs = signs ++ quote :: more ∧ n = signs.length + 2 ∧
      (∀ more', scanString quote (signs ++ quote :: more') = some (raw, signs.length + 1)) ∧
      ∀ more', readString quote (signs ++ quote :: more') = .ok (value, n) := by
  rw [readString_eq] at h
  split at h
  · cases h
  · rename_i raw length hscan
    obtain ⟨signs, more, rfl, rfl, hlocal⟩ := exists_of_scanString hquote hscan
    split at h <;> cases h
    rename_i hread
    refine ⟨raw, signs, more, rfl, rfl, hlocal, fun more' => ?_⟩
    rw [readString_eq, hlocal]
    simp only [hread]

theorem length_le_of_readString {quote : Char} {cs value : List Char} {n : ℕ} (hquote : isQuote quote = true)
    (h : readString quote cs = .ok (value, n)) : n ≤ cs.length + 1 := by
  obtain ⟨-, signs, more, rfl, rfl, -, -⟩ := exists_of_readString hquote h
  simp only [List.length_append, List.length_cons]
  omega

/-- Signs up to one that stands in front of a text are signs without that text. -/
theorem exists_of_append_eq {cs rest signs more : List Char} {sign : Char} (h : cs ++ rest = signs ++ sign :: more)
    (hle : signs.length + 1 ≤ cs.length) : ∃ more', cs = signs ++ sign :: more' := by
  have hprefix : signs ++ [sign] <+: cs ++ rest := ⟨more, by simp [h]⟩
  obtain ⟨more', hcs⟩ := List.prefix_of_prefix_length_le hprefix (List.prefix_append cs rest) (by simpa using hle)
  exact ⟨more', by simp [← hcs]⟩

/-- A string that ends in front of a text is read with that text behind it as without it. -/
theorem readString_append_iff {quote : Char} {cs value : List Char} {n : ℕ} (hquote : isQuote quote = true)
    (hle : n ≤ cs.length + 1) (rest : List Char) :
    readString quote (cs ++ rest) = .ok (value, n) ↔ readString quote cs = .ok (value, n) := by
  constructor
  · intro h
    obtain ⟨-, signs, more, happend, rfl, -, hlocal⟩ := exists_of_readString hquote h
    obtain ⟨more', rfl⟩ := exists_of_append_eq happend (by omega)
    exact hlocal more'
  · intro h
    obtain ⟨-, signs, more, rfl, rfl, -, hlocal⟩ := exists_of_readString hquote h
    rw [List.append_assoc, List.cons_append]
    exact hlocal _

theorem patternLength_of_ne {inClass : Bool} {c : Char} (hc : c ≠ '\\') (rest : List Char) :
    patternLength inClass (c :: rest) =
      if c = '\n' then (0, false)
      else if c = '/' ∧ !inClass then (0, true)
      else
        let inClass := if c = '[' then true else if c = ']' then false else inClass
        ((patternLength inClass rest).1 + 1, (patternLength inClass rest).2) := by
  rw [patternLength]
  rintro _ _ rfl
  exact absurd rfl hc

/-- A regular expression is told by its signs up to the closing slash. -/
theorem exists_of_patternLength {inClass : Bool} {cs : List Char} {n : ℕ} (h : patternLength inClass cs = (n, true)) :
    ∃ signs more, cs = signs ++ '/' :: more ∧ n = signs.length ∧
      ∀ more', patternLength inClass (signs ++ '/' :: more') = (n, true) := by
  induction inClass, cs using patternLength.induct generalizing n with
  | case1 => cases h
  -- an escape takes the next character with it, be it a slash
  | case2 inClass c rest length closed hpattern ih =>
    rw [patternLength, hpattern] at h
    cases h
    obtain ⟨signs, more, rfl, rfl, hlocal⟩ := ih hpattern
    refine ⟨'\\' :: c :: signs, more, rfl, rfl, fun more' => ?_⟩
    rw [List.cons_append, List.cons_append, patternLength, hlocal]
  | case3 inClass rest =>
    rw [patternLength_of_ne (by decide), if_pos rfl] at h
    cases h
  -- the slash that closes the pattern
  | case4 inClass c rest hescape hline hslash =>
    obtain ⟨rfl, hclass⟩ := hslash
    rw [patternLength_of_ne (by decide), if_neg (by decide), if_pos ⟨rfl, hclass⟩] at h
    cases h
    refine ⟨[], rest, rfl, rfl, fun more' => ?_⟩
    rw [List.nil_append, patternLength_of_ne (by decide), if_neg (by decide), if_pos ⟨rfl, hclass⟩]
  | case5 inClass c rest hescape hline hslash inClass' length closed hpattern =>
    rename_i ih
    rw [patternLength.eq_3 _ _ _ hescape, if_neg hline, if_neg hslash] at h
    dsimp only at h
    rw [hpattern] at h
    cases h
    obtain ⟨signs, more, rfl, rfl, hlocal⟩ := ih hpattern
    -- a backslash with a character behind it would have been an escape
    have hc : c ≠ '\\' := by
      obtain ⟨first, others, hcons⟩ := List.exists_cons_of_ne_nil (show signs ++ '/' :: more ≠ [] by simp)
      exact fun hc => hescape first others hc hcons
    refine ⟨c :: signs, more, rfl, rfl, fun more' => ?_⟩
    rw [List.cons_append, patternLength_of_ne hc, if_neg hline, if_neg hslash]
    dsimp only
    rw [hlocal]

/-! ## Signs that open nothing -/

theorem isBlank_of_isBareChar {c : Char} (h : isBareChar c = true) : Text.isBlank c = false :=
  Text.isBlank_of_class (by decide +kernel) h

/-- What may stand in a bare word opens no literal, and no value starts behind it. -/
theorem opens_nothing_of_isBareChar {c : Char} (h : isBareChar c = true) :
    isQuote c = false ∧ c ≠ '/' ∧ opensValue (some c) = false := by
  have hnot : ∀ d ∈ ['"', '\'', '/', ':', '[', ','], isBareChar d = false := by simp [isBareChar, Text.isWordChar]
  have hne : ∀ d ∈ ['"', '\'', '/', ':', '[', ','], c ≠ d := by
    rintro d hd rfl
    rw [hnot c hd] at h
    cases h
  simp only [List.forall_mem_cons] at hne
  simp [isQuote, opensValue, hne]

/-! ## Quiet texts -/

section

variable {value : Bool} {c : Char} {rest : List Char}

theorem quiet_cons_of_blank (hc : Text.isBlank c = true) : Quiet value (c :: rest) ↔ Quiet value rest := by
  rw [Quiet, literalsFrom, if_pos hc, Quiet]

theorem Quiet.skipBlanks {cs : List Char} (h : Quiet value cs) : Quiet value (skipBlanks cs) := by
  induction cs with
  | nil => exact h
  | cons c cs ih =>
    rw [Shorthand.skipBlanks]
    cases hc : Text.isBlank c with
    | true =>
      rw [List.dropWhile_cons_of_pos hc]
      exact ih ((quiet_cons_of_blank hc).1 h)
    | false =>
      rw [List.dropWhile_cons_of_neg (by simp [hc])]
      exact h

/-- Behind a sign that opens no literal the text is quiet still. -/
theorem Quiet.cons (h : Quiet value (c :: rest)) (hblank : Text.isBlank c = false) (hquote : isQuote c = false)
    (hslash : (c = '/' && value) = false) : Quiet (opensValue (some c)) rest := by
  rw [isQuote] at hquote
  rwa [Quiet, literalsFrom, if_neg (by simp [hblank]), if_neg (by simp [hquote]), if_neg (by simp [hslash])] at h

theorem Quiet.bare_cons (h : Quiet value (c :: rest)) (hc : isBareChar c = true) : Quiet false rest := by
  obtain ⟨hquote, hslash, hvalue⟩ := opens_nothing_of_isBareChar hc
  rw [← hvalue]
  exact h.cons (isBlank_of_isBareChar hc) hquote (by simp [hslash])

/-- Behind a bare word no value starts. -/
theorem Quiet.bare {word : List Char} (hne : word ≠ []) (hword : ∀ c ∈ word, isBareChar c = true)
    (h : Quiet value (word ++ rest)) : Quiet false rest := by
  induction word generalizing value with
  | nil => exact absurd rfl hne
  | cons c word ih =>
    have htail := h.bare_cons (hword c List.mem_cons_self)
    by_cases hnil : word = []
    · rwa [hnil] at htail
    · exact ih hnil (fun d hd => hword d (List.mem_cons_of_mem _ hd)) htail

/-- A literal whose white space is collapsed stays. -/
theorem collapseBehind_literal {final : Char} {signs : List Char} (hc : Text.isBlank c = false)
    (hfinal : Text.isBlank final = false)
    (h : Text.collapse (c :: (signs ++ [final])) = c :: (signs ++ [final])) (more : List Char) :
    collapseBehind (signs ++ final :: more) = signs ++ final :: collapseBehind more := by
  have hend : EndsVisible (c :: (signs ++ [final])) := by
    rw [← List.cons_append]
    intro d hd
    rw [List.getLast?_concat, Option.mem_some_iff] at hd
    exact hd ▸ hfinal
  have hstays := Text.stays_of_collapse hc hend h more
  rw [List.cons_append, Text.collapseBehind_cons_of_visible hc, List.cons_append, List.cons.injEq] at hstays
  simpa using hstays.2

/-- The string in front of a quiet text stays, and the text behind it is quiet. -/
theorem Quiet.string {signs more raw : List Char} (hquote : isQuote c = true)
    (hscan : scanString c (signs ++ c :: more) = some (raw, signs.length + 1))
    (h : Quiet value (c :: (signs ++ c :: more))) :
    collapseBehind (signs ++ c :: more) = signs ++ c :: collapseBehind more ∧ Quiet false more := by
  have hblank := isBlank_of_isQuote hquote
  have hsplit : signs ++ c :: more = (signs ++ [c]) ++ more := by simp
  have hlength : signs.length + 1 = (signs ++ [c]).length := by simp
  have hquote' := hquote
  rw [isQuote] at hquote'
  rw [Quiet, literalsFrom, if_neg (by simp [hblank]), if_pos hquote', hscan] at h
  dsimp only at h
  rw [hsplit, hlength, List.take_left, List.drop_left] at h
  obtain ⟨hliteral, hmore⟩ := List.forall_mem_cons.1 h
  exact ⟨collapseBehind_literal hblank hblank hliteral more, hmore⟩

/-- The regular expression in front of a quiet text stays, and the text behind it is quiet. -/
theorem Quiet.pattern {signs more : List Char}
    (hpattern : patternLength false (signs ++ '/' :: more) = (signs.length, true))
    (h : Quiet true ('/' :: (signs ++ '/' :: more))) :
    collapseBehind (signs ++ '/' :: more) = signs ++ '/' :: collapseBehind more ∧ Quiet false more := by
  have hsplit : signs ++ '/' :: more = (signs ++ ['/']) ++ more := by simp
  have hlength : signs.length + 1 = (signs ++ ['/']).length := by simp
  rw [Quiet, literalsFrom, if_neg (by decide), if_neg (by decide), if_pos (by decide), hpattern] at h
  dsimp only at h
  rw [hsplit, hlength, List.take_left, List.drop_left] at h
  obtain ⟨hliteral, hmore⟩ := List.forall_mem_cons.1 h
  exact ⟨collapseBehind_literal (by decide) (by decide) hliteral more, hmore⟩

end

end DocBrowser.Shorthand
