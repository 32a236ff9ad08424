import Mathlib
import DocBrowser.Proofs.Json.ReadsFrom
import DocBrowser.Proofs.Navigator.Structure
/-!
# Tidied text

Tidying changes nothing of a text but the white space outside of its strings, be it JSON or not. A text is
cut into chunks here: its strings, its other visible characters and the white space between them. Tidied
text has the visible chunks of the text itself, no white space among them but single spaces, and nothing
left to tidy; where JSON is read from the text, the same data is read from what it is tidied to.
-/

namespace DocBrowser

namespace Selection

open Json (ReadAlike isSpace isSign isBareSign readAlike_nil fronts_sign)
open Text (isBlank StopsAt stopsAt_cons)

/-! ## Chunks of a text -/

/-- The rest of a string up to its closing quote, or to the end of the text, and what follows it. -/
def closeString : List Char → List Char × List Char
  | [] => ([], [])
  | '"' :: rest => (['"'], rest)
  | '\\' :: c :: rest => ('\\' :: c :: (closeString rest).1, (closeString rest).2)
  | c :: rest => (c :: (closeString rest).1, (closeString rest).2)

/-- What a text is made of. -/
inductive Chunk where
  /-- A string with its quotes; the closing one is missing where the text ends within the string. -/
  | literal (signs : List Char)
  /-- A visible character outside of strings. -/
  | visible (c : Char)
  /-- White space outside of strings. -/
  | blank (c : Char)
  deriving DecidableEq

/-- The characters of a chunk. -/
def Chunk.signs : Chunk → List Char
  | .literal signs => signs
  | .visible c | .blank c => [c]

/-- Whether a chunk is white space. -/
def Chunk.isBlank : Chunk → Bool
  | .blank _ => true
  | _ => false

theorem closeString_append (text : List Char) : (closeString text).1 ++ (closeString text).2 = text := by
  fun_induction closeString text with
  | case1 | case2 => rfl
  | case3 c rest ih | case4 c rest _ _ ih => simp [ih]

/-- The chunks of a text from left to right. -/
def chunks : List Char → List Chunk
  | [] => []
  | c :: rest =>
    if c = '"' then .literal (c :: (closeString rest).1) :: chunks (closeString rest).2
    else if isBlank c then .blank c :: chunks rest
    else .visible c :: chunks rest
termination_by text => text.length
decreasing_by
  · have hlength := congrArg List.length (closeString_append rest)
    rw [List.length_append] at hlength
    simp only [List.length_cons]
    omega
  · simp
  · simp

/-- The visible chunks of a text, its strings whole. -/
def visibleChunks (text : List Char) : List Chunk := (chunks text).filter (!·.isBlank)

/-- White space is nothing but spaces, no two of them side by side. -/
structure SinglySpaced (cs : List Chunk) : Prop where
  space : ∀ c, .blank c ∈ cs → c = ' '
  apart : cs.IsChain fun chunk next => chunk.isBlank = false ∨ next.isBlank = false

@[simp] theorem chunks_nil : chunks [] = [] := by
  rw [chunks]

theorem chunks_quote (rest : List Char) :
    chunks ('"' :: rest) = .literal ('"' :: (closeString rest).1) :: chunks (closeString rest).2 := by
  rw [chunks, if_pos rfl]

theorem chunks_blank {c : Char} (hc : isBlank c = true) (rest : List Char) :
    chunks (c :: rest) = .blank c :: chunks rest := by
  have hquote : c ≠ '"' := by
    rintro rfl
    exact absurd hc (by decide)
  rw [chunks, if_neg hquote, if_pos hc]

theorem chunks_visible {c : Char} (hc : isBlank c = false) (hquote : c ≠ '"') (rest : List Char) :
    chunks (c :: rest) = .visible c :: chunks rest := by
  rw [chunks, if_neg hquote, if_neg (by simp [hc])]

/-- Nothing of a text is lost in its chunks. -/
theorem flatMap_signs_chunks (text : List Char) : (chunks text).flatMap Chunk.signs = text := by
  fun_induction chunks text with
  | case1 => rfl
  | case2 rest ih => simp [Chunk.signs, ih, closeString_append]
  | case3 c rest _ _ ih | case4 c rest _ _ ih => simp [Chunk.signs, ih]

/-- What follows a string that is closed does not belong to it. -/
theorem closeString_closed {text more : List Char} (h : (closeString text).2 = [] → more = []) :
    closeString ((closeString text).1 ++ more) = ((closeString text).1, more) := by
  fun_induction closeString text with
  | case1 =>
    rw [h rfl]
    rfl
  | case2 => rfl
  | case3 c rest ih => simp [closeString, ih h]
  | case4 c rest hquote hbackslash ih =>
    rw [List.cons_append, closeString, ih h]
    · exact hquote
    · -- a backslash of its own is the last sign of the text
      rintro d more' rfl hmore
      cases rest with
      | nil =>
        rw [h rfl] at hmore
        cases hmore
      | cons d rest => exact hbackslash d rest rfl rfl

/-! ## Tidying chunks -/

variable {last : Option Char} {c : Char}

/-- Whether something other than a space has been written last. -/
def EndsVisibly (last : Option Char) : Prop := ∃ z, last = some z ∧ z ≠ ' '

theorem not_endsVisibly (h : last = none ∨ last = some ' ') : ¬EndsVisibly last := by
  rintro ⟨z, rfl, hz⟩
  simp [hz] at h

theorem endsVisibly_or (last : Option Char) : EndsVisibly last ∨ last = none ∨ last = some ' ' := by
  cases last with
  | none => exact .inr (.inl rfl)
  | some z =>
    by_cases hz : z = ' '
    · exact .inr (.inr (by rw [hz]))
    · exact .inl ⟨z, rfl, hz⟩

/-- White space becomes a space behind something visible, and is dropped elsewhere. -/
theorem tidyFrom_blank_cases (hc : isBlank c = true) (last : Option Char) :
    (EndsVisibly last ∧ ∀ rest, tidyFrom .outside last (c :: rest) = ' ' :: tidyFrom .outside (some ' ') rest) ∨
      (last = none ∨ last = some ' ') ∧
        ∀ rest, tidyFrom .outside last (c :: rest) = tidyFrom .outside last rest := by
  rcases endsVisibly_or last with ⟨z, rfl, hz⟩ | hlast
  · exact .inl ⟨⟨z, rfl, hz⟩, fun rest => tidyFrom_gap [] (by simpa using hc) hz⟩
  · have hgap : ∀ d ∈ [c], isBlank d = true := List.forall_mem_singleton.2 hc
    exact .inr ⟨hlast, fun rest => tidyFrom_blanks hgap hlast⟩

theorem tidyFrom_blank (hc : isBlank c = true) (hlast : EndsVisibly last) (rest : List Char) :
    tidyFrom .outside last (c :: rest) = ' ' :: tidyFrom .outside (some ' ') rest := by
  rcases tidyFrom_blank_cases hc last with ⟨-, htidy⟩ | ⟨hnone, -⟩
  · exact htidy rest
  · exact absurd hlast (not_endsVisibly hnone)

/-- What is visible is written behind what was written last, or with a space between the two. -/
theorem tidyFrom_visible_cases (hc : isBlank c = false) (last : Option Char) :
    (∀ rest, tidyFrom .outside last (c :: rest) = c :: tidyFrom (Place.outside.next c) (some c) rest) ∨
      EndsVisibly last ∧ ∀ rest,
        tidyFrom .outside last (c :: rest) = ' ' :: c :: tidyFrom (Place.outside.next c) (some c) rest := by
  -- a space is put in front of a closing brace or behind an opening one, and nowhere else
  have hwritten : spaced last c = [c] ∨ EndsVisibly last ∧ spaced last c = [' ', c] := by
    unfold spaced
    rw [if_neg (by simp [hc])]
    split_ifs with hbrace hlast hopening
    · simp only [Bool.and_eq_true, decide_eq_true_eq] at hlast
      obtain ⟨z, rfl⟩ := Option.isSome_iff_exists.1 hlast.1.1
      exact .inr ⟨⟨z, rfl, fun hz => hlast.1.2 (congrArg some hz)⟩, rfl⟩
    · exact .inl rfl
    · exact .inr ⟨⟨_, hopening, by decide⟩, rfl⟩
    · exact .inl rfl
  rcases hwritten with hwritten | ⟨hlast, hwritten⟩
  · refine .inl fun rest => ?_
    rw [tidyFrom, if_pos rfl, hwritten]
    rfl
  · refine .inr ⟨hlast, fun rest => ?_⟩
    rw [tidyFrom, if_pos rfl, hwritten]
    rfl

/-- Inside of strings characters are copied. -/
theorem tidyFrom_copied {place : Place} (h : place ≠ .outside) (last : Option Char) (c : Char) (rest : List Char) :
    tidyFrom place last (c :: rest) = c :: tidyFrom (place.next c) (some c) rest := by
  rw [tidyFrom, if_neg h]
  rfl

/-- A string is kept to its end. -/
theorem tidyFrom_closeString (last : Option Char) (text : List Char) :
    tidyFrom .inside last text = (closeString text).1 ++ tidyFrom .outside (some '"') (closeString text).2 := by
  fun_induction closeString text generalizing last with
  | case1 => rfl
  | case2 rest => simp [tidyFrom, Place.next]
  | case3 c rest ih => simp [tidyFrom, Place.next, ih]
  -- a lone backslash can only be the last character: it would be an escape otherwise
  | case4 c rest hquote hbackslash ih =>
    by_cases hc : c = '\\'
    · subst hc
      obtain rfl : rest = [] := by
        cases rest with
        | nil => rfl
        | cons d rest => exact absurd rfl (hbackslash d rest rfl)
      rfl
    · rw [tidyFrom_copied (by decide), Place.next_inside hquote hc, ih]
      rfl

/-! ## What tidying keeps -/

/-- Behind a string, tidied text starts with none of its signs. -/
theorem chunks_tidied_string (rest : List Char) :
    chunks ('"' :: tidyFrom .inside last rest) = .literal ('"' :: (closeString rest).1) ::
      chunks (tidyFrom .outside (some '"') (closeString rest).2) := by
  rw [tidyFrom_closeString, chunks_quote, closeString_closed]
  intro hnil
  rw [hnil]
  rfl

/-- Tidying keeps strings as they are and all other visible characters in their order. -/
theorem visibleChunks_tidyFrom (last : Option Char) (text : List Char) :
    visibleChunks (tidyFrom .outside last text) = visibleChunks text := by
  have hspace (cs : List Char) : visibleChunks (' ' :: cs) = visibleChunks cs := by
    rw [visibleChunks, chunks_blank (by decide)]
    rfl
  fun_induction chunks text generalizing last with
  | case1 => rfl
  -- a string is copied as a whole
  | case2 rest ih =>
    have hliteral : visibleChunks ('"' :: tidyFrom .inside (some '"') rest) = visibleChunks ('"' :: rest) := by
      rw [visibleChunks, chunks_tidied_string, visibleChunks, chunks_quote, List.filter_cons_of_pos rfl,
        List.filter_cons_of_pos rfl]
      exact congrArg _ (ih (some '"'))
    rcases tidyFrom_visible_cases (c := '"') (by decide) last with htidy | ⟨-, htidy⟩
    · rw [htidy]
      exact hliteral
    · rw [htidy, hspace]
      exact hliteral
  -- a blank is left out or becomes a space
  | case3 c rest _ hc ih =>
    have hblank : visibleChunks (c :: rest) = visibleChunks rest := by
      rw [visibleChunks, chunks_blank hc]
      rfl
    rcases tidyFrom_blank_cases hc last with ⟨-, htidy⟩ | ⟨-, htidy⟩
    · rw [htidy, hspace, ih, hblank]
    · rw [htidy, ih, hblank]
  | case4 c rest hquote hc ih =>
    have hvisible : visibleChunks (c :: tidyFrom .outside (some c) rest) = visibleChunks (c :: rest) := by
      have hc' : isBlank c = false := by simpa using hc
      rw [visibleChunks, chunks_visible hc' hquote, visibleChunks, chunks_visible hc' hquote,
        List.filter_cons_of_pos rfl, List.filter_cons_of_pos rfl]
      exact congrArg _ (ih (some c))
    rcases tidyFrom_visible_cases (by simpa using hc) last with htidy | ⟨-, htidy⟩
    · rw [htidy, Place.next_outside hquote]
      exact hvisible
    · rw [htidy, hspace, Place.next_outside hquote]
      exact hvisible

/-! ## The white space left -/

/-- What is written behind a space, or at the start, is visible. -/
theorem isBlank_head_chunks_tidyFrom (hlast : last = none ∨ last = some ' ') (text : List Char) :
    ∀ chunk ∈ (chunks (tidyFrom .outside last text)).head?, chunk.isBlank = false := by
  have hnot := not_endsVisibly hlast
  induction text with
  | nil => simp [tidyFrom]
  | cons c rest ih =>
    cases hc : isBlank c with
    | true =>
      rcases tidyFrom_blank_cases hc last with ⟨h, -⟩ | ⟨-, htidy⟩
      · exact absurd h hnot
      · rwa [htidy]
    | false =>
      rcases tidyFrom_visible_cases hc last with htidy | ⟨h, -⟩
      · rw [htidy]
        by_cases hquote : c = '"'
        · subst hquote
          simp [chunks_quote, Chunk.isBlank]
        · simp [chunks_visible hc hquote, Chunk.isBlank]
      · exact absurd h hnot

theorem SinglySpaced.cons {chunk : Chunk} {cs : List Chunk} (hchunk : chunk.isBlank = false) (h : SinglySpaced cs) :
    SinglySpaced (chunk :: cs) := by
  refine ⟨fun c hmem => ?_, List.isChain_cons.2 ⟨fun _ _ => .inl hchunk, h.apart⟩⟩
  rcases List.mem_cons.1 hmem with rfl | hmem
  · cases hchunk
  · exact h.space c hmem

theorem SinglySpaced.cons_space {cs : List Chunk} (hhead : ∀ chunk ∈ cs.head?, chunk.isBlank = false)
    (h : SinglySpaced cs) : SinglySpaced (.blank ' ' :: cs) := by
  refine ⟨fun c hmem => ?_, List.isChain_cons.2 ⟨fun chunk hchunk => .inr (hhead chunk hchunk), h.apart⟩⟩
  rcases List.mem_cons.1 hmem with heq | hmem
  · exact Chunk.blank.inj heq
  · exact h.space c hmem

theorem singlySpaced_chunks_space {cs : List Char} (hhead : ∀ chunk ∈ (chunks cs).head?, chunk.isBlank = false)
    (h : SinglySpaced (chunks cs)) : SinglySpaced (chunks (' ' :: cs)) := by
  rw [chunks_blank (by decide)]
  exact h.cons_space hhead

/-- Tidied text has no white space outside of its strings but single spaces. -/
theorem singlySpaced_tidyFrom (last : Option Char) (text : List Char) :
    SinglySpaced (chunks (tidyFrom .outside last text)) := by
  fun_induction chunks text generalizing last with
  | case1 =>
    rw [tidyFrom, chunks_nil]
    exact ⟨by simp, .nil⟩
  | case2 rest ih =>
    have hliteral : SinglySpaced (chunks ('"' :: tidyFrom .inside (some '"') rest)) := by
      rw [chunks_tidied_string]
      exact (ih _).cons rfl
    rcases tidyFrom_visible_cases (c := '"') (by decide) last with htidy | ⟨-, htidy⟩
    · rw [htidy]
      exact hliteral
    · rw [htidy]
      refine singlySpaced_chunks_space ?_ hliteral
      simp [chunks_quote, Chunk.isBlank]
  -- a space is put only behind something visible, so never two in a row
  | case3 c rest _ hc ih =>
    rcases tidyFrom_blank_cases hc last with ⟨-, htidy⟩ | ⟨-, htidy⟩
    · rw [htidy]
      exact singlySpaced_chunks_space (isBlank_head_chunks_tidyFrom (.inr rfl) rest) (ih _)
    · rw [htidy]
      exact ih last
  | case4 c rest hquote hc ih =>
    have hc' : isBlank c = false := by simpa using hc
    have hvisible : SinglySpaced (chunks (c :: tidyFrom .outside (some c) rest)) := by
      rw [chunks_visible hc' hquote]
      exact (ih _).cons rfl
    rcases tidyFrom_visible_cases hc' last with htidy | ⟨-, htidy⟩
    · rw [htidy, Place.next_outside hquote]
      exact hvisible
    · rw [htidy, Place.next_outside hquote]
      refine singlySpaced_chunks_space ?_ hvisible
      simp [chunks_visible hc' hquote, Chunk.isBlank]

/-! ## Tidying again -/

/-- Tidied text is tidied to itself. -/
theorem tidyFrom_tidyFrom (place : Place) (last : Option Char) (text : List Char) :
    tidyFrom place last (tidyFrom place last text) = tidyFrom place last text := by
  induction text generalizing place last with
  | nil => rfl
  | cons c rest ih =>
    by_cases hplace : place = .outside
    · subst hplace
      cases hc : isBlank c with
      | true =>
        rcases tidyFrom_blank_cases hc last with ⟨hlast, htidy⟩ | ⟨-, htidy⟩
        · rw [htidy, tidyFrom_blank (by decide) hlast, ih]
        · rw [htidy, ih]
      | false =>
        rcases tidyFrom_visible_cases hc last with htidy | ⟨hlast, htidy⟩
        · rw [htidy, htidy, ih]
        · rw [htidy, tidyFrom_blank (by decide) hlast]
          -- behind the space that is there already no other one is put
          rcases tidyFrom_visible_cases hc (some ' ') with htidy' | ⟨hspace, -⟩
          · rw [htidy', ih]
          · exact absurd hspace (not_endsVisibly (.inr rfl))
    · rw [tidyFrom_copied hplace, tidyFrom_copied hplace, ih]

/-! ## Tidied JSON -/

/-- Whether a character belongs to a word: it is visible and no sign of structure. -/
def isWordSign (c : Char) : Bool := !isBlank c && !isSign c

theorem isSpace_isSign_of_isWordSign (h : isWordSign c = true) : isSpace c = false ∧ isSign c = false := by
  simp only [isWordSign, Bool.and_eq_true, Bool.not_eq_true'] at h
  refine ⟨?_, h.2⟩
  by_contra hspace
  rw [Bool.not_eq_false] at hspace
  rw [Json.isBlank_of_isSpace hspace] at h
  cases h.1

/-- Text that does not go on with a word does not do so when it is tidied behind one. -/
theorem stopsAt_tidyFrom {z : Char} (hz : z ≠ ' ') {text : List Char} (h : StopsAt isWordSign text) :
    StopsAt isBareSign text ∧ StopsAt isBareSign (tidyFrom .outside (some z) text) := by
  have hword : ∀ c, isWordSign c = false → isBareSign c = false := by
    intro c hc
    by_contra hbare
    rw [Bool.not_eq_false] at hbare
    have hblank : isBlank c = false := Text.isBlank_of_class (by decide) hbare
    simp [isWordSign, hblank, Json.isSign_of_isBareSign hbare] at hc
  refine ⟨h.mono hword, ?_⟩
  -- what comes out is a space or the first sign of the text, and neither goes on with a word
  cases text with
  | nil => exact Text.stopsAt_nil _
  | cons c rest =>
    have hc := hword c (stopsAt_cons.1 h)
    cases hblank : isBlank c with
    | true =>
      rw [tidyFrom_blank hblank ⟨z, rfl, hz⟩]
      exact stopsAt_cons.2 (by decide)
    | false =>
      rcases tidyFrom_visible_cases hblank (some z) with htidy | ⟨-, htidy⟩
      · rw [htidy]
        exact stopsAt_cons.2 hc
      · rw [htidy]
        exact stopsAt_cons.2 (by decide)

/-- The rest of a word is kept. -/
theorem tidyFrom_word {z : Char} (hz : z ≠ ' ') (hz' : z ≠ '\x7b') {word : List Char}
    (hword : ∀ c ∈ word, isWordSign c = true) :
    ∃ y, y ≠ ' ' ∧ ∀ rest, tidyFrom .outside (some z) (word ++ rest) = word ++ tidyFrom .outside (some y) rest := by
  by_cases hnil : word = []
  · subst hnil
    exact ⟨z, hz, fun _ => rfl⟩
  · have hbare : ∀ c ∈ word, Json.Bare c := by
      intro c hc
      have hsign := hword c hc
      simp only [isWordSign, isSign, Bool.and_eq_true, Bool.not_eq_true', List.contains_eq_mem,
        decide_eq_false_iff_not, List.mem_cons, List.not_mem_nil, or_false, not_or] at hsign
      obtain ⟨hblank, hopening, hclosing, -, -, hcomma, -, hquote⟩ := hsign
      exact ⟨hblank, hquote, hcomma, hopening, hclosing⟩
    obtain ⟨y, hy, -, htidy⟩ := tidies_bare hnil hbare (some z) (by simpa using hz')
    exact ⟨y, hy, htidy⟩

/-- Where a scan stays inside of strings, all is copied. -/
theorem tidyFrom_of_staysInside {place final : Place} {cs : List Char} (h : Json.StaysInside place cs final)
    (last : Option Char) :
    ∃ z, ∀ rest, tidyFrom place last (cs ++ rest) = cs ++ tidyFrom final z rest := by
  induction h generalizing last with
  | nil => exact ⟨last, fun _ => rfl⟩
  | @cons place final c cs hinside _ _ ih =>
    obtain ⟨z, htidy⟩ := ih (some c)
    refine ⟨z, fun rest => ?_⟩
    rw [List.cons_append, tidyFrom_copied hinside, htidy, List.cons_append]

/-- A string is read as the same token where what follows it has been tidied. -/
theorem readAlike_string {rest : List Char}
    (h : ∀ more, more.length < rest.length → ReadAlike more (tidyFrom .outside (some '"') more)) :
    ReadAlike ('"' :: rest) ('"' :: tidyFrom .inside (some '"') rest) := by
  refine .token (by decide) fun p p' hlast => ?_
  obtain ⟨raw, chars, more, rfl, hraw, -⟩ := Json.string_of_readToken (Prod.eta _).symm hlast
  -- the signs of the string are the same, and so is what is read from them
  obtain ⟨z, htidy⟩ := tidyFrom_of_staysInside hraw.staysInside (some '"')
  have hquote : tidyFrom .inside z ('"' :: more) = '"' :: tidyFrom .outside (some '"') more := rfl
  rw [htidy, hquote, Json.readToken_string hraw, Json.readToken_string hraw, Json.drop_string, Json.drop_string]
  refine ⟨rfl, h more ?_⟩
  simp
  omega

/-- From tidied text the machine reads what it reads from the text itself. -/
theorem readAlike_tidyFrom (last : Option Char) (text : List Char) : ReadAlike text (tidyFrom .outside last text) := by
  induction hlength : text.length using Nat.strong_induction_on generalizing text last with
  | _ length ih =>
    subst hlength
    cases text with
    | nil => exact readAlike_nil
    | cons c rest =>
      cases hc : isBlank c with
      | true =>
        rcases tidyFrom_blank_cases hc last with ⟨-, htidy⟩ | ⟨-, htidy⟩
        · rw [htidy]
          exact ((ih rest.length (by simp) (some ' ') rest rfl).cons_blank hc).space
        · rw [htidy]
          exact (ih rest.length (by simp) last rest rfl).cons_blank hc
      | false =>
        have hvisible : ReadAlike (c :: rest) (c :: tidyFrom (Place.outside.next c) (some c) rest) := by
          cases hsign : isSign c with
          | true =>
            rcases Json.isSign_cases hsign with hstructure | rfl
            · rw [Place.next_outside (by rintro rfl; exact absurd hstructure (by decide))]
              exact fronts_sign hstructure (ih rest.length (by simp) (some c) rest rfl)
            · exact readAlike_string fun more hmore => ih more.length (hmore.trans (by simp)) (some '"') more rfl
          | false =>
            -- the word is kept, and nothing behind it goes on with it, neither before nor after tidying
            have hword : ∀ d ∈ c :: rest.takeWhile isWordSign, isWordSign d = true := by
              refine List.forall_mem_cons.2 ⟨by simp [isWordSign, hc, hsign], fun d => List.mem_takeWhile_imp⟩
            have hspace : c ≠ ' ' := by
              rintro rfl
              exact absurd hc (by decide)
            have hopening : c ≠ '\x7b' := by
              rintro rfl
              exact absurd hsign (by decide)
            have hquote : c ≠ '"' := by
              rintro rfl
              exact absurd hsign (by decide)
            obtain ⟨y, hy, htidy⟩ := tidyFrom_word hspace hopening (List.forall_mem_cons.1 hword).2
            have hstop := stopsAt_tidyFrom hy (Text.stopsAt_dropWhile isWordSign rest)
            have hbehind := ih (rest.dropWhile isWordSign).length
              (Nat.lt_succ_of_le (List.dropWhile_sublist _).length_le) (some y) _ rfl
            have hread := ReadAlike.word (fun d hd => isSpace_isSign_of_isWordSign (hword d hd)) hstop.1 hstop.2 hbehind
            rw [List.cons_append, List.takeWhile_append_dropWhile, List.cons_append, ← htidy,
              List.takeWhile_append_dropWhile] at hread
            rw [Place.next_outside hquote]
            exact hread
        rcases tidyFrom_visible_cases hc last with htidy | ⟨-, htidy⟩
        · rw [htidy]
          exact hvisible
        · rw [htidy]
          exact hvisible.space

/-- The data of a text is the data of what it is tidied to. -/
theorem parse_tidy {text : List Char} {data : Json} (h : Json.parse text = .ok data) :
    Json.parse (tidy text) = .ok data := by
  have hreads : Json.ReadsFrom (.value []) (tidy text) data :=
    readAlike_tidyFrom none text (Json.parse_eq_ok_iff.1 h).2 0
  refine Json.parse_eq_ok_iff.2 ⟨fun hmark => ?_, hreads⟩
  -- no token starts with a byte order mark
  obtain ⟨more, hmore⟩ := List.head?_eq_some_iff.1 hmark
  rw [hmore, Json.readsFrom_cons (by decide)] at hreads
  obtain ⟨next, hmove, -⟩ := hreads
  have hsign : isSign '\uFEFF' = false := by decide
  have hfirst := (Json.literal_of_readToken hsign (Prod.eta _).symm hmove.isLast_eq_false).1
  exact absurd hfirst (by decide)

/--
Tidying a text a second time changes nothing. Its strings are kept, closed or not, and so are its other visible
characters in their order; outside of strings there are single spaces and no other white space, and none at the
start; and the data of the text, where it has any, stays the same.
-/
theorem tidy_idempotent_and_keeps (text : List Char) :
    tidy (tidy text) = tidy text ∧
      ((chunks text).flatMap Chunk.signs = text ∧ visibleChunks (tidy text) = visibleChunks text) ∧
      (SinglySpaced (chunks (tidy text)) ∧ ∀ chunk ∈ (chunks (tidy text)).head?, chunk.isBlank = false) ∧
      ∀ data, Json.parse text = .ok data → Json.parse (tidy text) = .ok data :=
  ⟨tidyFrom_tidyFrom .outside none text,
    ⟨flatMap_signs_chunks text, visibleChunks_tidyFrom none text⟩,
    ⟨singlySpaced_tidyFrom none text, isBlank_head_chunks_tidyFrom (.inl rfl) text⟩,
    fun _ => parse_tidy⟩

/-- A key with an escaped quote, spaces and a brace keeps them, and a string keeps its spaces. -/
theorem tidy_idempotent_and_keeps_strings :
    Json.parse "\n \x7b\"k\\\"  \x7d\" :  [ true ,\t\"a  b\"]\x7d".toList =
        .ok (.obj [("k\"  \x7d", .arr [.bool true, .str "a  b"])]) ∧
      Json.parse (tidy "\n \x7b\"k\\\"  \x7d\" :  [ true ,\t\"a  b\"]\x7d".toList) =
        .ok (.obj [("k\"  \x7d", .arr [.bool true, .str "a  b"])]) := by
  have hparse : Json.parse "\n \x7b\"k\\\"  \x7d\" :  [ true ,\t\"a  b\"]\x7d".toList =
      .ok (.obj [("k\"  \x7d", .arr [.bool true, .str "a  b"])]) := by cbv
  exact ⟨hparse, (tidy_idempotent_and_keeps _).2.2.2 _ hparse⟩

end Selection

end DocBrowser
