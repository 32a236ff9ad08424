import Mathlib
import DocBrowser.Json.Write
import DocBrowser.Proofs.Json.Machine
import DocBrowser.Proofs.Json.Tokens
/-!
# Texts that are read alike

Where white space stands between the tokens of a text plays no part in what is read from it. Two texts are
read alike if the machine reads from the second whatever it reads from the first, in whichever state it is.
That is built up from behind: signs of structure and written strings may stand in front of any two texts that
are read alike, a word where it ends in both, white space in either of them.
-/

namespace DocBrowser.Json

open Text (StopsAt stopsAt_cons)

/-! ## Texts that are read alike -/

/-- Whether the machine reads from the second text whatever it reads from the first, wherever they stand. -/
def ReadAlike (cs cs' : List Char) : Prop :=
  ∀ ⦃state data p⦄, Reads state ((tokens .strict p cs).map (·.2)) data →
    ∀ p', Reads state ((tokens .strict p' cs').map (·.2)) data

section

variable {cs cs' : List Char} {c : Char}

theorem readAlike_nil : ReadAlike [] [] := by
  intro state data p h p'
  rw [tokens] at h ⊢
  exact h

/-- The machine moves with the token in front and reads on behind it. -/
theorem reads_tokens_cons {state : State} {data : Json} {p : ℕ} (hspace : isSpace c = false) :
    Reads state ((tokens .strict p (c :: cs)).map (·.2)) data ↔
      ∃ next, Moves state (readToken .strict p (c :: cs)).1 next ∧ Reads next
        ((tokens .strict (p + (readToken .strict p (c :: cs)).2) (cs.drop ((readToken .strict p (c :: cs)).2 - 1))).map
          (·.2)) data := by
  rw [tokens, if_neg (by simp [hspace])]
  dsimp only
  -- a token that ends the reading is followed by nothing, and no state accepts it
  cases hlast : (readToken .strict p (c :: cs)).1.isLast with
  | true =>
    constructor
    · intro h
      cases h with
      | step hmove => simp [hmove.isLast_eq_false] at hlast
    · rintro ⟨next, hmove, -⟩
      simp [hmove.isLast_eq_false] at hlast
  | false =>
    constructor
    · intro h
      cases h with
      | step hmove hrest => exact ⟨_, hmove, hrest⟩
    · rintro ⟨next, hmove, hrest⟩
      exact .step hmove hrest

/-- The same token may stand in front of texts that are read alike. -/
theorem ReadAlike.token (hspace : isSpace c = false)
    (hread : ∀ p p', (readToken .strict p (c :: cs)).1.isLast = false →
      readToken .strict p (c :: cs) = readToken .strict p' (c :: cs') ∧
        ReadAlike (cs.drop ((readToken .strict p (c :: cs)).2 - 1))
          (cs'.drop ((readToken .strict p (c :: cs)).2 - 1))) :
    ReadAlike (c :: cs) (c :: cs') := by
  intro state data p h p'
  rw [reads_tokens_cons hspace] at h ⊢
  obtain ⟨next, hmove, hrest⟩ := h
  obtain ⟨hsame, halike⟩ := hread p p' hmove.isLast_eq_false
  rw [← hsame]
  exact ⟨next, hmove, halike hrest _⟩

/-- No token starts with white space that JSON does not know. -/
theorem isSpace_of_readToken {p : ℕ} (hc : Text.isBlank c = true)
    (hlast : (readToken .strict p (c :: cs)).1.isLast = false) : isSpace c = true := by
  have hsign : isSign c = false := by
    rw [isSign, List.contains_eq_mem, decide_eq_false_iff_not]
    have hvisible : ∀ d ∈ ['\x7b', '\x7d', '[', ']', ',', ':', '"'], Text.isBlank d = false := by simp [Text.isBlank]
    intro hmem
    rw [hvisible c hmem] at hc
    cases hc
  obtain ⟨hfirst, -⟩ := literal_of_readToken hsign rfl hlast
  have hvisible : ∀ d ∈ ['-', 'n', 't', 'f'], Text.isBlank d = false := by simp [Text.isBlank]
  have hblank : Text.isBlank c = false := hfirst.elim Text.isBlank_of_isDigit (hvisible c)
  rw [hblank] at hc
  cases hc

/-- White space may be left out. -/
theorem ReadAlike.cons_blank (h : ReadAlike cs cs') (hc : Text.isBlank c = true) : ReadAlike (c :: cs) cs' := by
  intro state data p hreads p'
  by_cases hspace : isSpace c = true
  · rw [tokens, if_pos hspace] at hreads
    exact h hreads p'
  · obtain ⟨next, hmove, -⟩ := (reads_tokens_cons (Bool.eq_false_of_not_eq_true hspace)).1 hreads
    exact absurd (isSpace_of_readToken hc hmove.isLast_eq_false) hspace

/-- A space may be put in. -/
theorem ReadAlike.space (h : ReadAlike cs cs') : ReadAlike cs (' ' :: cs') := by
  intro state data p hreads p'
  rw [tokens, if_pos (by decide)]
  exact h hreads _

/-- Whether texts that are read alike are so behind some signs too. -/
def Fronts (signs : List Char) : Prop := ∀ ⦃cs cs'⦄, ReadAlike cs cs' → ReadAlike (signs ++ cs) (signs ++ cs')

theorem Fronts.append {signs more : List Char} (h : Fronts signs) (h' : Fronts more) : Fronts (signs ++ more) := by
  intro cs cs' halike
  rw [List.append_assoc, List.append_assoc]
  exact h (h' halike)

theorem fronts_space : Fronts [' '] := by
  intro cs cs' h
  exact (h.cons_blank (by decide)).space

theorem fronts_of_readToken {signs : List Char} {token : Token} (hspace : isSpace c = false)
    (h : ∀ p rest, readToken .strict p (c :: (signs ++ rest)) = (token, signs.length + 1)) : Fronts (c :: signs) := by
  intro cs cs' halike
  rw [List.cons_append, List.cons_append]
  refine .token hspace fun p p' _ => ?_
  rw [h, h, Nat.add_sub_cancel, List.drop_left, List.drop_left]
  exact ⟨rfl, halike⟩

theorem fronts_sign (hc : c ∈ ['\x7b', '\x7d', '[', ']', ':', ',']) : Fronts [c] := by
  simp only [List.mem_cons, List.not_mem_nil, or_false] at hc
  rcases hc with rfl | rfl | rfl | rfl | rfl | rfl <;> exact fronts_of_readToken (by decide) fun _ _ => rfl

theorem fronts_writeText (ascii : Bool) (cs : List Char) : Fronts (writeText ascii cs) :=
  fronts_of_readToken (by decide) fun p rest => readToken_writeText p cs rest

/-- The run of a word that ends in front of a text is the run of the word. -/
theorem bareRun_append_of_stopsAt (signs : List Char) {rest : List Char} (h : StopsAt isBareSign rest) :
    bareRun (signs ++ rest) = bareRun signs :=
  Text.takeWhile_append_of_stopsAt signs h

/-- A word may stand in front where nothing goes on with it. -/
theorem ReadAlike.word {word : List Char} (hword : ∀ c ∈ word, isSpace c = false ∧ isSign c = false)
    (hcs : StopsAt isBareSign cs) (hcs' : StopsAt isBareSign cs') (h : ReadAlike cs cs') :
    ReadAlike (word ++ cs) (word ++ cs') := by
  -- what is left of the word behind its first token is shorter
  induction hlength : word.length using Nat.strong_induction_on generalizing word with
  | h length ih =>
    cases word with
    | nil => exact h
    | cons c word =>
      obtain ⟨hspace, hsign⟩ := hword c List.mem_cons_self
      rw [List.cons_append, List.cons_append]
      refine .token hspace fun p p' hlast => ?_
      rcases hread : readToken .strict p (c :: (word ++ cs)) with ⟨token, n⟩
      rw [hread] at hlast
      have hc : isBareSign c = true := isBareSign_of_readToken hsign hread hlast
      have hrun : bareRun (word ++ cs) = bareRun (word ++ cs') := by
        rw [bareRun_append_of_stopsAt word hcs, bareRun_append_of_stopsAt word hcs']
      have hle := le_length_bareRun hsign hread hlast
      rw [bareRun_cons hc, bareRun_append_of_stopsAt word hcs, List.length_cons] at hle
      have hword_le : (bareRun word).length ≤ word.length := (List.takeWhile_prefix _).length_le
      refine ⟨hread.symm.trans (readToken_congr p p' hc hrun), ?_⟩
      rw [List.drop_append_of_le_length (by omega), List.drop_append_of_le_length (by omega)]
      refine ih _ ?_ (fun d hd => hword d (List.mem_cons_of_mem _ (List.mem_of_mem_drop hd))) rfl
      rw [List.length_drop, ← hlength, List.length_cons]
      omega

end

/-- Texts that are read alike hold the same data. -/
theorem ReadAlike.parse {cs cs' : List Char} (h : ReadAlike cs cs') {data : Json} (hparse : parse cs = .ok data)
    (hmark : cs'.head? ≠ some '\uFEFF') : parse cs' = .ok data := by
  rw [Json.parse, parseWith] at hparse ⊢
  split_ifs at hparse
  rw [if_neg hmark]
  exact run_eq_ok.2 (h (run_eq_ok.1 hparse) 0)

end DocBrowser.Json
