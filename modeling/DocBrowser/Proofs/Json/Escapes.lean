import Mathlib
import DocBrowser.Json.Write
import DocBrowser.Proofs.Json.Tokens
/-!
# Escapes read back

A string is written with escapes for the quote, the backslash and the control characters, and on request for
every character outside printable ASCII, a character beyond the first 65536 as a surrogate pair. Either way it
stands for its characters.
-/

namespace DocBrowser.Json

/-! ## Numbered characters -/

/-- A character is no half of a surrogate pair. -/
theorem not_surrogate (c : Char) : ¬ (0xD800 ≤ c.toNat ∧ c.toNat ≤ 0xDFFF) := by
  have hvalid : c.toNat < 0xD800 ∨ 0xDFFF < c.toNat ∧ c.toNat < 0x110000 := c.valid
  omega

variable {raw cs : List Char} {c : Char}

/-- A character that is numbered by four digits is read from them. -/
theorem Literal.quad {w x y z : Char} (hquad : hexQuad? w x y z = some c.toNat) (rest : Literal raw cs) :
    Literal ('\\' :: 'u' :: w :: x :: y :: z :: raw) (c :: cs) := by
  have hhalf := not_surrogate c
  refine .escaped (.numbered hquad) (fun start position more => ?_) rest
  simp only [List.cons_append, List.nil_append]
  rw [readEscape_numbered hquad (by simp) (by omega), if_neg (by omega), Char.ofNat_toNat]
  rfl

/-- A character that is numbered by a surrogate pair is read from it. -/
theorem Literal.surrogates {w x y z w' x' y' z' : Char} {high low : ℕ} (hquad : hexQuad? w x y z = some high)
    (hquad' : hexQuad? w' x' y' z' = some low) (hhigh : 0xD800 ≤ high ∧ high ≤ 0xDBFF)
    (hlow : 0xDC00 ≤ low ∧ low ≤ 0xDFFF) (hc : c.toNat = 0x10000 + (high - 0xD800) * 1024 + (low - 0xDC00))
    (rest : Literal raw cs) :
    Literal ('\\' :: 'u' :: w :: x :: y :: z :: '\\' :: 'u' :: w' :: x' :: y' :: z' :: raw) (c :: cs) := by
  refine .escaped (.pair hquad hquad') (fun start position more => ?_) rest
  simp only [List.cons_append, List.nil_append]
  rw [readEscape_high hquad (by simp) hhigh, lowHalf_quad hquad' _ (by simp), if_pos hlow]
  simp only [Except.map, ← hc, Char.ofNat_toNat, List.length_cons, List.length_nil]

/-- A character that is written with four digits is read back. -/
theorem Literal.numbered (h : c.toNat < 65536) (rest : Literal raw cs) :
    Literal (unicodeEscape c.toNat ++ raw) (c :: cs) := by
  obtain ⟨w, x, y, z, hhex, hquad⟩ := hexQuad?_hexText h
  rw [unicodeEscape, hhex]
  exact rest.quad hquad

/-- A character that is written as a surrogate pair is read back. -/
theorem Literal.pair (h : 65536 ≤ c.toNat) (rest : Literal raw cs) : Literal (unitEscape c ++ raw) (c :: cs) := by
  have hvalid : c.toNat < 0xD800 ∨ 0xDFFF < c.toNat ∧ c.toNat < 0x110000 := c.valid
  obtain ⟨w, x, y, z, hhex, hquad⟩ :=
    hexQuad?_hexText (show 0xD800 + (c.toNat - 0x10000) / 1024 < 65536 by omega)
  obtain ⟨w', x', y', z', hhex', hquad'⟩ :=
    hexQuad?_hexText (show 0xDC00 + (c.toNat - 0x10000) % 1024 < 65536 by omega)
  rw [unitEscape, if_neg (by omega), unicodeEscape, unicodeEscape, hhex, hhex']
  exact rest.surrogates hquad hquad' (by omega) (by omega) (by omega)

theorem Literal.writeChar (ascii : Bool) (c : Char) (rest : Literal raw cs) :
    Literal (writeChar ascii c ++ raw) (c :: cs) := by
  have hnamed {letter : Char} (h : namedEscape? letter = some c) : Literal (['\\', letter] ++ raw) (c :: cs) :=
    .escaped (.named h) (fun start position more => readEscape_named h start position _) rest
  unfold Json.writeChar
  -- first the seven short escapes, then the numbered ones, at last the character itself
  split_ifs with hquote hbackslash hn hr ht hf hb hcontrol hascii
  · exact hnamed (by rw [hquote]; rfl)
  · exact hnamed (by rw [hbackslash]; rfl)
  · exact hnamed (by rw [hn]; rfl)
  · exact hnamed (by rw [hr]; rfl)
  · exact hnamed (by rw [ht]; rfl)
  · exact hnamed (by rw [hf]; rfl)
  · exact hnamed (by rw [hb]; rfl)
  · exact rest.numbered (by omega)
  · -- beyond four hexadecimal digits a character takes a pair of escapes
    by_cases hbasic : c.toNat < 65536
    · rw [unitEscape, if_pos hbasic]
      exact rest.numbered hbasic
    · exact rest.pair (by omega)
  · exact .plain hquote hbackslash hcontrol rest

/-- Between its quotes a written string stands for its characters. -/
theorem literal_flatMap (ascii : Bool) (cs : List Char) : Literal (cs.flatMap (writeChar ascii)) cs := by
  induction cs with
  | nil => exact .nil
  | cons c cs ih =>
    rw [List.flatMap_cons]
    exact ih.writeChar ascii c

/-! ## Signs of strings -/

theorem le_toNat_of_namedEscape? {letter : Char} (h : namedEscape? letter = some c) : 32 ≤ letter.toNat := by
  unfold namedEscape? at h
  split at h <;> first | decide | cases h

theorem le_toNat_of_hexDigit? {n : ℕ} (h : Text.hexDigit? c = some n) : 32 ≤ c.toNat := by
  by_contra hlow
  have hnone : Text.hexDigit? c = none := by
    unfold Text.hexDigit?
    simp only [Bool.and_eq_true, decide_eq_true_eq]
    rw [if_neg (by omega), if_neg (by omega), if_neg (by omega)]
  rw [hnone] at h
  cases h

theorem exists_hexDigit?_of_hexQuad? {w x y z : Char} {n : ℕ} (h : hexQuad? w x y z = some n) :
    ∀ d ∈ [w, x, y, z], ∃ k, Text.hexDigit? d = some k := by
  obtain ⟨i, hw, h⟩ := Option.bind_eq_some_iff.1 h
  obtain ⟨j, hx, h⟩ := Option.bind_eq_some_iff.1 h
  obtain ⟨k, hy, h⟩ := Option.bind_eq_some_iff.1 h
  obtain ⟨l, hz, -⟩ := Option.bind_eq_some_iff.1 h
  simp only [List.forall_mem_cons]
  exact ⟨⟨i, hw⟩, ⟨j, hx⟩, ⟨k, hy⟩, ⟨l, hz⟩, List.forall_mem_nil _⟩

theorem Escape.le_toNat {signs : List Char} (h : Escape signs) : ∀ d ∈ signs, 32 ≤ d.toNat := by
  have hquad {w x y z : Char} {n : ℕ} (hread : hexQuad? w x y z = some n) : ∀ d ∈ [w, x, y, z], 32 ≤ d.toNat := by
    intro d hd
    obtain ⟨k, hk⟩ := exists_hexDigit?_of_hexQuad? hread d hd
    exact le_toNat_of_hexDigit? hk
  cases h with
  | named hname => exact List.forall_mem_singleton.2 (le_toNat_of_namedEscape? hname)
  | numbered hread => exact List.forall_mem_cons.2 ⟨by decide, hquad hread⟩
  | pair hread hread' =>
    refine List.forall_mem_cons.2 ⟨by decide, ?_⟩
    show ∀ d ∈ [_, _, _, _] ++ '\\' :: 'u' :: [_, _, _, _], _
    refine List.forall_mem_append.2 ⟨hquad hread, ?_⟩
    exact List.forall_mem_cons.2 ⟨by decide, List.forall_mem_cons.2 ⟨by decide, hquad hread'⟩⟩

/-- Between the quotes of a string stands no control character. -/
theorem Literal.le_toNat (h : Literal raw cs) : ∀ d ∈ raw, 32 ≤ d.toNat := by
  induction h with
  | nil => exact List.forall_mem_nil _
  | plain _ _ hcontrol _ ih => exact List.forall_mem_cons.2 ⟨not_lt.1 hcontrol, ih⟩
  | escaped hshape _ _ ih =>
    exact List.forall_mem_cons.2 ⟨by decide, List.forall_mem_append.2 ⟨hshape.le_toNat, ih⟩⟩

theorem le_toNat_of_mem_writeText {ascii : Bool} {d : Char} (h : d ∈ writeText ascii cs) : 32 ≤ d.toNat := by
  rw [writeText, List.mem_append, List.mem_cons, List.mem_singleton] at h
  rcases h with (rfl | h) | rfl
  · decide
  · exact (literal_flatMap ascii cs).le_toNat d h
  · decide

/-- A string reads back up to its closing quote. -/
theorem readString_inside (start position : ℕ) (cs rest : List Char) :
    readString start position (inside cs ++ '"' :: rest) = .ok (cs, (inside cs).length + 1) :=
  (literal_flatMap false cs).readString start position rest

end DocBrowser.Json
