import Mathlib
import DocBrowser.Proofs.Failure
import DocBrowser.Proofs.Json.Machine
import DocBrowser.Proofs.Json.Tokens
import DocBrowser.Proofs.Query.Shorthand
/-!
# Strict JSON is shell-style text

Every text that strict JSON accepts can be expanded, and expanding it keeps its tokens: strings are
decoded and written again with the same characters, and all else stays as it is. The expansion looks
only at the sign of structure in front of a piece, so it is the machine that reads JSON which tells
that no word is a key, no slash opens a regular expression, and every value ends where a word ends.
-/

namespace DocBrowser.Shorthand

open Json (Literal Reads Moves Token isBareSign isSign readToken tokens bareRun mem_of_closes)
open Text (StopsAt stopsAt_cons)

/-! ## Strings -/

/-- A hexadecimal digit neither closes a string nor escapes anything. -/
theorem ne_of_hexDigit? {c : Char} {n : ℕ} (h : Text.hexDigit? c = some n) : c ≠ '"' ∧ c ≠ '\\' := by
  constructor
  · rintro rfl
    cases h
  · rintro rfl
    cases h

theorem scanString_quad {a b c d : Char} {n : ℕ} (h : Json.hexQuad? a b c d = some n) (rest : List Char) :
    scanString '"' (a :: b :: c :: d :: rest) =
      (scanString '"' rest).map fun (raw, length) => (a :: b :: c :: d :: raw, length + 4) := by
  obtain ⟨⟨w, ha⟩, ⟨x, hb⟩, ⟨y, hc⟩, ⟨z, hd⟩, -⟩ := by
    simpa only [List.forall_mem_cons] using Json.exists_hexDigit?_of_hexQuad? h
  rw [scanString_plain (ne_of_hexDigit? ha).1 (ne_of_hexDigit? ha).2,
    scanString_plain (ne_of_hexDigit? hb).1 (ne_of_hexDigit? hb).2,
    scanString_plain (ne_of_hexDigit? hc).1 (ne_of_hexDigit? hc).2,
    scanString_plain (ne_of_hexDigit? hd).1 (ne_of_hexDigit? hd).2]
  cases scanString '"' rest <;> rfl

/-- Behind its backslash an escape is passed over as it stands. -/
theorem scanString_escape {signs : List Char} (h : Json.Escape signs) (rest : List Char) :
    scanString '"' ('\\' :: (signs ++ rest)) =
      (scanString '"' rest).map fun (raw, length) => ('\\' :: (signs ++ raw), length + (signs.length + 1)) := by
  cases h with
  | named _ =>
    simp only [List.cons_append, List.nil_append]
    exact scanString_backslash _ rest
  | numbered hquad =>
    simp only [List.cons_append, List.nil_append]
    rw [scanString_backslash, scanString_quad hquad]
    cases scanString '"' rest <;> rfl
  | pair hquad hquad' =>
    simp only [List.cons_append, List.nil_append]
    rw [scanString_backslash, scanString_quad hquad, scanString_backslash, scanString_quad hquad']
    cases scanString '"' rest <;> rfl

/-- The signs of a string are scanned as they stand, up to its closing quote. -/
theorem scanString_literal {raw cs : List Char} (h : Literal raw cs) (more : List Char) :
    scanString '"' (raw ++ '"' :: more) = some (raw, raw.length + 1) := by
  induction h with
  | nil => simp [scanString]
  | plain hquote hbackslash _ _ ih => simp [scanString_plain hquote hbackslash, ih]
  | escaped hshape _ _ ih =>
    rw [List.cons_append, List.append_assoc, scanString_escape hshape, ih]
    simp
    omega

theorem readString_literal {raw cs : List Char} (h : Literal raw cs) (more : List Char) :
    readString '"' (raw ++ '"' :: more) = .ok (cs, raw.length + 2) := by
  rw [readString_eq, scanString_literal h]
  simp only [h.readString]

/-! ## Pieces -/

section

variable {zone : Zone} {text : List Char}

theorem Kept.expandFrom_append {last last' : Option Char} {signs rest : List Char}
    (h : Kept zone text (last, signs ++ rest) (last', rest)) :
    expandFrom zone text last (signs ++ rest) = (expandFrom zone text last' rest).map (signs ++ ·) := by
  obtain ⟨signs', hsigns, hexpand⟩ := h
  obtain rfl := List.append_cancel_right hsigns
  exact hexpand

/-- Expanding a text from behind a sign of structure keeps its first sign and gives a text of certain tokens. -/
def Tells (zone : Zone) (text : List Char) (last : Option Char) (cs : List Char) (ts : List Token) : Prop :=
  ∃ written, expandFrom zone text last cs = .ok written ∧ written.head? = cs.head? ∧
    ∀ p, (tokens .strict p written).map (·.2) = ts

theorem tells_nil (last : Option Char) : Tells zone text last [] [] := by
  refine ⟨[], by rw [expandFrom], rfl, fun p => by rw [tokens]; rfl⟩

theorem Tells.space {last : Option Char} {c : Char} {cs : List Char} {ts : List Token} (hc : Json.isSpace c = true)
    (h : Tells zone text last cs ts) : Tells zone text last (c :: cs) ts := by
  obtain ⟨written, hexpand, -, htokens⟩ := h
  refine ⟨c :: written, ?_, rfl, fun p => ?_⟩
  · rw [expandFrom_blank (Json.isBlank_of_isSpace hc), hexpand]
    rfl
  · rw [tokens, if_pos hc]
    exact htokens _

/-- A piece is written as one token, which is told by its signs and the first sign behind it. -/
theorem Tells.piece {last last' : Option Char} {c : Char} {cs signs rest : List Char} {n : ℕ} {token : Token}
    {ts : List Token} (hspace : Json.isSpace c = false)
    (hexpand : expandFrom zone text last (c :: cs) = (expandFrom zone text last' rest).map (c :: signs ++ ·))
    (hread : ∀ p written, written.head? = rest.head? → readToken .strict p (c :: (signs ++ written)) = (token, n))
    (hlength : n - 1 = signs.length) (hlast : token.isLast = false) (h : Tells zone text last' rest ts) :
    Tells zone text last (c :: cs) (token :: ts) := by
  obtain ⟨written, hwritten, hhead, htokens⟩ := h
  refine ⟨c :: (signs ++ written), by rw [hexpand, hwritten]; rfl, rfl, fun p => ?_⟩
  rw [tokens, if_neg (by simp [hspace]), hread p written hhead]
  simp [hlast, hlength, htokens]

/-! ## Tokens of JSON -/

/-- Behind a complete value of JSON no word goes on and no key ends. -/
theorem endsValue_of_reads {stack : List Json.Frame} {value data : Json} {p : ℕ} {cs : List Char}
    (h : Reads (.after stack value) ((tokens .strict p cs).map (·.2)) data) : EndsValue cs := by
  induction cs generalizing p with
  | nil => exact endsValue_nil
  | cons c cs ih =>
    rw [tokens] at h
    by_cases hspace : Json.isSpace c = true
    · rw [if_pos hspace] at h
      refine ⟨stopsAt_cons.2 (isBareChar_of_isSpace hspace), ?_⟩
      rw [nextSign, skipBlanks, List.dropWhile_cons_of_pos (Json.isBlank_of_isSpace hspace)]
      exact (ih h).sign
    · rw [if_neg hspace] at h
      -- behind a value the machine moves only at a comma or a closing sign
      obtain ⟨next, hmove⟩ : ∃ next, Moves (.after stack value) (readToken .strict p (c :: cs)).1 next := by
        dsimp only at h
        split at h <;> cases h <;> exact ⟨_, ‹_›⟩
      exact endsValue_sign cs (mem_of_closes rfl hmove.closes)

theorem isBareChar_of_isBareSign {c : Char} (h : isBareSign c = true) : isBareChar c = true := by
  simp only [isBareSign, Bool.or_eq_true, List.contains_eq_mem, decide_eq_true_eq] at h
  rcases h with halnum | hsign
  · have hascii : c.toNat < 128 := by
      simp only [Char.isAlphanum, Char.isAlpha, Char.isUpper, Char.isLower, Bool.or_eq_true, Bool.and_eq_true,
        decide_eq_true_eq, UInt32.le_iff_toNat_le] at halnum
      rcases halnum with (⟨-, hle⟩ | ⟨-, hle⟩) | hdigit
      · exact hle.trans_lt (by decide)
      · exact hle.trans_lt (by decide)
      · exact (Text.toNat_of_isDigit hdigit).2.trans_lt (by decide)
    simp [isBareChar, Text.isWordChar, hascii, halnum]
  · have hthree : ∀ d ∈ ['-', '+', '.'], isBareChar d = true := by simp [isBareChar, Text.isWordChar]
    exact hthree c hsign

/-- A string is decoded and written again. -/
theorem expandFrom_string (last : Option Char) {raw chars : List Char} (hraw : Literal raw chars) (more : List Char) :
    expandFrom zone text last ('"' :: (raw ++ '"' :: more)) =
      (expandFrom zone text (some '"') more).map (Json.writeText false chars ++ ·) := by
  have hpiece : readPiece zone text last '"' (raw ++ '"' :: more) =
      .ok ⟨Json.writeText false chars, '"', raw.length + 2⟩ := by
    rw [readPiece, if_pos (by simp), readString_literal hraw]
    rfl
  rw [expandFrom_piece (by decide) hpiece, Json.drop_string]

theorem Tells.string (last : Option Char) {raw chars more : List Char} {ts : List Token} (hraw : Literal raw chars)
    (h : Tells zone text (some '"') more ts) :
    Tells zone text last ('"' :: (raw ++ '"' :: more)) (.text (String.ofList chars) :: ts) := by
  have hexpand : expandFrom zone text last _ = _ := expandFrom_string last hraw more
  rw [Json.writeText_eq] at hexpand
  have hread (p : ℕ) (written : List Char) : readToken .strict p (Json.writeText false chars ++ written) = _ :=
    Json.readToken_writeText p chars written
  exact h.piece (by decide) hexpand (fun p written _ => hread p written)
    (by rw [Json.writeText_eq, List.length_cons, Nat.add_sub_cancel]) rfl

/-- A word or a number is kept in front of what ends its value. -/
theorem expandFrom_literal {p n : ℕ} (last : Option Char) {c : Char} {cs rest : List Char} {data : Json}
    (hsign : isSign c = false) (hread : readToken .strict p (c :: cs) = (.literal data, n)) (hrest : EndsValue rest) :
    ∃ last', expandFrom zone text last (c :: (bareRun cs ++ rest)) =
      (expandFrom zone text last' rest).map (c :: bareRun cs ++ ·) := by
  have hstart : startsBare c = true := by
    have hfirst := (Json.literal_of_readToken hsign hread rfl).1
    simpa [startsBare] using hfirst
  have hrun : ∀ d ∈ c :: bareRun cs, isBareChar d = true := by
    intro d hd
    rw [← Json.bareRun_cons (Json.isBareSign_of_readToken hsign hread rfl)] at hd
    exact isBareChar_of_isBareSign (List.mem_takeWhile_imp hd)
  obtain ⟨last', hkept⟩ : ∃ last', Kept zone text (last, c :: bareRun cs ++ rest) (last', rest) :=
    kept_bare last hstart hrun hrest
  exact ⟨last', hkept.expandFrom_append⟩

theorem Tells.literal {p n : ℕ} (last : Option Char) {c : Char} {cs : List Char} {data : Json} {ts : List Token}
    (hspace : Json.isSpace c = false) (hsign : isSign c = false)
    (hread : readToken .strict p (c :: cs) = (.literal data, n)) (hends : EndsValue (cs.drop (n - 1)))
    (h : ∀ last', Tells zone text last' (cs.drop (n - 1)) ts) :
    Tells zone text last (c :: cs) (.literal data :: ts) := by
  -- only the first character behind the literal matters, and it ends bare words
  have hstop {rest : List Char} (hrest : rest.head? = (cs.drop (n - 1)).head?) : StopsAt isBareSign rest := by
    intro d hd
    rw [hrest] at hd
    have hbare := hends.bare d hd
    cases hd' : isBareSign d with
    | false => rfl
    | true => rw [← hbare, isBareChar_of_isBareSign hd']
  obtain ⟨hcs, hlength, hlocal⟩ := Json.readToken_append hsign hread rfl (hstop rfl)
  obtain ⟨last', hexpand⟩ : ∃ last', expandFrom zone text last _ = (expandFrom zone text last' _).map _ :=
    expandFrom_literal last hsign hread hends
  rw [← hcs] at hexpand
  exact (h last').piece hspace hexpand (fun p written hwritten => hlocal p written (hstop hwritten)) hlength rfl

/-- A token is expanded to itself, where a literal has the end of a value behind it. -/
theorem Tells.token {p n : ℕ} (last : Option Char) {c : Char} {cs : List Char} {token : Token} {ts : List Token}
    (hspace : Json.isSpace c = false) (hread : readToken .strict p (c :: cs) = (token, n))
    (hlast : token.isLast = false) (hends : ∀ data, token = .literal data → EndsValue (cs.drop (n - 1)))
    (h : ∀ last', Tells zone text last' (cs.drop (n - 1)) ts) : Tells zone text last (c :: cs) (token :: ts) := by
  cases Json.tokenText_of_readToken hread hlast with
  | literal hsign => exact .literal last hspace hsign hread (hends _ rfl) h
  | sign hc hany =>
    have hexpand : expandFrom zone text last ([c] ++ cs) = _ := (kept_sign last cs hc).expandFrom_append
    exact (h (some c)).piece hspace hexpand (fun p written _ => hany p written) rfl hlast
  | string hc hcs hraw =>
    subst hc hcs
    rw [Json.drop_string] at h
    exact .string last hraw (h _)

/-- Text that the machine reads is expanded to text of the same tokens. -/
theorem tells_of_reads {state : Json.State} {data : Json} {p : ℕ} {cs : List Char} (last : Option Char)
    (h : Reads state ((tokens .strict p cs).map (·.2)) data) :
    Tells zone text last cs ((tokens .strict p cs).map (·.2)) := by
  fun_induction tokens .strict p cs generalizing state last with
  | case1 => exact tells_nil last
  | case2 p c cs hspace ih => exact (ih last h).space hspace
  -- a token that ends the reading moves no state, so the machine did not get that far
  | case3 p c cs hspace token n hread hlast =>
    cases h with
    | step hmove =>
      rw [hmove.isLast_eq_false] at hlast
      cases hlast
  | case4 p c cs hspace token n hread hlast ih =>
    cases h with
    | step hmove hrest =>
      refine .token last (Bool.not_eq_true _ ▸ hspace) hread hmove.isLast_eq_false ?_ fun last' => ih last' hrest
      rintro data rfl
      obtain ⟨stack, value, rfl⟩ := hmove.exists_after
      exact endsValue_of_reads hrest

/--
Strict JSON is expanded to JSON with the same tokens, so nothing in a string is taken for anything
else, every number and every word stands, and the data and the order of its keys are the same.
-/
theorem expand_of_parse (zone : Zone) {text : List Char} {data : Json} (h : Json.parse text = .ok data) :
    ∃ written, expand zone text = .ok written ∧ Json.parse written = .ok data ∧
      (tokens .strict 0 written).map (·.2) = (tokens .strict 0 text).map (·.2) := by
  rw [Json.parse, Json.parseWith] at h
  split at h
  · cases h
  rename_i hmark
  have hreads := Json.run_eq_ok.1 h
  obtain ⟨written, hexpand, hhead, htokens⟩ := tells_of_reads none hreads
  refine ⟨written, hexpand, ?_, htokens 0⟩
  rw [Json.parse, Json.parseWith, hhead, if_neg hmark, Json.run_eq_ok, htokens 0]
  exact hreads

/-- Braces, slashes, calls and escapes inside strings come back as they were. -/
theorem expand_of_parse_strings :
    Json.parse "\x7b\"ISODate(\": [\"/x: \\u007b\", -7, true]\x7d".toList =
      .ok (.obj [("ISODate(", .arr [.str "/x: \x7b", .int (-7), .bool true])]) ∧
    ∃ written, expand .utc "\x7b\"ISODate(\": [\"/x: \\u007b\", -7, true]\x7d".toList = .ok written ∧
      Json.parse written = .ok (.obj [("ISODate(", .arr [.str "/x: \x7b", .int (-7), .bool true])]) := by
  have hparse : Json.parse "\x7b\"ISODate(\": [\"/x: \\u007b\", -7, true]\x7d".toList =
      .ok (.obj [("ISODate(", .arr [.str "/x: \x7b", .int (-7), .bool true])]) := by cbv
  obtain ⟨written, hexpand, hwritten, -⟩ := expand_of_parse .utc hparse
  exact ⟨hparse, written, hexpand, hwritten⟩

end

end DocBrowser.Shorthand
