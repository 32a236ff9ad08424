import Mathlib
import DocBrowser.Navigator.Paint
import DocBrowser.Proofs.Json.Joined
import DocBrowser.Proofs.Navigator.Tidy
/-!
# The structure of a text

The brackets of a text in JSON are tokens of it, and so are its strings. A scan that knows of nothing but quotes and
backslashes finds the same: it is outside of strings at the brackets among the tokens and at no other bracket. The
text is cut into its tokens first, then each is scanned for itself, and no scan of a token leaves it within a string.
-/

namespace DocBrowser

open Selection (Place)

/-! ## Scans -/

namespace Paint

theorem placeAfter_append (place : Place) (cs rest : List Char) :
    placeAfter place (cs ++ rest) = placeAfter (placeAfter place cs) rest := List.foldl_append

/-- Without quotes a scan stays outside of strings. -/
theorem placeAfter_outside {cs : List Char} (h : '"' ∉ cs) : placeAfter .outside cs = .outside := by
  induction cs with
  | nil => rfl
  | cons c cs ih =>
    rw [List.mem_cons, not_or] at h
    show placeAfter (Place.outside.next c) cs = .outside
    rw [Place.next_outside (Ne.symm h.1), ih h.2]

end Paint

namespace Json

/-! ## What stands at a position -/

/-- Whether a token opens or closes an array or an object. -/
def Token.isBracket : Token → Bool
  | .openBrace | .closeBrace | .openBracket | .closeBracket => true
  | _ => false

/-- A bracket of the structure of a text stands at a position. -/
def BracketAt (text : List Char) (i : ℕ) : Prop :=
  ∃ token, (i, token) ∈ tokens .strict 0 text ∧ token.isBracket = true

/-- A position lies within a string of a text, from its opening quote to its closing one. -/
def InString (text : List Char) (i : ℕ) : Prop :=
  ∃ start value, (start, .text value) ∈ tokens .strict 0 text ∧ start ≤ i ∧
    i < start + (readToken .strict start (text.drop start)).2

/-! ## Scans within strings -/

open Paint (placeAfter placeAfter_append placeAfter_outside isBracket)

/-- A scan gets from a place to another one without leaving the string, in which there are no control characters. -/
inductive StaysInside : Place → List Char → Place → Prop where
  | nil (place : Place) : StaysInside place [] place
  | cons {place final : Place} {c : Char} {cs : List Char} (inside : place ≠ .outside) (visible : 32 ≤ c.toNat)
    (rest : StaysInside (place.next c) cs final) : StaysInside place (c :: cs) final

namespace StaysInside

variable {place middle final : Place} {cs rest : List Char}

theorem append (h : StaysInside place cs middle) (hrest : StaysInside middle rest final) :
    StaysInside place (cs ++ rest) final := by
  induction h with
  | nil => exact hrest
  | cons hinside hvisible _ ih => exact .cons hinside hvisible (ih hrest)

theorem placeAfter_eq (h : StaysInside place cs final) : placeAfter place cs = final := by
  induction h with
  | nil => rfl
  | cons _ _ _ ih => exact ih

theorem getElem? (h : StaysInside place cs final) {i : ℕ} {c : Char} (hi : cs[i]? = some c) :
    placeAfter place (cs.take i) ≠ .outside ∧ 32 ≤ c.toNat := by
  induction h generalizing i with
  | nil => cases hi
  | cons hinside hvisible _ ih =>
    cases i with
    | zero =>
      cases hi
      exact ⟨hinside, hvisible⟩
    | succ i => exact ih hi

/-- What neither closes a string nor escapes anything keeps a scan inside. -/
theorem plain {c : Char} (hquote : c ≠ '"') (hbackslash : c ≠ '\\') (hvisible : 32 ≤ c.toNat)
    (h : StaysInside .inside cs final) : StaysInside .inside (c :: cs) final := by
  rw [← Place.next_inside hquote hbackslash] at h
  exact .cons (by decide) hvisible h

theorem hexDigit {c : Char} {n : ℕ} (hc : Text.hexDigit? c = some n) (h : StaysInside .inside cs final) :
    StaysInside .inside (c :: cs) final := by
  refine plain ?_ ?_ ?_ h
  · rintro rfl
    cases hc
  · rintro rfl
    cases hc
  · exact le_toNat_of_hexDigit? hc

theorem hexQuad {a b c d : Char} {n : ℕ} (hquad : hexQuad? a b c d = some n) (h : StaysInside .inside cs final) :
    StaysInside .inside (a :: b :: c :: d :: cs) final := by
  obtain ⟨⟨w, ha⟩, ⟨x, hb⟩, ⟨y, hc⟩, ⟨z, hd⟩, -⟩ := by
    simpa only [List.forall_mem_cons] using exists_hexDigit?_of_hexQuad? hquad
  exact hexDigit ha (hexDigit hb (hexDigit hc (hexDigit hd h)))

end StaysInside

/-- The sign behind a backslash is passed over, and none behind it in the same escape is special. -/
theorem Escape.staysInside {signs : List Char} (h : Escape signs) : StaysInside .escaped signs .inside := by
  cases h with
  | named hname => exact .cons (by decide) (le_toNat_of_namedEscape? hname) (.nil _)
  | numbered hquad => exact .cons (by decide) (by decide) (.hexQuad hquad (.nil _))
  | pair hquad hquad' =>
    refine .cons (by decide) (by decide) (.hexQuad hquad ?_)
    exact .cons (by decide) (by decide) (.cons (by decide) (by decide) (.hexQuad hquad' (.nil _)))

/-- Between the quotes of a string a scan stays inside. -/
theorem Literal.staysInside {raw cs : List Char} (h : Literal raw cs) : StaysInside .inside raw .inside := by
  induction h with
  | nil => exact .nil _
  | plain hquote hbackslash hcontrol _ ih => exact ih.plain hquote hbackslash (not_lt.1 hcontrol)
  | escaped hshape _ _ ih => exact .cons (by decide) (by decide) (hshape.staysInside.append ih)

/-! ## Scanned tokens -/

/--
A scan of the signs of a token from outside of strings ends there. It is outside at a bracket only if that is all of
the token, and inside, or at the opening quote, only if the token is a string.
-/
structure Scanned (token : Token) (signs : List Char) : Prop where
  ne_nil : signs ≠ []
  closed : placeAfter .outside signs = .outside
  bracket : ∀ i c, signs[i]? = some c →
    (token.isBracket = true ∧ i = 0 ↔ placeAfter .outside (signs.take i) = .outside ∧ isBracket c = true)
  string : ∀ i c, signs[i]? = some c →
    ((∃ value, token = .text value) ↔ placeAfter .outside (signs.take i) ≠ .outside ∨ c = '"')
  visible : ∀ i c, signs[i]? = some c → placeAfter .outside (signs.take i) ≠ .outside → 32 ≤ c.toNat

/-- Without quotes there is nothing to scan. -/
theorem scanned_of_not_mem {token : Token} {signs : List Char} (hne : signs ≠ []) (hquote : '"' ∉ signs)
    (htoken : ∀ value, token ≠ .text value)
    (hbracket : ∀ i c, signs[i]? = some c → (token.isBracket = true ∧ i = 0 ↔ isBracket c = true)) :
    Scanned token signs := by
  -- without a quote the scan never enters a string
  have hplace (i : ℕ) : placeAfter .outside (signs.take i) = .outside :=
    placeAfter_outside fun hmem => hquote (List.mem_of_mem_take hmem)
  constructor
  case ne_nil => exact hne
  case closed => exact placeAfter_outside hquote
  case bracket =>
    intro i c hi
    rw [hbracket i c hi, hplace i]
    simp
  case string =>
    intro i c hi
    have hc : c ≠ '"' := by
      rintro rfl
      exact hquote (List.mem_of_getElem? hi)
    simp [hplace i, hc, htoken]
  case visible =>
    intro i c _ hinside
    exact absurd (hplace i) hinside

theorem scanned_string {raw cs : List Char} (h : Literal raw cs) :
    Scanned (.text (String.ofList cs)) ('"' :: (raw ++ ['"'])) := by
  have hraw := h.staysInside
  have hinside {i : ℕ} {c : Char} (hi : (raw ++ ['"'])[i]? = some c) :
      placeAfter .outside (('"' :: (raw ++ ['"'])).take (i + 1)) ≠ .outside ∧ 32 ≤ c.toNat := by
    have hclosing : StaysInside .inside ['"'] .outside := .cons (by decide) (by decide) (.nil _)
    exact (hraw.append hclosing).getElem? hi
  constructor
  case ne_nil => simp
  case closed =>
    show placeAfter .inside (raw ++ ['"']) = .outside
    rw [placeAfter_append, hraw.placeAfter_eq]
    rfl
  -- the opening quote is the only sign at which the scan is still outside
  case bracket =>
    intro i c hi
    cases i with
    | zero =>
      cases hi
      simp [Token.isBracket, isBracket]
    | succ i => exact ⟨fun h => absurd h.1 Bool.false_ne_true, fun h => absurd h.1 (hinside hi).1⟩
  case string =>
    intro i c hi
    refine ⟨fun _ => ?_, fun _ => ⟨_, rfl⟩⟩
    cases i with
    | zero =>
      cases hi
      exact .inr rfl
    | succ i => exact .inl (hinside hi).1
  case visible =>
    intro i c hi houtside
    cases i with
    | zero => exact absurd rfl houtside
    | succ i => exact (hinside hi).2

/-- A sign of structure is scanned as it is. -/
theorem scanned_sign {c : Char} (hc : c ∈ ['\x7b', '\x7d', '[', ']', ':', ',']) {p n : ℕ} {rest : List Char}
    {token : Token} (hread : readToken .strict p (c :: rest) = (token, n)) : n = 1 ∧ Scanned token [c] := by
  have hone {d : Char} {i : ℕ} {e : Char} (h : [d][i]? = some e) : i = 0 ∧ e = d := by
    cases i with
    | zero => exact ⟨rfl, (Option.some.inj h).symm⟩
    | succ i => cases h
  simp only [List.mem_cons, List.not_mem_nil, or_false] at hc
  rcases hc with rfl | rfl | rfl | rfl | rfl | rfl <;> cases hread <;>
    refine ⟨rfl, scanned_of_not_mem (by simp) (by decide) (by simp) fun i e hi => ?_⟩ <;>
    obtain ⟨rfl, rfl⟩ := hone hi <;> decide

theorem isSign_of_isBracket {c : Char} (h : isBracket c = true) : isSign c = true := by
  simp only [isBracket, Bool.or_eq_true, decide_eq_true_eq] at h
  rcases h with ((rfl | rfl) | rfl) | rfl <;> rfl

/-- A word or a number has at least one sign. -/
theorem pos_of_readToken {c : Char} {cs : List Char} {p n : ℕ} {token : Token} (hsign : isSign c = false)
    (hread : readToken .strict p (c :: cs) = (token, n)) (hlast : token.isLast = false) : 0 < n := by
  rcases readToken_cases hsign hread hlast with ⟨word, hword, rfl⟩ | ⟨number, hnumber, -, rfl⟩
  · have hmem := List.mem_of_find?_eq_some hword
    simp only [wordTokens, List.mem_cons, Prod.mk.injEq, List.not_mem_nil, or_false] at hmem
    rcases hmem with ⟨rfl, -⟩ | ⟨rfl, -⟩ | ⟨rfl, -⟩ | ⟨rfl, -⟩ | ⟨rfl, -⟩ | ⟨rfl, -⟩ <;> decide
  · rw [numeral?_eq] at hnumber
    split at hnumber <;> cases hnumber
    have hwhole := List.length_pos_iff.2 ‹wholeDigits _ ≠ []›
    dsimp only
    omega

theorem scanned_bare {c : Char} {cs : List Char} {p n : ℕ} {token : Token} (hsign : isSign c = false)
    (hread : readToken .strict p (c :: cs) = (token, n)) (hlast : token.isLast = false) :
    Scanned token ((c :: cs).take n) := by
  obtain ⟨-, data, rfl⟩ := literal_of_readToken hsign hread hlast
  have hpos := pos_of_readToken hsign hread hlast
  -- a word or a number lies within a run of signs that are neither quotes nor brackets
  have hbare : ∀ d ∈ (c :: cs).take n, isSign d = false := by
    have hrun : (c :: cs).take n <+: bareRun (c :: cs) := by
      have hprefix := List.takeWhile_prefix isBareSign (l := c :: cs)
      exact List.prefix_of_prefix_length_le (List.take_prefix _ _) hprefix
        ((List.length_take_le _ _).trans (le_length_bareRun hsign hread hlast))
    exact fun d hd => isSign_of_isBareSign (List.mem_takeWhile_imp (hrun.subset hd))
  refine scanned_of_not_mem (by simp; omega) (fun hmem => absurd (hbare _ hmem) (by decide)) (by simp) fun i d hi => ?_
  have hd : isBracket d = false := by
    refine Bool.eq_false_iff.2 fun hbracket => ?_
    have hsign := hbare d (List.mem_of_getElem? hi)
    rw [isSign_of_isBracket hbracket] at hsign
    cases hsign
  simp [Token.isBracket, hd]

/-- A token that does not end the reading is scanned from its signs. -/
theorem exists_scanned {c : Char} {cs : List Char} {p n : ℕ} {token : Token}
    (hread : readToken .strict p (c :: cs) = (token, n)) (hlast : token.isLast = false) :
    ∃ signs rest, c :: cs = signs ++ rest ∧ n = signs.length ∧ Scanned token signs := by
  cases tokenText_of_readToken hread hlast with
  | literal hsign =>
    have hle := le_length_bareRun hsign hread hlast
    have hrun := (List.takeWhile_sublist isBareSign (l := c :: cs)).length_le
    refine ⟨_, _, (List.take_append_drop n (c :: cs)).symm, ?_, scanned_bare hsign hread hlast⟩
    rw [List.length_take, min_eq_left (hle.trans hrun)]
  | sign hc => exact ⟨[c], cs, rfl, rfl, (scanned_sign hc hread).2⟩
  | @string raw chars more hc hcs hraw =>
    subst hc hcs
    exact ⟨'"' :: (raw ++ ['"']), more, by simp, by simp, scanned_string hraw⟩

/-! ## A text cut into tokens -/

/-- A text from a position on is white space and tokens that are scanned one after the other. -/
inductive Pieces : ℕ → List Char → List (ℕ × Token) → Prop where
  | nil (p : ℕ) : Pieces p [] []
  | space {p : ℕ} {c : Char} {cs : List Char} {ts : List (ℕ × Token)} (space : isSpace c = true)
    (rest : Pieces (p + 1) cs ts) : Pieces p (c :: cs) ts
  | token {p : ℕ} {signs cs : List Char} {token : Token} {ts : List (ℕ × Token)} (scanned : Scanned token signs)
    (read : (readToken .strict p (signs ++ cs)).2 = signs.length) (rest : Pieces (p + signs.length) cs ts) :
    Pieces p (signs ++ cs) ((p, token) :: ts)

/-- A token of a text from a position on: a scan is outside of strings in front of its signs. -/
structure Piece (p : ℕ) (cs : List Char) (ts : List (ℕ × Token)) (before signs after : List Char) (token : Token) :
    Prop where
  whole : cs = before ++ (signs ++ after)
  mem : (p + before.length, token) ∈ ts
  scanned : Scanned token signs
  read : (readToken .strict (p + before.length) (signs ++ after)).2 = signs.length
  outside : placeAfter .outside before = .outside

theorem next_outside_of_isSpace {c : Char} (hc : isSpace c = true) : Place.outside.next c = .outside := by
  refine Place.next_outside ?_
  rintro rfl
  exact absurd hc (by decide)

section

variable {p i : ℕ} {c : Char} {cs before signs after : List Char} {ts : List (ℕ × Token)} {token : Token}

theorem Piece.cons_space (hc : isSpace c = true) (h : Piece (p + 1) cs ts before signs after token) :
    Piece p (c :: cs) ts (c :: before) signs after token := by
  have hposition : p + (c :: before).length = p + 1 + before.length := by
    rw [List.length_cons]
    omega
  refine ⟨congrArg (c :: ·) h.whole, by rw [hposition]; exact h.mem, h.scanned, by rw [hposition]; exact h.read, ?_⟩
  show placeAfter (Place.outside.next c) before = .outside
  rw [next_outside_of_isSpace hc, h.outside]

theorem Piece.cons_token {first : List Char} {head : Token} (hfirst : placeAfter .outside first = .outside)
    (h : Piece (p + first.length) cs ts before signs after token) :
    Piece p (first ++ cs) ((p, head) :: ts) (first ++ before) signs after token := by
  have hposition : p + (first ++ before).length = p + first.length + before.length := by
    rw [List.length_append]
    omega
  refine ⟨?_, ?_, h.scanned, by rw [hposition]; exact h.read, ?_⟩
  · rw [h.whole, List.append_assoc]
  · rw [hposition]
    exact List.mem_cons_of_mem _ h.mem
  · rw [placeAfter_append, hfirst, h.outside]

/-- Each token is a piece of the text. -/
theorem Pieces.exists_piece {start : ℕ} (h : Pieces p cs ts) (hmem : (start, token) ∈ ts) :
    ∃ before signs after, Piece p cs ts before signs after token ∧ start = p + before.length := by
  induction h with
  | nil => cases hmem
  | space hc _ ih =>
    obtain ⟨before, signs, after, hpiece, rfl⟩ := ih hmem
    exact ⟨_, signs, after, hpiece.cons_space hc, by rw [List.length_cons]; omega⟩
  | token hscanned hread _ ih =>
    rcases List.mem_cons.1 hmem with hhead | hmem
    · cases hhead
      exact ⟨[], _, _, ⟨rfl, List.mem_cons_self, hscanned, hread, rfl⟩, rfl⟩
    · obtain ⟨before, signs, after, hpiece, rfl⟩ := ih hmem
      exact ⟨_, signs, after, hpiece.cons_token hscanned.closed, by rw [List.length_append]; omega⟩

/-- Each sign is white space outside of strings or one of the signs of a token. -/
theorem Pieces.cover (h : Pieces p cs ts) (hi : cs[i]? = some c) :
    (isSpace c = true ∧ placeAfter .outside (cs.take i) = .outside) ∨
      ∃ before signs after token, Piece p cs ts before signs after token ∧
        before.length ≤ i ∧ i < before.length + signs.length := by
  induction h generalizing i with
  | nil => cases hi
  | space hc _ ih =>
    cases i with
    | zero =>
      cases hi
      exact .inl ⟨hc, rfl⟩
    | succ i =>
      rcases ih hi with ⟨hspace, houtside⟩ | ⟨before, signs, after, token, hpiece, hfrom, hto⟩
      · refine .inl ⟨hspace, ?_⟩
        show placeAfter (Place.outside.next _) _ = .outside
        rw [next_outside_of_isSpace hc, houtside]
      · refine .inr ⟨_, signs, after, token, hpiece.cons_space hc, ?_, ?_⟩ <;> rw [List.length_cons] <;> omega
  | @token p first cs head ts hscanned hread _ ih =>
    -- a sign of the first token is its own, and behind that token the scan is outside again
    by_cases hlt : i < first.length
    · exact .inr ⟨[], first, cs, head, ⟨rfl, List.mem_cons_self, hscanned, hread, rfl⟩, Nat.zero_le i, by simpa⟩
    · have hle := not_lt.1 hlt
      rw [List.getElem?_append_right hle] at hi
      rcases ih hi with ⟨hspace, houtside⟩ | ⟨before, signs, after, token, hpiece, hfrom, hto⟩
      · refine .inl ⟨hspace, ?_⟩
        rw [List.take_append, List.take_of_length_le hle, placeAfter_append, hscanned.closed, houtside]
      · refine .inr ⟨_, signs, after, token, hpiece.cons_token hscanned.closed, ?_, ?_⟩ <;>
          rw [List.length_append] <;> omega

/-- Within a token a scan of the whole text is where a scan of the token is. -/
theorem Piece.getElem? (h : Piece p cs ts before signs after token) (hi : cs[i]? = some c) (hfrom : before.length ≤ i)
    (hto : i < before.length + signs.length) :
    signs[i - before.length]? = some c ∧
      placeAfter .outside (cs.take i) = placeAfter .outside (signs.take (i - before.length)) := by
  rw [h.whole] at hi ⊢
  rw [List.getElem?_append_right hfrom, List.getElem?_append_left (by omega)] at hi
  refine ⟨hi, ?_⟩
  rw [List.take_append, List.take_of_length_le hfrom, List.take_append_of_le_length (by omega), placeAfter_append,
    h.outside]

end

/-- Where no token ends the reading, the text is cut into its tokens. -/
theorem pieces_tokens (p : ℕ) (cs : List Char) (h : ∀ entry ∈ tokens .strict p cs, entry.2.isLast = false) :
    Pieces p cs (tokens .strict p cs) := by
  fun_induction tokens .strict p cs with
  | case1 p => exact .nil p
  | case2 p c cs hspace ih => exact .space hspace (ih h)
  | case3 p c cs hspace token length hread hlast =>
    have hmore := h (p, token) (by simp)
    simp [hlast] at hmore
  | case4 p c cs hspace token length hread hlast ih =>
    obtain ⟨signs, rest, hcs, rfl, hscanned⟩ := exists_scanned hread (h (p, token) (by simp))
    obtain ⟨sign, signs, rfl⟩ := List.exists_cons_of_ne_nil hscanned.ne_nil
    rw [List.cons_append, List.cons.injEq] at hcs
    obtain ⟨rfl, rfl⟩ := hcs
    -- the reading goes on behind the signs that were scanned
    have hdrop : (signs ++ rest).drop ((c :: signs).length - 1) = rest := by simp
    rw [hdrop] at ih h ⊢
    have hlength : (readToken .strict p (c :: signs ++ rest)).2 = (c :: signs).length := by
      rw [List.cons_append, hread]
    exact .token hscanned hlength (ih fun entry hentry => h entry (List.mem_cons_of_mem _ hentry))

/-- The tokens of text that is read do not end the reading. -/
theorem pieces_of_parse {text : List Char} {data : Json} (h : parse text = .ok data) :
    Pieces 0 text (tokens .strict 0 text) := by
  have hruns := reads_iff_runs.1 (parse_eq_ok.1 h).2
  exact pieces_tokens 0 text fun entry hentry => hruns.isLast_eq_false _ (List.mem_map_of_mem hentry)

/-! ## Brackets and strings of a text -/

section

variable {text : List Char} {data : Json} (hparse : parse text = .ok data) {i : ℕ} {c : Char} (hi : text[i]? = some c)

include hparse hi

/-- The brackets of the structure are those at which a scan of the text is outside of strings. -/
theorem bracketAt_iff : BracketAt text i ↔ placeAfter .outside (text.take i) = .outside ∧ isBracket c = true := by
  constructor
  · rintro ⟨token, hmem, hbracket⟩
    obtain ⟨before, signs, after, hpiece, hstart⟩ := (pieces_of_parse hparse).exists_piece hmem
    -- a bracket is the first sign of its token, where the scan is still outside
    have hsigns := List.length_pos_iff.2 hpiece.scanned.ne_nil
    obtain ⟨hj, hplace⟩ := hpiece.getElem? hi (by omega) (by omega)
    rw [hplace]
    exact (hpiece.scanned.bracket _ c hj).1 ⟨hbracket, by omega⟩
  · rintro ⟨houtside, hbracket⟩
    rcases (pieces_of_parse hparse).cover hi with ⟨hspace, -⟩ | ⟨before, signs, after, token, hpiece, hfrom, hto⟩
    · simp only [isSpace, isBracket, Bool.or_eq_true, decide_eq_true_eq] at hspace hbracket
      rcases hspace with ((rfl | rfl) | rfl) | rfl <;> exact absurd hbracket (by decide)
    · obtain ⟨hj, hplace⟩ := hpiece.getElem? hi hfrom hto
      rw [hplace] at houtside
      obtain ⟨htoken, hzero⟩ := (hpiece.scanned.bracket _ c hj).2 ⟨houtside, hbracket⟩
      have hmem := hpiece.mem
      rw [show 0 + before.length = i by omega] at hmem
      exact ⟨token, hmem, htoken⟩

/-- A scan of the text is inside of strings where the strings of the text are, but for their opening quotes. -/
theorem inString_iff : InString text i ↔ placeAfter .outside (text.take i) ≠ .outside ∨ c = '"' := by
  constructor
  · rintro ⟨start, value, hmem, hfrom, hto⟩
    obtain ⟨before, signs, after, hpiece, rfl⟩ := (pieces_of_parse hparse).exists_piece hmem
    have hread := hpiece.read
    rw [hpiece.whole, Nat.zero_add, List.drop_left] at hto
    rw [Nat.zero_add] at hfrom hread
    rw [hread] at hto
    obtain ⟨hj, hplace⟩ := hpiece.getElem? hi hfrom hto
    rw [hplace]
    exact (hpiece.scanned.string _ c hj).1 ⟨value, rfl⟩
  · -- the pieces cover the text but for blanks, which stand outside of strings
    intro h
    rcases (pieces_of_parse hparse).cover hi with ⟨hspace, houtside⟩ | ⟨before, signs, after, token, hpiece, hfrom, hto⟩
    · obtain rfl := h.resolve_left (not_not_intro houtside)
      exact absurd hspace (by decide)
    · obtain ⟨hj, hplace⟩ := hpiece.getElem? hi hfrom hto
      rw [hplace] at h
      obtain ⟨value, rfl⟩ := (hpiece.scanned.string _ c hj).2 h
      have hmem := hpiece.mem
      have hread := hpiece.read
      rw [Nat.zero_add] at hmem hread
      refine ⟨before.length, value, hmem, hfrom, ?_⟩
      rw [hpiece.whole, List.drop_left, hread]
      exact hto

/-- There are no control characters within strings. -/
theorem le_toNat_of_placeAfter_ne (h : placeAfter .outside (text.take i) ≠ .outside) : 32 ≤ c.toNat := by
  rcases (pieces_of_parse hparse).cover hi with ⟨-, houtside⟩ | ⟨before, signs, after, token, hpiece, hfrom, hto⟩
  · exact absurd houtside h
  · obtain ⟨hj, hplace⟩ := hpiece.getElem? hi hfrom hto
    rw [hplace] at h
    exact hpiece.scanned.visible _ c hj h

/-- The brackets of the structure are those outside of the strings. -/
theorem bracketAt_iff_not_inString : BracketAt text i ↔ isBracket c = true ∧ ¬ InString text i := by
  rw [bracketAt_iff hparse hi, inString_iff hparse hi, not_or, not_not]
  constructor
  · rintro ⟨houtside, hbracket⟩
    refine ⟨hbracket, houtside, ?_⟩
    rintro rfl
    exact absurd hbracket (by decide)
  · rintro ⟨hbracket, houtside, -⟩
    exact ⟨houtside, hbracket⟩

end

end Json

end DocBrowser
