import Mathlib
import DocBrowser.Proofs.Query.Pieces
/-!
# Strings in either kind of quotes

A string may stand between double or between single quotes. Between single quotes an apostrophe takes a
backslash, a double quote needs none, and all else is written as between double quotes, so both ways of writing
are read as the same characters. What a piece is read as depends on its own signs only, so a string that the
reader comes to may be written either way and the text stands for the same document.
-/

namespace DocBrowser.Shorthand

open Json (Literal hexQuad? namedEscape?)
open Text (StopsAt stopsAt_cons)

/-! ## Spellings -/

/--
The ways to write a character between quotes: as it stands, by a letter or by four digits behind a backslash, or by
the digits of a surrogate pair. Between single quotes an apostrophe is written behind a backslash.
-/
inductive SpelledChar (quote : Char) : Char → List Char → Prop where
  | plain {c : Char} (ne : c ≠ quote) (backslash : c ≠ '\\') (control : 32 ≤ c.toNat) : SpelledChar quote c [c]
  | apostrophe (single : quote = '\'') : SpelledChar quote '\'' ['\\', '\'']
  | named {c letter : Char} (name : namedEscape? letter = some c) : SpelledChar quote c ['\\', letter]
  | numbered {c w x y z : Char} (quad : hexQuad? w x y z = some c.toNat) : SpelledChar quote c ['\\', 'u', w, x, y, z]
  | pair {c w x y z w' x' y' z' : Char} {high low : ℕ} (quad : hexQuad? w x y z = some high)
    (quad' : hexQuad? w' x' y' z' = some low) (isHigh : 0xD800 ≤ high ∧ high ≤ 0xDBFF)
    (isLow : 0xDC00 ≤ low ∧ low ≤ 0xDFFF) (value : c.toNat = 0x10000 + (high - 0xD800) * 1024 + (low - 0xDC00)) :
    SpelledChar quote c ['\\', 'u', w, x, y, z, '\\', 'u', w', x', y', z']

/-- What stands between the quotes of a string, and the characters of the string. -/
inductive Spelled (quote : Char) : List Char → List Char → Prop where
  | nil : Spelled quote [] []
  | cons {c : Char} {signs raw cs : List Char} (first : SpelledChar quote c signs) (others : Spelled quote raw cs) :
    Spelled quote (signs ++ raw) (c :: cs)

section

variable {quote : Char}

theorem scanString_escaped {letter : Char} (h : letter ≠ '\'') (rest : List Char) :
    scanString quote ('\\' :: letter :: rest) =
      (scanString quote rest).map fun (raw, length) => ('\\' :: letter :: raw, length + 2) := by
  rw [scanString, if_neg (by simp [h])]
  rfl

variable (hquote : isQuote quote = true)

include hquote

theorem scanString_hexDigit {c : Char} {n : ℕ} (h : Text.hexDigit? c = some n) (rest : List Char) :
    scanString quote (c :: rest) = (scanString quote rest).map fun (raw, length) => (c :: raw, length + 1) := by
  obtain ⟨hdouble, hbackslash⟩ := ne_of_hexDigit? h
  have hsingle : c ≠ '\'' := by
    rintro rfl
    cases h
  have hne : c ≠ quote := by
    simp only [isQuote, Bool.or_eq_true, decide_eq_true_eq] at hquote
    rcases hquote with rfl | rfl
    · exact hdouble
    · exact hsingle
  rw [scanString_of_ne hbackslash, if_neg hne, if_neg (by simp [hdouble])]
  rfl

theorem scanString_numbered {w x y z : Char} {n : ℕ} (h : hexQuad? w x y z = some n) (rest : List Char) :
    scanString quote ('\\' :: 'u' :: w :: x :: y :: z :: rest) =
      (scanString quote rest).map fun (raw, length) => ('\\' :: 'u' :: w :: x :: y :: z :: raw, length + 6) := by
  obtain ⟨_, hw, h⟩ := Option.bind_eq_some_iff.1 h
  obtain ⟨_, hx, h⟩ := Option.bind_eq_some_iff.1 h
  obtain ⟨_, hy, h⟩ := Option.bind_eq_some_iff.1 h
  obtain ⟨_, hz, -⟩ := Option.bind_eq_some_iff.1 h
  rw [scanString_escaped (by decide), scanString_hexDigit hquote hw, scanString_hexDigit hquote hx,
    scanString_hexDigit hquote hy, scanString_hexDigit hquote hz]
  cases scanString quote rest <;> rfl

/-- A character of a string is scanned as a way to write it between double quotes. -/
theorem SpelledChar.exists_scanString {c : Char} {signs : List Char} (h : SpelledChar quote c signs) :
    ∃ piece, (∀ rest, scanString quote (signs ++ rest) =
      (scanString quote rest).map fun (raw, length) => (piece ++ raw, length + signs.length)) ∧
      ∀ raw cs, Literal raw cs → Literal (piece ++ raw) (c :: cs) := by
  have hnamed {letter : Char} (h : namedEscape? letter = some c) (raw cs : List Char) (hraw : Literal raw cs) :
      Literal (['\\', letter] ++ raw) (c :: cs) :=
    .escaped (.named h) (fun start position more => Json.readEscape_named h start position _) hraw
  cases h with
  | plain hne hbackslash hcontrol =>
    refine ⟨if quote = '\'' ∧ c = '"' then ['\\', '"'] else [c], fun rest => ?_, fun raw cs hraw => ?_⟩
    · rw [List.singleton_append, scanString_of_ne hbackslash, if_neg hne]
      rfl
    · split_ifs with hbare
      · exact hnamed (by rw [hbare.2]; rfl) raw cs hraw
      · -- a double quote that stands as it is stands between single quotes
        have hdouble : c ≠ '"' := by
          rintro rfl
          simp only [isQuote, Bool.or_eq_true, decide_eq_true_eq] at hquote
          exact hquote.elim (fun heq => hne heq.symm) fun heq => hbare ⟨heq, rfl⟩
        exact .plain hdouble hbackslash (by omega) hraw
  | apostrophe hsingle =>
    refine ⟨['\''], fun rest => ?_, fun raw cs hraw => .plain (by decide) (by decide) (by decide) hraw⟩
    simp only [List.cons_append, List.nil_append]
    rw [scanString, if_pos ⟨hsingle, rfl⟩]
    rfl
  | @named _ letter hname =>
    have hletter : letter ≠ '\'' := by
      rintro rfl
      simp [namedEscape?] at hname
    exact ⟨['\\', letter], fun rest => scanString_escaped hletter rest, hnamed hname⟩
  | @numbered _ w x y z hquad =>
    exact ⟨['\\', 'u', w, x, y, z], fun rest => scanString_numbered hquote hquad rest, fun _ _ hraw => hraw.quad hquad⟩
  | @pair _ w x y z w' x' y' z' _ _ hquad hquad' hhigh hlow hvalue =>
    refine ⟨['\\', 'u', w, x, y, z, '\\', 'u', w', x', y', z'], fun rest => ?_,
      fun _ _ hraw => hraw.surrogates hquad hquad' hhigh hlow hvalue⟩
    simp only [List.cons_append, List.nil_append]
    rw [scanString_numbered hquote hquad, scanString_numbered hquote hquad']
    cases scanString quote rest <;> rfl

/-- What stands between quotes is scanned as what stands between double quotes for the same characters. -/
theorem Spelled.exists_scanString {raw cs : List Char} (h : Spelled quote raw cs) :
    ∃ inner, Literal inner cs ∧ ∀ rest, scanString quote (raw ++ quote :: rest) = some (inner, raw.length + 1) := by
  induction h with
  | nil =>
    refine ⟨[], .nil, fun rest => ?_⟩
    rw [List.nil_append, scanString_of_ne (ne_backslash_of_isQuote hquote), if_pos rfl]
    rfl
  | @cons c signs raw cs hfirst _ ih =>
    obtain ⟨piece, hscan, hliteral⟩ := hfirst.exists_scanString hquote
    obtain ⟨inner, hinner, hothers⟩ := ih
    refine ⟨piece ++ inner, hliteral _ _ hinner, fun rest => ?_⟩
    rw [List.append_assoc, hscan, hothers]
    simp only [Option.map_some, List.length_append]
    congr 2
    omega

/-- A string is read as its characters, up to its closing quote and whatever follows. -/
theorem Spelled.readString {raw cs : List Char} (h : Spelled quote raw cs) (rest : List Char) :
    readString quote (raw ++ quote :: rest) = .ok (cs, raw.length + 2) := by
  obtain ⟨inner, hinner, hscan⟩ := h.exists_scanString hquote
  rw [readString_eq, hscan]
  simp only [hinner.readString]

end

/-! ## Pieces that end in front of a text -/

section

variable {cs rest more : List Char} {sign : Char}

theorem skipBlanks_of_append (h : skipBlanks (cs ++ rest) = sign :: more) (hle : rest.length ≤ more.length) :
    ∃ more', more = more' ++ rest ∧ skipBlanks cs = sign :: more' := by
  cases hskip : skipBlanks cs with
  | nil =>
    rw [skipBlanks_append_of_eq_nil hskip] at h
    have hlength := length_skipBlanks_le rest
    rw [h, List.length_cons] at hlength
    omega
  | cons c tail =>
    rw [skipBlanks_append hskip] at h
    cases h
    exact ⟨tail, rfl, rfl⟩

theorem length_le_of_skipBlanks_drop {c : Char} {behind : List Char} {n : ℕ}
    (h : skipBlanks ((c :: more).drop n) = sign :: behind) : behind.length ≤ more.length := by
  have hlength := length_skipBlanks_le ((c :: more).drop n)
  rw [h] at hlength
  simp only [List.length_cons, List.length_drop] at hlength
  omega

section

variable (hrest : StopsAt isBareChar rest)

include hrest

/-- An argument with a sign behind it in front of a text is found without that text. -/
theorem argument_of_append {c : Char} {argument : Argument} {n : ℕ}
    (hread : readArgument (c :: (cs ++ rest)) = .ok (argument, n))
    (hsign : skipBlanks ((c :: (cs ++ rest)).drop n) = sign :: more) (hle : rest.length ≤ more.length) :
    ∃ more', more = more' ++ rest ∧ readArgument (c :: cs) = .ok (argument, n) ∧
      skipBlanks ((c :: cs).drop n) = sign :: more' := by
  -- `rest` is still to come behind the argument, so the argument lies in `cs`
  have hn : n ≤ cs.length := by
    have hlength := length_skipBlanks_le ((c :: (cs ++ rest)).drop n)
    rw [hsign] at hlength
    simp only [List.length_cons, List.length_drop, List.length_append] at hlength
    omega
  rw [← List.cons_append, List.drop_append_of_le_length (by simp; omega)] at hsign
  obtain ⟨more', hmore, hsign'⟩ := skipBlanks_of_append hsign hle
  exact ⟨more', hmore, (readArgument_append_iff hrest (Nat.le_succ_of_le hn)).1 hread, hsign'⟩

/-- The arguments of a call that ends in front of a text are read without that text. -/
theorem Arguments.of_append {isFirst : Bool} {whole after behind : List Char} {arguments : List Argument}
    (h : Arguments isFirst whole arguments after) (hwhole : whole = cs ++ rest) (hafter : after = behind ++ rest) :
    Arguments isFirst cs arguments behind := by
  induction h generalizing cs with
  | none hclose =>
    subst hwhole hafter
    obtain ⟨more, hmore, hclose'⟩ := skipBlanks_of_append hclose (by simp)
    cases List.append_cancel_right hmore
    exact .none hclose'
  | last hstart hsome hread hclose =>
    subst hwhole hafter
    obtain ⟨start, rfl, hstart'⟩ := skipBlanks_of_append hstart
      (le_trans (by simp) (length_le_of_skipBlanks_drop hclose))
    obtain ⟨more, hmore, hread', hclose'⟩ := argument_of_append hrest hread hclose (by simp)
    cases List.append_cancel_right hmore
    exact .last hstart' hsome hread' hclose'
  | @next _ _ _ more _ _ _ _ _ hstart hsome hread hcomma hothers ih =>
    subst hwhole hafter
    have hmore : rest.length ≤ more.length := by
      have hlength := hothers.suffix.length_le
      rw [List.length_append] at hlength
      omega
    obtain ⟨start, rfl, hstart'⟩ := skipBlanks_of_append hstart
      (hmore.trans (length_le_of_skipBlanks_drop hcomma))
    obtain ⟨more', rfl, hread', hcomma'⟩ := argument_of_append hrest hread hcomma hmore
    exact .next hstart' hsome hread' hcomma' (ih rfl rfl)

end

/-! ## Pieces in front of a text -/

section

variable {zone : Zone} {text : List Char} {last : Option Char} {c : Char} {piece : Piece} (hrest : EndsPiece rest)

include hrest

theorem readBare_of_append (h : readBare zone text last (c :: (cs ++ rest)) = .ok piece)
    (hle : piece.length - 1 ≤ cs.length) (text' : List Char) : readBare zone text' last (c :: cs) = .ok piece := by
  rw [readBare_eq_ok] at h ⊢
  rw [← List.cons_append] at h
  cases hcall : callAt? (c :: cs) with
  | some found =>
    obtain ⟨call, behind⟩ := found
    have hcall' := callAt?_append hrest (c :: cs)
    rw [hcall] at hcall'
    obtain ⟨arguments, after, written, hread, hexpand, rfl⟩ := h.exists_call hcall'
    -- the call ends in front of the text, so the text behind it has the text at its end
    have hlength : rest.length ≤ after.length := by
      have hsuffix := hread.suffix.length_le
      simp only [List.length_cons, List.length_append] at hle hsuffix
      omega
    obtain ⟨after, rfl⟩ := List.suffix_of_suffix_length_le (List.suffix_append behind rest) hread.suffix hlength
    have hsame : (c :: cs ++ rest).length - (after ++ rest).length = (c :: cs).length - after.length := by
      simp only [List.length_append]
      omega
    exact hsame ▸ .call hcall (hread.of_append hrest.bare rfl rfl) hexpand
  | none => exact (barePiece_append_iff hrest hcall).1 h

/-- A piece that ends in front of a text is read without that text. -/
theorem readPiece_of_append (h : readPiece zone text last c (cs ++ rest) = .ok piece)
    (hle : piece.length - 1 ≤ cs.length) (text' : List Char) : readPiece zone text' last c cs = .ok piece := by
  rw [readPiece] at h ⊢
  split_ifs at h ⊢ with hquote
  · obtain ⟨⟨chars, n⟩, hread, rfl⟩ := map_eq_ok.1 h
    exact map_eq_ok.2 ⟨_, (readString_append_iff hquote (Nat.le_add_of_sub_le hle) rest).1 hread, rfl⟩
  · exact (readRegex_append_iff hrest hle).1 h
  · exact h
  · exact readBare_of_append hrest h hle text'

/-- What is read piece by piece up to a text is read so without that text. -/
theorem Passes.of_append {last' : Option Char} {place place' : Option Char × List Char}
    (h : Passes zone text place place') (hplace : place = (last, cs ++ rest)) (hplace' : place' = (last', rest))
    (hne : rest ≠ []) (text' : List Char) : Passes zone text' (last, cs) (last', []) := by
  induction h generalizing last cs with
  | refl =>
    subst hplace
    simp only [Prod.mk.injEq, List.append_left_eq_self] at hplace'
    obtain ⟨rfl, rfl⟩ := hplace'
    exact .refl _
  -- each step leaves `rest` behind it, so `cs` is not used up before
  | @blank last₀ c more _ hblank hpasses ih =>
    subst hplace'
    have hsuffix := hpasses.suffix.length_le
    cases cs with
    | nil =>
      simp only [List.nil_append, Prod.mk.injEq] at hplace
      rw [← hplace.2] at hsuffix
      simp at hsuffix
    | cons d cs =>
      simp only [List.cons_append, Prod.mk.injEq, List.cons.injEq] at hplace
      obtain ⟨rfl, rfl, rfl⟩ := hplace
      exact .blank hblank (ih rfl rfl)
  | @piece last₀ c more _ piece hblank hpiece hpasses ih =>
    subst hplace'
    have hsuffix := hpasses.suffix.length_le
    have hpos : 0 < rest.length := List.length_pos_of_ne_nil hne
    cases cs with
    | nil =>
      simp only [List.nil_append, Prod.mk.injEq] at hplace
      rw [← hplace.2] at hsuffix
      simp only [List.length_cons, List.length_drop] at hsuffix
      omega
    | cons d cs =>
      simp only [List.cons_append, Prod.mk.injEq, List.cons.injEq] at hplace
      obtain ⟨rfl, rfl, rfl⟩ := hplace
      -- the piece ends before `rest` starts
      have hle : piece.length - 1 ≤ cs.length := by
        simp only [List.length_drop, List.length_append] at hsuffix
        omega
      refine .piece hblank (readPiece_of_append hrest hpiece hle text') (ih ?_ rfl)
      rw [List.drop_append_of_le_length hle]

end

/-- What a text is expanded to does not depend on the text that faults would show. -/
theorem expandFrom_eq_ok {zone : Zone} {text : List Char} {last : Option Char} {written : List Char}
    (h : expandFrom zone text last cs = .ok written) (text' : List Char) :
    expandFrom zone text' last cs = .ok written := by
  obtain ⟨last', hlast'⟩ := expandFrom_append endsPiece_nil h text'
  rw [List.append_nil, expandFrom] at hlast'
  rw [hlast']
  simp [Except.map]

/-- A text that is read piece by piece up to its end is expanded. -/
theorem Passes.exists_expandFrom {zone : Zone} {text : List Char} {last last' : Option Char}
    (h : Passes zone text (last, cs) (last', [])) : ∃ written, expandFrom zone text last cs = .ok written := by
  simp only [expandFrom_eq_ok_iff]
  generalize hplace : (last, cs) = place at h
  generalize hplace' : (last', []) = place' at h
  induction h generalizing last cs with
  | refl =>
    subst hplace
    cases hplace'
    exact ⟨[], .nil last'⟩
  | blank hblank _ ih =>
    cases hplace
    obtain ⟨written, hwritten⟩ := ih rfl hplace'
    exact ⟨_, .blank hblank hwritten⟩
  | piece hblank hpiece _ ih =>
    cases hplace
    obtain ⟨written, hwritten⟩ := ih rfl hplace'
    exact ⟨_, .piece hblank hpiece hwritten⟩

end

/-! ## Strings written either way -/

/-- Whether reading a text piece by piece comes to what stands behind its front. -/
def ComesTo (zone : Zone) (front behind : List Char) : Prop :=
  ∃ last, Passes zone (front ++ behind) (none, front ++ behind) (last, behind)

section

variable {zone : Zone} {text : List Char} {quote quote' : Char} (hquote : isQuote quote = true)
  (hquote' : isQuote quote' = true)

include hquote

theorem not_bare_of_isQuote : isBareChar quote = false ∧ quote ≠ ':' ∧ quote ≠ '(' := by
  simp only [isQuote, Bool.or_eq_true, decide_eq_true_eq] at hquote
  rcases hquote with rfl | rfl <;> decide

theorem endsPiece_quote (rest : List Char) : EndsPiece (quote :: rest) := by
  obtain ⟨hbare, hcolon, hopening⟩ := not_bare_of_isQuote hquote
  have hsign : nextSign (quote :: rest) = some quote := by
    rw [nextSign, skipBlanks, List.dropWhile_cons_of_neg (by simp [isBlank_of_isQuote hquote])]
    rfl
  exact ⟨⟨stopsAt_cons.2 hbare, by simp [hsign, hcolon]⟩, by simp [hsign, hopening]⟩

/-- The front of a place that reading comes to is expanded on its own. -/
theorem ComesTo.exists_expandFrom {front rest : List Char} (h : ComesTo zone front (quote :: rest)) (text : List Char) :
    ∃ written, expandFrom zone text none front = .ok written := by
  obtain ⟨last, hpasses⟩ := h
  exact (hpasses.of_append (endsPiece_quote hquote rest) rfl rfl (by simp) text).exists_expandFrom

/-- A string is expanded to its characters between double quotes. -/
theorem Spelled.expandFrom {raw cs : List Char} (h : Spelled quote raw cs) (last : Option Char) (rest : List Char) :
    expandFrom zone text last (quote :: (raw ++ quote :: rest)) =
      (expandFrom zone text (some '"') rest).map (Json.writeText false cs ++ ·) := by
  have hpiece : readPiece zone text last quote (raw ++ quote :: rest) =
      .ok ⟨Json.writeText false cs, '"', raw.length + 2⟩ := by
    rw [isQuote] at hquote
    rw [readPiece, if_pos hquote, h.readString hquote]
    rfl
  rw [expandFrom_piece (isBlank_of_isQuote hquote) hpiece, Json.drop_string]

include hquote'

/-- Whichever way a string is written, the text is expanded to the same text. -/
theorem expand_requoted {front rest raw raw' cs signs written : List Char}
    (hfront : ∀ text, Shorthand.expandFrom zone text none front = .ok signs)
    (h : Spelled quote raw cs) (h' : Spelled quote' raw' cs)
    (hexpand : expand zone (front ++ quote :: (raw ++ quote :: rest)) = .ok written) :
    expand zone (front ++ quote' :: (raw' ++ quote' :: rest)) = .ok written := by
  rw [expand] at hexpand ⊢
  obtain ⟨last, hlast⟩ := expandFrom_append (endsPiece_quote hquote _) (hfront []) (front ++ quote :: (raw ++ quote :: rest))
  obtain ⟨last', hlast'⟩ :=
    expandFrom_append (endsPiece_quote hquote' _) (hfront []) (front ++ quote' :: (raw' ++ quote' :: rest))
  rw [hlast, h.expandFrom hquote] at hexpand
  rw [hlast', h'.expandFrom hquote']
  obtain ⟨behind, hbehind, rfl⟩ := map_eq_ok.1 hexpand
  obtain ⟨others, hothers, rfl⟩ := map_eq_ok.1 hbehind
  rw [expandFrom_eq_ok hothers]
  rfl

end

end DocBrowser.Shorthand

namespace DocBrowser.Query

open Shorthand (isQuote SpelledChar Spelled ComesTo)

/-- Whichever way a string is written, the text compiles to the same document. -/
theorem compile_requoted {zone : Zone} {quote quote' : Char} (hquote : isQuote quote = true)
    (hquote' : isQuote quote' = true) {front rest raw raw' cs signs : List Char} {doc : Document}
    (hfront : ∀ text, Shorthand.expandFrom zone text none front = .ok signs) (h : Spelled quote raw cs)
    (h' : Spelled quote' raw' cs)
    (hcompile : compile zone (String.ofList (front ++ quote :: (raw ++ quote :: rest))) = .ok doc) :
    compile zone (String.ofList (front ++ quote' :: (raw' ++ quote' :: rest))) = .ok doc := by
  -- a quote is visible and no sign of structure, so neither text is an empty one
  have hvisible {quote : Char} (hquote : isQuote quote = true) (raw : List Char) :
      isBlank (front ++ quote :: (raw ++ quote :: rest)) = false := by
    refine isBlank_eq_false_of_mem (c := quote) (by simp) (Shorthand.isBlank_of_isQuote hquote) ?_
    simp only [isQuote, Bool.or_eq_true, decide_eq_true_eq] at hquote
    rcases hquote with rfl | rfl <;> simp [Shorthand.structureSigns]
  rcases compile_eq_ok hcompile with ⟨hblank, -⟩ | ⟨expanded, fields, hexpand, hparse, hdecode⟩
  · rw [String.toList_ofList, hvisible hquote raw] at hblank
    cases hblank
  · rw [String.toList_ofList] at hexpand
    exact compile_of_expand (hvisible hquote' raw')
      (Shorthand.expand_requoted hquote hquote' hfront h h' hexpand) hparse hdecode

/--
Between single quotes a string is read as its characters, whatever follows it; and where reading a text comes to a
string between double quotes, that string may stand between single quotes as well.
-/
theorem readString_singleQuoted_and_compile_iff {raw cs : List Char} (h : Spelled '\'' raw cs) :
    (∀ rest, Shorthand.readString '\'' (raw ++ '\'' :: rest) = .ok (cs, raw.length + 2)) ∧
    ∀ {zone : Zone} {front rest raw' : List Char}, Spelled '"' raw' cs →
      ComesTo zone front ('"' :: (raw' ++ '"' :: rest)) → ∀ doc,
        compile zone (String.ofList (front ++ '\'' :: (raw ++ '\'' :: rest))) = .ok doc ↔
          compile zone (String.ofList (front ++ '"' :: (raw' ++ '"' :: rest))) = .ok doc := by
  refine ⟨h.readString rfl, fun {zone front rest raw'} h' hfront doc => ?_⟩
  obtain ⟨signs, hsigns⟩ := hfront.exists_expandFrom rfl []
  have hany (text : List Char) := Shorthand.expandFrom_eq_ok hsigns text
  exact ⟨compile_requoted rfl rfl hany h h', compile_requoted rfl rfl hany h' h⟩

/-- An apostrophe, a backslash, a double quote and a letter. -/
def mixed : List Char := ['\'', '\\', '"', 'A']

/-- They are written between single quotes. -/
def mixedSingle : List Char := ['\\', '\'', '\\', '\\', '"', '\\', 'u', '0', '0', '4', '1']

@[inherit_doc mixedSingle]
theorem spelled_mixedSingle : Spelled '\'' mixedSingle mixed :=
  .cons (.apostrophe rfl) (.cons (@SpelledChar.named _ _ '\\' rfl)
    (.cons (.plain (by decide) (by decide) (by decide)) (.cons (.numbered rfl) .nil)))

/-- They are written between double quotes. -/
def mixedDouble : List Char := ['\'', '\\', '\\', '\\', '"', 'A']

@[inherit_doc mixedDouble]
theorem spelled_mixedDouble : Spelled '"' mixedDouble mixed :=
  .cons (.plain (by decide) (by decide) (by decide)) (.cons (@SpelledChar.named _ _ '\\' rfl)
    (.cons (@SpelledChar.named _ _ '"' rfl) (.cons (.plain (by decide) (by decide) (by decide)) .nil)))

/-- All three characters that are written in different ways may stand behind each other in a key. -/
theorem readString_singleQuoted_and_compile_iff_mixed :
    Spelled '\'' mixedSingle mixed ∧ Spelled '"' mixedDouble mixed ∧
    ComesTo .utc ['\x7b'] ('"' :: (mixedDouble ++ '"' :: ": true\x7d".toList)) ∧
    Shorthand.readString '\'' (mixedSingle ++ '\'' :: ['x', '\'']) = .ok (mixed, 13) ∧
    compile .utc (String.ofList (['\x7b'] ++ '\'' :: (mixedSingle ++ '\'' :: ": true\x7d".toList))) =
      .ok [("'\\\"A", .bool true)] := by
  have hcomes : ComesTo .utc ['\x7b'] ('"' :: (mixedDouble ++ '"' :: ": true\x7d".toList)) :=
    ⟨some '\x7b', .piece rfl rfl (.refl _)⟩
  have hexpand : Shorthand.expand .utc "\x7b\"'\\\\\\\"A\": true\x7d".toList =
      .ok "\x7b\"'\\\\\\\"A\": true\x7d".toList := by cbv
  have hparse : Json.parse "\x7b\"'\\\\\\\"A\": true\x7d".toList = .ok (.obj [("'\\\"A", .bool true)]) := by cbv
  obtain ⟨hread, hcompile⟩ := readString_singleQuoted_and_compile_iff spelled_mixedSingle
  refine ⟨spelled_mixedSingle, spelled_mixedDouble, hcomes, hread _, ?_⟩
  exact (hcompile spelled_mixedDouble hcomes _).2 (compile_of_expand (by decide) hexpand hparse rfl)

end DocBrowser.Query
