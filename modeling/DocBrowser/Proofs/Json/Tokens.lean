import Mathlib
import DocBrowser.Proofs.Failure
import DocBrowser.Proofs.Json.Numerals
import DocBrowser.Proofs.Json.Strings
/-!
# Tokens and what follows them

A token is told by its own signs: a string by those up to its closing quote, a word or a number by
those up to the first one that neither can go on with. What follows a token may change without
changing the token, as long as it does not go on as the token does.
-/

namespace DocBrowser.Json

open Text (StopsAt stopsAt_cons takeWhile_run)

/-! ## Escapes -/

/-- The signs behind a backslash that stand for one character. -/
inductive Escape : List Char → Prop where
  | named {letter c : Char} (name : namedEscape? letter = some c) : Escape [letter]
  | numbered {a b c d : Char} {n : ℕ} (quad : hexQuad? a b c d = some n) : Escape ['u', a, b, c, d]
  | pair {a b c d a' b' c' d' : Char} {n n' : ℕ} (quad : hexQuad? a b c d = some n)
    (quad' : hexQuad? a' b' c' d' = some n') :
    Escape ['u', a, b, c, d, '\\', 'u', a', b', c', d']

/-- The signs between the quotes of a string and its characters; no escape depends on what follows the string. -/
inductive Literal : List Char → List Char → Prop where
  | nil : Literal [] []
  | plain {c : Char} {raw cs : List Char} (quote : c ≠ '"') (backslash : c ≠ '\\') (control : ¬c.toNat < 32)
    (rest : Literal raw cs) : Literal (c :: raw) (c :: cs)
  | escaped {signs raw cs : List Char} {c : Char} (shape : Escape signs)
    (read : ∀ start position more,
      readEscape start position (signs ++ (raw ++ '"' :: more)) = .ok (c, signs.length))
    (rest : Literal raw cs) : Literal ('\\' :: (signs ++ raw)) (c :: cs)

theorem readEscape_named {letter c : Char} (h : namedEscape? letter = some c) (start position : ℕ) (rest : List Char) :
    readEscape start position (letter :: rest) = .ok (c, 1) := by
  rw [readEscape]
  · simp only [h]
  · rintro _ _ _ _ _ _ rfl
    exact absurd rfl (ne_u_of_namedEscape? h)
  · rintro rfl
    exact absurd rfl (ne_u_of_namedEscape? h)

theorem lowHalf_eq_none {cs : List Char} (h : ∀ rest, cs ≠ '\\' :: 'u' :: rest) (position : ℕ) :
    lowHalf position cs = .ok none := by
  unfold lowHalf
  split
  · exact absurd rfl (h _)
  · rfl

theorem lowHalf_quad {a b c d : Char} {n : ℕ} (h : hexQuad? a b c d = some n) (position : ℕ) {rest : List Char}
    (hrest : rest ≠ []) : lowHalf position ('\\' :: 'u' :: a :: b :: c :: d :: rest) =
      .ok (if 0xDC00 ≤ n ∧ n ≤ 0xDFFF then some n else none) := by
  obtain ⟨next, more, rfl⟩ := List.exists_cons_of_ne_nil hrest
  simp only [lowHalf, h]

/-- Whether a string goes on with the second half of a pair is told by the string. -/
theorem Literal.exists_lowHalf {raw cs : List Char} (h : Literal raw cs) :
    ∃ low, ∀ position more, lowHalf position (raw ++ '"' :: more) = .ok low := by
  cases h with
  | nil => exact ⟨none, fun _ _ => rfl⟩
  | plain _ hbackslash _ _ =>
    exact ⟨none, fun position _ => lowHalf_eq_none (fun _ heq => hbackslash (List.cons.inj heq).1) position⟩
  | escaped hshape _ _ =>
    cases hshape with
    | named hname =>
      refine ⟨none, fun position _ => lowHalf_eq_none (fun _ heq => ?_) position⟩
      have hu := (List.cons.inj (List.cons.inj heq).2).1
      exact ne_u_of_namedEscape? hname hu
    | numbered hquad => exact ⟨_, fun position _ => lowHalf_quad hquad position (by simp)⟩
    | pair hquad _ => exact ⟨_, fun position _ => lowHalf_quad hquad position (by simp)⟩

/-- A second half of a pair is an escape with something behind it. -/
theorem exists_of_lowHalf {position low : ℕ} {cs : List Char} (h : lowHalf position cs = .ok (some low)) :
    ∃ a b c d rest, cs = '\\' :: 'u' :: a :: b :: c :: d :: rest ∧ rest ≠ [] ∧ hexQuad? a b c d = some low := by
  unfold lowHalf at h
  split at h
  · rename_i a b c d next rest
    split at h
    · cases h
    · rename_i n hquad
      split_ifs at h <;> cases h
      exact ⟨a, b, c, d, next :: rest, rfl, by simp, hquad⟩
  · cases h

section

variable {a b c d : Char} {n : ℕ} (hquad : hexQuad? a b c d = some n) {rest : List Char} (hrest : rest ≠ [])

include hquad hrest

theorem readEscape_high (hhigh : 0xD800 ≤ n ∧ n ≤ 0xDBFF) (start position : ℕ) :
    readEscape start position ('u' :: a :: b :: c :: d :: rest) =
      (lowHalf (position + 7) rest).map fun
        | some low => (Char.ofNat (0x10000 + (n - 0xD800) * 1024 + (low - 0xDC00)), 11)
        | none => (Char.ofNat 0xFFFD, 5) := by
  obtain ⟨next, more, rfl⟩ := List.exists_cons_of_ne_nil hrest
  rcases hlow : lowHalf (position + 7) (next :: more) with fault | low | low
  all_goals simp [readEscape, hquad, hhigh, hlow, Except.map]

theorem readEscape_numbered (hhigh : ¬(0xD800 ≤ n ∧ n ≤ 0xDBFF)) (start position : ℕ) :
    readEscape start position ('u' :: a :: b :: c :: d :: rest) =
      .ok (if 0xDC00 ≤ n ∧ n ≤ 0xDFFF then Char.ofNat 0xFFFD else Char.ofNat n, 5) := by
  obtain ⟨next, more, rfl⟩ := List.exists_cons_of_ne_nil hrest
  simp only [readEscape, hquad, if_neg hhigh]
  split_ifs <;> rfl

end

/-- The escape of a numbered character is read the same in front of whatever a string ends in. -/
theorem escape_of_readEscape_numbered {a b c d e : Char} {rest raw tail more : List Char} {start position count : ℕ}
    (h : readEscape start position ('u' :: a :: b :: c :: d :: rest) = .ok (e, count))
    (hdrop : ('u' :: a :: b :: c :: d :: rest).drop count = raw ++ '"' :: more) (hraw : Literal raw tail) {n : ℕ}
    (hquad : hexQuad? a b c d = some n) (hrest : rest ≠ []) :
    ∃ signs, 'u' :: a :: b :: c :: d :: rest = signs ++ (raw ++ '"' :: more) ∧ signs.length = count ∧ Escape signs ∧
      ∀ start position more, readEscape start position (signs ++ (raw ++ '"' :: more)) = .ok (e, signs.length) := by
  have hne (more : List Char) : raw ++ '"' :: more ≠ [] := by simp
  by_cases hhigh : 0xD800 ≤ n ∧ n ≤ 0xDBFF
  · rw [readEscape_high hquad hrest hhigh] at h
    obtain ⟨low, hlow, hread⟩ := map_eq_ok.1 h
    cases low with
    | some low =>
      -- the second half is an escape of its own, which is read together with the first
      obtain ⟨a', b', c', d', rest, rfl, -, hquad'⟩ := exists_of_lowHalf hlow
      obtain ⟨rfl, rfl⟩ := Prod.mk.inj hread
      change rest = raw ++ '"' :: more at hdrop
      subst hdrop
      rw [lowHalf_quad hquad' _ (hne _), Except.ok.injEq] at hlow
      refine ⟨_, rfl, rfl, .pair hquad hquad', fun start position more => ?_⟩
      simp only [List.cons_append, List.nil_append]
      rw [readEscape_high hquad (by simp) hhigh, lowHalf_quad hquad' _ (hne _), hlow]
      rfl
    | none =>
      obtain ⟨rfl, rfl⟩ := Prod.mk.inj hread
      change rest = raw ++ '"' :: more at hdrop
      subst hdrop
      obtain ⟨low, hany⟩ := hraw.exists_lowHalf
      rw [hany, Except.ok.injEq] at hlow
      refine ⟨['u', a, b, c, d], rfl, rfl, .numbered hquad, fun start position more => ?_⟩
      simp only [List.cons_append, List.nil_append]
      rw [readEscape_high hquad (hne _) hhigh, hany, hlow]
      rfl
  · rw [readEscape_numbered hquad hrest hhigh] at h
    cases h
    change rest = raw ++ '"' :: more at hdrop
    subst hdrop
    exact ⟨['u', a, b, c, d], rfl, rfl, .numbered hquad, fun start position more =>
      readEscape_numbered hquad (hne _) hhigh start position⟩

/-- An escape is read the same in front of whatever a string ends in. -/
theorem escape_of_readEscape {start position count : ℕ} {c : Char} {cs raw tail more : List Char}
    (h : readEscape start position cs = .ok (c, count)) (hdrop : cs.drop count = raw ++ '"' :: more)
    (hraw : Literal raw tail) :
    ∃ signs, cs = signs ++ (raw ++ '"' :: more) ∧ signs.length = count ∧ Escape signs ∧
      ∀ start position more, readEscape start position (signs ++ (raw ++ '"' :: more)) = .ok (c, signs.length) := by
  have hread := h
  unfold readEscape at h
  -- nothing behind the backslash, a numbered escape, one cut short, a letter
  split at h
  · cases h
  · split at h
    · cases h
    · exact escape_of_readEscape_numbered hread hdrop hraw ‹_› (by simp)
  · cases h
  · split at h
    · rename_i hname
      cases h
      rw [List.drop_one, List.tail_cons] at hdrop
      exact ⟨[_], by rw [← hdrop]; rfl, rfl, .named hname, fun _ _ _ => readEscape_named hname _ _ _⟩
    · cases h

/-! ## Strings -/

/-- A string is read from its signs, whatever follows its closing quote. -/
theorem Literal.readString {raw cs : List Char} (h : Literal raw cs) (start position : ℕ) (more : List Char) :
    readString start position (raw ++ '"' :: more) = .ok (cs, raw.length + 1) := by
  induction h generalizing position with
  | nil => simp [Json.readString]
  | plain hquote hbackslash hcontrol _ ih =>
    rw [List.cons_append, Json.readString]
    · simp [hcontrol, ih, bind, Except.bind]
      omega
    · exact hquote
    · exact hbackslash
  | @escaped signs raw _ _ _ hread _ ih =>
    rw [List.cons_append, List.append_assoc, Json.readString, hread]
    simp only [bind, Except.bind, List.drop_left, ih, List.length_cons, List.length_append]
    congr 2
    omega

/-- What is read as a string is the signs up to its closing quote. -/
theorem exists_of_readString {start position count : ℕ} {text cs : List Char}
    (h : readString start position text = .ok (cs, count)) :
    ∃ raw more, text = raw ++ '"' :: more ∧ count = raw.length + 1 ∧ Literal raw cs := by
  fun_induction readString start position text generalizing cs count with
  | case1 => cases h
  | case2 =>
    cases h
    exact ⟨[], _, rfl, rfl, .nil⟩
  -- an escape: what it takes is the difference between its text and the rest of the string
  | case3 position rest ih =>
    obtain ⟨⟨c, taken⟩, hescape, h⟩ := bind_eq_ok.1 h
    obtain ⟨⟨cs, others⟩, hread, h⟩ := bind_eq_ok.1 h
    cases h
    obtain ⟨raw, more, hdrop, rfl, hraw⟩ := ih taken hread
    obtain ⟨signs, rfl, rfl, hshape, hlocal⟩ := escape_of_readEscape hescape hdrop hraw
    refine ⟨'\\' :: (signs ++ raw), more, by simp, ?_, .escaped hshape hlocal hraw⟩
    simp only [List.length_cons, List.length_append]
    omega
  | case4 => cases h
  | case5 position c rest hquote hbackslash hcontrol ih =>
    obtain ⟨⟨cs, others⟩, hread, h⟩ := bind_eq_ok.1 h
    cases h
    obtain ⟨raw, more, rfl, rfl, hraw⟩ := ih hread
    exact ⟨c :: raw, more, rfl, Nat.add_comm _ _, .plain hquote hbackslash hcontrol hraw⟩

/-! ## Numbers -/

/-- Whether a word or a number may hold a character. -/
def isBareSign (c : Char) : Bool := c.isAlphanum || ['-', '+', '.'].contains c

theorem isBareSign_of_isDigit {c : Char} (h : c.isDigit = true) : isBareSign c = true := by
  simp [isBareSign, Char.isAlphanum, h]

/-- The signs at the start of a text that a word or a number may hold. -/
def bareRun (cs : List Char) : List Char := cs.takeWhile isBareSign

@[simp] theorem bareRun_nil : bareRun [] = [] := rfl

theorem bareRun_cons {c : Char} (h : isBareSign c = true) (cs : List Char) : bareRun (c :: cs) = c :: bareRun cs := by
  rw [bareRun, List.takeWhile_cons_of_pos h, bareRun]

theorem bareRun_of_stopsAt {cs : List Char} (h : StopsAt isBareSign cs) : bareRun cs = [] :=
  Text.takeWhile_of_stopsAt h

theorem bareRun_append {signs rest : List Char} (h : ∀ c ∈ signs, isBareSign c = true) :
    bareRun (signs ++ rest) = signs ++ bareRun rest :=
  List.takeWhile_append_of_pos h

theorem takeWhile_isDigit_bareRun (cs : List Char) :
    (bareRun cs).takeWhile Char.isDigit = cs.takeWhile Char.isDigit := by
  rw [bareRun, List.takeWhile_takeWhile]
  congr 1
  funext c
  by_cases h : c.isDigit = true
  · simp [h, isBareSign_of_isDigit h]
  · simp [h]

theorem drop_bareRun {cs : List Char} {n : ℕ} (h : n ≤ (bareRun cs).length) :
    (bareRun cs).drop n = bareRun (cs.drop n) := by
  induction n generalizing cs with
  | zero => rfl
  | succ n ih =>
    cases cs with
    | nil => rfl
    | cons c cs =>
      by_cases hc : isBareSign c = true
      · rw [bareRun_cons hc] at h ⊢
        exact ih (Nat.le_of_succ_le_succ h)
      · rw [bareRun_of_stopsAt (stopsAt_cons.2 (by simpa using hc))] at h
        cases h

/-- A text starts with a sign that words and numbers may hold, or its run is empty. -/
theorem bareRun_cases (cs : List Char) :
    (StopsAt isBareSign cs ∧ bareRun cs = []) ∨
      ∃ c rest, cs = c :: rest ∧ isBareSign c = true ∧ bareRun cs = c :: bareRun rest := by
  cases cs with
  | nil => exact .inl ⟨Text.stopsAt_nil _, rfl⟩
  | cons c rest =>
    cases hc : isBareSign c with
    | false => exact .inl ⟨stopsAt_cons.2 hc, bareRun_of_stopsAt (stopsAt_cons.2 hc)⟩
    | true => exact .inr ⟨c, rest, rfl, hc, bareRun_cons hc rest⟩

/-- Outside of words and numbers there is no such sign in front. -/
theorem head_ne_of_stopsAt {cs rest : List Char} {c : Char} (h : StopsAt isBareSign cs) (hc : isBareSign c = true) :
    cs ≠ c :: rest := by
  rintro rfl
  rw [stopsAt_cons, hc] at h
  cases h

/-! ### The parts of a number -/

theorem takeMinus_of_ne {cs : List Char} (h : ∀ rest, cs ≠ '-' :: rest) : takeMinus cs = (false, cs) := by
  unfold takeMinus
  split
  · exact absurd rfl (h _)
  · rfl

theorem takeSign_of_ne {cs : List Char} (hminus : ∀ rest, cs ≠ '-' :: rest) (hplus : ∀ rest, cs ≠ '+' :: rest) :
    Text.takeSign cs = (false, cs) := by
  unfold Text.takeSign
  split
  · exact absurd rfl (hminus _)
  · exact absurd rfl (hplus _)
  · rfl

theorem wholeDigits_of_ne {cs : List Char} (h : ∀ rest, cs ≠ '0' :: rest) :
    wholeDigits cs = cs.takeWhile Char.isDigit := by
  unfold wholeDigits
  split
  · exact absurd rfl (h _)
  · rfl

theorem fractionDigits_of_ne {cs : List Char} (h : ∀ rest, cs ≠ '.' :: rest) : fractionDigits cs = [] := by
  unfold fractionDigits
  split
  · exact absurd rfl (h _)
  · rfl

/-- A text and its run start with a sign that words and numbers may hold, or neither does. -/
theorem starts_bareRun {c : Char} (hc : isBareSign c = true) (cs : List Char) :
    (∃ rest, cs = c :: rest ∧ bareRun cs = c :: bareRun rest) ∨
      (∀ rest, cs ≠ c :: rest) ∧ ∀ rest, bareRun cs ≠ c :: rest := by
  by_cases h : ∃ rest, cs = c :: rest
  · obtain ⟨rest, rfl⟩ := h
    exact .inl ⟨rest, rfl, bareRun_cons hc rest⟩
  · refine .inr ⟨fun rest hcs => h ⟨rest, hcs⟩, fun rest hcs => ?_⟩
    rcases bareRun_cases cs with ⟨-, hrun⟩ | ⟨d, more, rfl, -, hrun⟩
    · cases hrun.symm.trans hcs
    · obtain ⟨rfl, -⟩ := List.cons.inj (hrun.symm.trans hcs)
      exact h ⟨more, rfl⟩

theorem takeMinus_bareRun (cs : List Char) : takeMinus (bareRun cs) = ((takeMinus cs).1, bareRun (takeMinus cs).2) := by
  rcases starts_bareRun (c := '-') (by decide) cs with ⟨rest, rfl, hrun⟩ | ⟨hne, hrun⟩
  · rw [hrun]
    rfl
  · rw [takeMinus_of_ne hne, takeMinus_of_ne hrun]

theorem wholeDigits_bareRun (cs : List Char) : wholeDigits (bareRun cs) = wholeDigits cs := by
  rcases starts_bareRun (c := '0') (by decide) cs with ⟨rest, rfl, hrun⟩ | ⟨hne, hrun⟩
  · rw [hrun]
    rfl
  · rw [wholeDigits_of_ne hne, wholeDigits_of_ne hrun, takeWhile_isDigit_bareRun]

theorem fractionDigits_bareRun (cs : List Char) : fractionDigits (bareRun cs) = fractionDigits cs := by
  rcases starts_bareRun (c := '.') (by decide) cs with ⟨rest, rfl, hrun⟩ | ⟨hne, hrun⟩
  · rw [hrun]
    exact takeWhile_isDigit_bareRun rest
  · rw [fractionDigits_of_ne hne, fractionDigits_of_ne hrun]

theorem takeSign_bareRun (cs : List Char) :
    Text.takeSign (bareRun cs) = ((Text.takeSign cs).1, bareRun (Text.takeSign cs).2) := by
  rcases starts_bareRun (c := '-') (by decide) cs with ⟨rest, rfl, hrun⟩ | ⟨hminus, hrunMinus⟩
  · rw [hrun]
    rfl
  · rcases starts_bareRun (c := '+') (by decide) cs with ⟨rest, rfl, hrun⟩ | ⟨hplus, hrunPlus⟩
    · rw [hrun]
      rfl
    · rw [takeSign_of_ne hminus hplus, takeSign_of_ne hrunMinus hrunPlus]

/-- The sign of an exponent has the same length in the run. -/
theorem length_sub_takeSign_bareRun (cs : List Char) :
    (bareRun cs).length - (bareRun (Text.takeSign cs).2).length = cs.length - (Text.takeSign cs).2.length := by
  unfold Text.takeSign
  split
  · simp [bareRun_cons (c := '-') (by decide)]
  · simp [bareRun_cons (c := '+') (by decide)]
  · simp

theorem exponentPart?_bareRun (cs : List Char) : exponentPart? (bareRun cs) = exponentPart? cs := by
  rcases bareRun_cases cs with ⟨hstop, hrun⟩ | ⟨e, rest, rfl, -, hrun⟩
  · rw [hrun]
    cases cs with
    | nil => rfl
    | cons e rest =>
      have he : ¬(e = 'e' ∨ e = 'E') := by
        rintro (rfl | rfl) <;> exact head_ne_of_stopsAt hstop (by decide) rfl
      simp [exponentPart?, he]
  · rw [hrun]
    simp only [exponentPart?, takeSign_bareRun, takeWhile_isDigit_bareRun, length_sub_takeSign_bareRun]

/-! ### Whole numbers and their lengths -/

theorem length_wholeDigits_le (cs : List Char) : (wholeDigits cs).length ≤ cs.length := by
  unfold wholeDigits
  split
  · simp
  · exact (List.takeWhile_prefix _).length_le

/-- The length of a fraction with its point. -/
def fractionLength (cs : List Char) : ℕ := if fractionDigits cs = [] then 0 else (fractionDigits cs).length + 1

theorem fractionLength_le (cs : List Char) : fractionLength cs ≤ cs.length := by
  unfold fractionLength fractionDigits
  split
  · split_ifs
    · exact Nat.zero_le _
    · exact Nat.succ_le_succ (List.takeWhile_prefix _).length_le
  · simp

/-- The length of an exponent. -/
def exponentLength (cs : List Char) : ℕ := ((exponentPart? cs).map (·.2)).getD 0

theorem exponentLength_le (cs : List Char) : exponentLength cs ≤ cs.length := by
  unfold exponentLength exponentPart?
  cases cs with
  | nil => exact le_rfl
  | cons e rest =>
    have hdigits : ((Text.takeSign rest).2.takeWhile Char.isDigit).length ≤ (Text.takeSign rest).2.length :=
      (List.takeWhile_prefix _).length_le
    have hsign : (Text.takeSign rest).2.length ≤ rest.length := by
      unfold Text.takeSign
      split <;> simp
    dsimp only
    split_ifs
    · simp
    · simp
      omega
    · simp

/-- A number is as long as its parts are. -/
theorem numeral?_eq (cs : List Char) : numeral? cs =
    if wholeDigits (takeMinus cs).2 = [] then none
    else
      let unsigned := (takeMinus cs).2
      let rest := unsigned.drop (wholeDigits unsigned).length
      let tail := rest.drop (fractionLength rest)
      some ⟨(takeMinus cs).1, wholeDigits unsigned, fractionDigits rest, (exponentPart? tail).map (·.1),
        (if (takeMinus cs).1 then 1 else 0) + (wholeDigits unsigned).length + fractionLength rest + exponentLength tail⟩ :=
  rfl

theorem numeral?_bareRun (cs : List Char) : numeral? (bareRun cs) = numeral? cs := by
  have hwhole (cs : List Char) : (bareRun cs).drop (wholeDigits cs).length = bareRun (cs.drop (wholeDigits cs).length) := by
    refine drop_bareRun ?_
    rw [← wholeDigits_bareRun]
    exact length_wholeDigits_le _
  have hfraction (cs : List Char) : fractionLength (bareRun cs) = fractionLength cs := by
    rw [fractionLength, fractionDigits_bareRun, fractionLength]
  have hrest (cs : List Char) : (bareRun cs).drop (fractionLength cs) = bareRun (cs.drop (fractionLength cs)) := by
    refine drop_bareRun ?_
    rw [← hfraction]
    exact fractionLength_le _
  simp only [numeral?_eq, takeMinus_bareRun, wholeDigits_bareRun, hwhole, fractionDigits_bareRun, hfraction, hrest,
    exponentLength, exponentPart?_bareRun]

theorem length_le_of_numeral? {cs : List Char} {n : Numeral} (h : numeral? cs = some n) : n.length ≤ cs.length := by
  rw [numeral?_eq] at h
  split at h
  · cases h
  cases h
  -- each part is bounded by what the parts in front of it leave
  have hminus : (if (takeMinus cs).1 then 1 else 0) + (takeMinus cs).2.length = cs.length := by
    unfold takeMinus
    split <;> simp [Nat.add_comm]
  set unsigned := (takeMinus cs).2
  have hwhole := length_wholeDigits_le unsigned
  set rest := unsigned.drop (wholeDigits unsigned).length
  have hrest : rest.length = unsigned.length - (wholeDigits unsigned).length := List.length_drop
  have hfraction := fractionLength_le rest
  have hexponent := exponentLength_le (rest.drop (fractionLength rest))
  rw [List.length_drop] at hexponent
  dsimp only
  omega

/-! ## Words -/

theorem isPrefixOf_bareRun {word : List Char} (hword : ∀ c ∈ word, isBareSign c = true) (cs : List Char) :
    word.isPrefixOf (bareRun cs) = word.isPrefixOf cs := by
  rw [Bool.eq_iff_iff, List.isPrefixOf_iff_prefix, List.isPrefixOf_iff_prefix]
  constructor
  · exact fun h => h.trans (List.takeWhile_prefix _)
  · rintro ⟨rest, rfl⟩
    rw [bareRun_append hword]
    exact List.prefix_append _ _

/-- Words are made of the signs that may stand in them. -/
theorem isBareSign_of_mem_wordTokens {strictness : Strictness} {word : List Char} {token : Token}
    (h : (word, token) ∈ wordTokens strictness) : ∀ c ∈ word, isBareSign c = true := by
  simp only [wordTokens, List.mem_cons, Prod.mk.injEq, List.not_mem_nil, or_false] at h
  rcases h with ⟨rfl, -⟩ | ⟨rfl, -⟩ | ⟨rfl, -⟩ | ⟨rfl, -⟩ | ⟨rfl, -⟩ | ⟨rfl, -⟩ <;>
    simp [isBareSign, Char.isAlphanum, Char.isAlpha, Char.isUpper, Char.isLower]

/-- The word at the start of a text, with its token. -/
def wordAt? (strictness : Strictness) (cs : List Char) : Option (List Char × Token) :=
  (wordTokens strictness).find? fun (word, _) => word.isPrefixOf cs

theorem prefix_of_wordAt? {strictness : Strictness} {cs word : List Char} {token : Token}
    (h : wordAt? strictness cs = some (word, token)) : word <+: cs := by
  have hprefix := List.find?_some h
  exact List.isPrefixOf_iff_prefix.1 hprefix

theorem wordAt?_bareRun (strictness : Strictness) (cs : List Char) :
    wordAt? strictness (bareRun cs) = wordAt? strictness cs := by
  rw [wordAt?, wordAt?]
  exact List.find?_congr fun entry hentry => isPrefixOf_bareRun (isBareSign_of_mem_wordTokens hentry) cs

/-! ## Tokens without signs of structure -/

theorem isSign_of_isBareSign {c : Char} (h : isBareSign c = true) : isSign c = false := by
  cases hsign : isSign c with
  | false => rfl
  | true =>
    simp only [isSign, List.contains_eq_mem, List.mem_cons, List.not_mem_nil, or_false, decide_eq_true_eq] at hsign
    rcases hsign with rfl | rfl | rfl | rfl | rfl | rfl | rfl <;> cases h

section

variable {strictness : Strictness} {c : Char}

/-- Where no sign of structure stands, a word is looked for and then a number. -/
theorem readToken_eq (position : ℕ) {cs : List Char} (hsign : isSign c = false) :
    readToken strictness position (c :: cs) =
      match wordAt? strictness (c :: cs) with
      | some (word, token) => (token, word.length)
      | none =>
        match numeral? (c :: cs) with
        | some n => (n.token, n.length)
        | none => (.stray, 1) :=
  readToken_of_stopsAt strictness position (by simp) (stopsAt_cons.2 hsign)

/-- A word or a number is told by its run, wherever it stands. -/
theorem readToken_congr {cs cs' : List Char} (position position' : ℕ) (hc : isBareSign c = true)
    (h : bareRun cs = bareRun cs') :
    readToken strictness position (c :: cs) = readToken strictness position' (c :: cs') := by
  have hrun : bareRun (c :: cs) = bareRun (c :: cs') := by rw [bareRun_cons hc, bareRun_cons hc, h]
  have hsign := isSign_of_isBareSign hc
  rw [readToken_eq _ hsign, readToken_eq _ hsign, ← wordAt?_bareRun, ← numeral?_bareRun, hrun, wordAt?_bareRun,
    numeral?_bareRun]

variable {cs : List Char} {position n : ℕ} {token : Token} (hsign : isSign c = false)
  (hread : readToken strictness position (c :: cs) = (token, n)) (hlast : token.isLast = false)

include hsign hread

/-- A token with neither a word nor a number in front ends the reading. -/
theorem readToken_cases (hlast : token.isLast = false) :
    (∃ word, wordAt? strictness (c :: cs) = some (word, token) ∧ n = word.length) ∨
      ∃ number, numeral? (c :: cs) = some number ∧ token = number.token ∧ n = number.length := by
  rw [readToken_eq _ hsign] at hread
  split at hread
  · cases hread
    exact .inl ⟨_, ‹_›, rfl⟩
  · split at hread
    · cases hread
      exact .inr ⟨_, ‹_›, rfl, rfl⟩
    · cases hread
      cases hlast

include hlast

/-- Such a token lies within the run. -/
theorem le_length_bareRun : n ≤ (bareRun (c :: cs)).length := by
  rcases readToken_cases hsign hread hlast with ⟨word, hword, rfl⟩ | ⟨number, hnumber, -, rfl⟩
  · rw [← wordAt?_bareRun] at hword
    exact (prefix_of_wordAt? hword).length_le
  · rw [← numeral?_bareRun] at hnumber
    exact length_le_of_numeral? hnumber

theorem isBareSign_of_readToken : isBareSign c = true := by
  rcases bareRun_cases (c :: cs) with ⟨-, hrun⟩ | ⟨d, rest, hcons, hd, -⟩
  · -- without a run there is no word and no number
    rcases readToken_cases hsign hread hlast with ⟨word, hword, -⟩ | ⟨number, hnumber, -⟩
    · rw [← wordAt?_bareRun, hrun] at hword
      cases strictness <;> cases hword
    · rw [← numeral?_bareRun, hrun] at hnumber
      cases hnumber
  · rwa [(List.cons.inj hcons).1]

/-- A word or a number is the whole run if nothing that it might hold follows it, and then it is told by its signs. -/
theorem readToken_append (hrest : StopsAt isBareSign (cs.drop (n - 1))) :
    cs = bareRun cs ++ cs.drop (n - 1) ∧ n - 1 = (bareRun cs).length ∧
      ∀ position rest, StopsAt isBareSign rest →
        readToken strictness position (c :: (bareRun cs ++ rest)) = (token, n) := by
  have hc := isBareSign_of_readToken hsign hread hlast
  have hle := le_length_bareRun hsign hread hlast
  rw [bareRun_cons hc, List.length_cons] at hle
  -- the token takes the whole run: what it leaves starts with no bare sign
  have hdrop : (bareRun cs).drop (n - 1) = [] := by
    rw [drop_bareRun (by omega), bareRun_of_stopsAt hrest]
  rw [List.drop_eq_nil_iff] at hdrop
  have hlength : n - 1 = (bareRun cs).length := by omega
  have hrun : ∀ d ∈ bareRun cs, isBareSign d = true := fun _ => List.mem_takeWhile_imp
  refine ⟨?_, hlength, fun position' rest hrest' => ?_⟩
  · have hsplit : bareRun cs ++ cs.dropWhile isBareSign = cs := List.takeWhile_append_dropWhile
    have htail : cs.drop (n - 1) = cs.dropWhile isBareSign := by
      conv_lhs => rw [← hsplit, hlength, List.drop_left]
    rw [htail, hsplit]
  · rw [← hread]
    refine readToken_congr _ _ hc ?_
    rw [bareRun_append hrun, bareRun_of_stopsAt hrest', List.append_nil]

end

/-! ## Literals of strict JSON -/

/-- A number is a literal, unless it has too many digits. -/
theorem isLast_or_literal_of_numeral (n : Numeral) : n.token.isLast = true ∨ ∃ data, n.token = .literal data := by
  unfold Numeral.token
  split
  · split
    · exact .inr ⟨_, rfl⟩
    · exact .inl rfl
  · exact .inr ⟨_, rfl⟩

/-- A number starts with a digit or a minus. -/
theorem isDigit_of_numeral? {c : Char} {cs : List Char} {n : Numeral} (h : numeral? (c :: cs) = some n) :
    c.isDigit = true ∨ c = '-' := by
  by_contra! hne
  obtain ⟨hdigit, hminus⟩ := hne
  have hwhole : wholeDigits (takeMinus (c :: cs)).2 = [] := by
    rw [takeMinus_of_ne fun _ heq => hminus (List.cons.inj heq).1, wholeDigits_of_ne, List.takeWhile_cons_of_neg hdigit]
    rintro _ ⟨⟩
    exact hdigit rfl
  rw [numeral?_eq, if_pos hwhole] at h
  cases h

/-- A token of strict JSON that is no sign of structure and no string is a literal. -/
theorem literal_of_readToken {c : Char} {cs : List Char} {position n : ℕ} {token : Token} (hsign : isSign c = false)
    (hread : readToken .strict position (c :: cs) = (token, n)) (hlast : token.isLast = false) :
    (c.isDigit = true ∨ c ∈ ['-', 'n', 't', 'f']) ∧ ∃ data, token = .literal data := by
  rcases readToken_cases hsign hread hlast with ⟨word, hword, -⟩ | ⟨number, hnumber, rfl, -⟩
  · have hfirst {d : Char} (hd : word.head? = some d) : c = d := by
      obtain ⟨more, rfl⟩ := List.head?_eq_some_iff.1 hd
      exact (List.cons_prefix_cons.1 (prefix_of_wordAt? hword)).1.symm
    have hmem := List.mem_of_find?_eq_some hword
    simp only [wordTokens, List.mem_cons, Prod.mk.injEq, List.not_mem_nil, or_false] at hmem
    -- the words that stand for data, then those that end the reading
    rcases hmem with ⟨rfl, rfl⟩ | ⟨rfl, rfl⟩ | ⟨rfl, rfl⟩ | ⟨-, rfl⟩ | ⟨-, rfl⟩ | ⟨-, rfl⟩
    · exact ⟨.inr (by simp [hfirst (d := 'n') (by simp)]), _, rfl⟩
    · exact ⟨.inr (by simp [hfirst (d := 't') (by simp)]), _, rfl⟩
    · exact ⟨.inr (by simp [hfirst (d := 'f') (by simp)]), _, rfl⟩
    all_goals cases hlast
  · refine ⟨?_, (isLast_or_literal_of_numeral number).resolve_left ?_⟩
    · exact (isDigit_of_numeral? hnumber).imp_right fun hminus => by simp [hminus]
    · rw [hlast]
      exact Bool.false_ne_true

/-! ## Signs of structure -/

/-- The signs of structure are tokens of their own. -/
theorem exists_readToken_sign {c : Char} (hc : c ∈ ['\x7b', '\x7d', '[', ']', ':', ',']) :
    ∃ token : Token, token.isLast = false ∧ ∀ p rest, readToken .strict p (c :: rest) = (token, 1) := by
  simp only [List.mem_cons, List.not_mem_nil, or_false] at hc
  rcases hc with rfl | rfl | rfl | rfl | rfl | rfl <;> exact ⟨_, rfl, fun _ _ => rfl⟩

/-- A sign is one of structure or opens a string. -/
theorem isSign_cases {c : Char} (h : isSign c = true) : c ∈ ['\x7b', '\x7d', '[', ']', ':', ','] ∨ c = '"' := by
  simp only [isSign, List.contains_eq_mem, decide_eq_true_eq, List.mem_cons, List.not_mem_nil, or_false] at h
  simp only [List.mem_cons, List.not_mem_nil, or_false]
  tauto

/-! ## How tokens are spelled -/

theorem readToken_string {strictness : Strictness} {raw chars : List Char} (h : Literal raw chars) (p : ℕ)
    (rest : List Char) :
    readToken strictness p ('"' :: (raw ++ '"' :: rest)) = (.text (String.ofList chars), raw.length + 2) := by
  rw [readToken, h.readString]
  simp only [Prod.mk.injEq, true_and]
  omega

/-- Behind the two quotes of a string stands what its closing quote is in front of. -/
theorem drop_string (raw : List Char) (quote : Char) (rest : List Char) :
    (raw ++ quote :: rest).drop (raw.length + 2 - 1) = rest := List.drop_length_add_append 1

/-- A quote opens a string, or the reading ends there. -/
theorem string_of_readToken {strictness : Strictness} {p n : ℕ} {cs : List Char} {token : Token}
    (hread : readToken strictness p ('"' :: cs) = (token, n)) (hlast : token.isLast = false) :
    ∃ raw chars more, cs = raw ++ '"' :: more ∧ Literal raw chars ∧ token = .text (String.ofList chars) ∧
      n = raw.length + 2 := by
  rw [readToken] at hread
  split at hread
  · rename_i chars _ hstring
    cases hread
    obtain ⟨raw, more, rfl, rfl, hraw⟩ := exists_of_readString hstring
    exact ⟨raw, chars, more, rfl, hraw, rfl, by omega⟩
  · cases hread
    cases hlast

/-- The signs that a token is read from: a word or a number, a sign of structure, or a string in its quotes. -/
inductive TokenText (c : Char) (cs : List Char) : Token → ℕ → Prop where
  | literal {data : Json} {n : ℕ} (hsign : isSign c = false) : TokenText c cs (.literal data) n
  | sign {token : Token} (hc : c ∈ ['\x7b', '\x7d', '[', ']', ':', ','])
    (hread : ∀ p rest, readToken .strict p (c :: rest) = (token, 1)) : TokenText c cs token 1
  | string {raw chars more : List Char} (hc : c = '"') (hcs : cs = raw ++ '"' :: more) (hraw : Literal raw chars) :
    TokenText c cs (.text (String.ofList chars)) (raw.length + 2)

/-- A token that does not end the reading is read from one of the three. -/
theorem tokenText_of_readToken {p n : ℕ} {c : Char} {cs : List Char} {token : Token}
    (hread : readToken .strict p (c :: cs) = (token, n)) (hlast : token.isLast = false) : TokenText c cs token n := by
  cases hsign : isSign c with
  | false =>
    obtain ⟨-, data, rfl⟩ := literal_of_readToken hsign hread hlast
    exact .literal hsign
  | true =>
    rcases isSign_cases hsign with hc | rfl
    · obtain ⟨token', -, hany⟩ := exists_readToken_sign hc
      rw [hany, Prod.mk.injEq] at hread
      obtain ⟨rfl, rfl⟩ := hread
      exact .sign hc hany
    · obtain ⟨raw, chars, more, hcs, hraw, rfl, rfl⟩ := string_of_readToken hread hlast
      exact .string rfl hcs hraw

/-- A token that closes or separates is its sign. -/
theorem mem_of_closes {p n : ℕ} {c : Char} {cs : List Char} {token : Token}
    (hread : readToken .strict p (c :: cs) = (token, n))
    (h : token = .comma ∨ token = .closeBracket ∨ token = .closeBrace) : c ∈ ['\x7d', ']', ','] := by
  have hlast : token.isLast = false := by rcases h with rfl | rfl | rfl <;> rfl
  cases tokenText_of_readToken hread hlast with
  | literal | string => simp at h
  | sign hc =>
    simp only [List.mem_cons, List.not_mem_nil, or_false] at hc ⊢
    rcases hc with rfl | rfl | rfl | rfl | rfl | rfl <;> cases hread <;> simp at h ⊢

end DocBrowser.Json
