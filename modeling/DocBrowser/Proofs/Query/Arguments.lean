import Mathlib
import DocBrowser.Query.Shorthand
import DocBrowser.Proofs.Failure
import DocBrowser.Proofs.Json.Tokens
import DocBrowser.Proofs.Query.Literals
import DocBrowser.Proofs.Text.Integers
/-!
# Names, numbers and arguments in collapsed text

Names and numbers hold no white space, so collapsed text starts with the same ones. The arguments of a call are
read from collapsed text as they are from the text itself, as long as the literals among them are quiet.
-/

namespace DocBrowser.Shorthand

open Text (StopsAt stopsAt_cons collapseBehind Stays)

/-! ## White space and names -/

theorem skipBlanks_collapseBehind (cs : List Char) : skipBlanks (collapseBehind cs) = collapseBehind (skipBlanks cs) :=
  Text.dropWhile_isBlank_collapseBehind cs

theorem stopsAt_skipBlanks (cs : List Char) : StopsAt Text.isBlank (skipBlanks cs) := Text.stopsAt_dropWhile _ cs

/-- What follows white space is nothing or starts with a visible character, which collapsing leaves in place. -/
theorem skipBlanks_cases (cs : List Char) :
    (skipBlanks cs = [] ∧ skipBlanks (collapseBehind cs) = []) ∨
      ∃ c rest, Text.isBlank c = false ∧ skipBlanks cs = c :: rest ∧
        skipBlanks (collapseBehind cs) = c :: collapseBehind rest := by
  rw [skipBlanks_collapseBehind]
  have hstop := stopsAt_skipBlanks cs
  cases hskip : skipBlanks cs with
  | nil => exact .inl ⟨rfl, rfl⟩
  | cons c rest =>
    rw [hskip, stopsAt_cons] at hstop
    exact .inr ⟨c, rest, hstop, rfl, Text.collapseBehind_cons_of_visible hstop rest⟩

/-- A sign that stands behind white space stands behind white space in the collapsed text. -/
theorem skipBlanks_eq_cons {c : Char} {cs rest : List Char} (h : skipBlanks cs = c :: rest) :
    Text.isBlank c = false ∧ skipBlanks (collapseBehind cs) = c :: collapseBehind rest := by
  obtain ⟨hnil, -⟩ | ⟨c', rest', hc, hskip, hskip'⟩ := skipBlanks_cases cs
  · rw [h] at hnil
    cases hnil
  · rw [h] at hskip
    cases hskip
    exact ⟨hc, hskip'⟩

theorem nextSign_collapseBehind (cs : List Char) : nextSign (collapseBehind cs) = nextSign cs := by
  rw [nextSign, nextSign]
  obtain ⟨hskip, hskip'⟩ | ⟨c, rest, -, hskip, hskip'⟩ := skipBlanks_cases cs
  · rw [hskip, hskip']
  · rw [hskip, hskip', List.head?_cons, List.head?_cons]

/-- Names are bare words. -/
theorem isBareChar_of_mem_name {call : Call} {c : Char} (h : c ∈ call.name.toList) : isBareChar c = true := by
  revert c
  rcases call with (_ | _) | _ | _ | _ | _ | _ | _ | _ <;> simp [Call.name, isBareChar, Text.isWordChar]

theorem stays_of_bare {word : List Char} (h : ∀ c ∈ word, isBareChar c = true) : Stays word :=
  Text.stays_of_visible fun c hc => isBlank_of_isBareChar (h c hc)

theorem stays_name (call : Call) : Stays call.name.toList := stays_of_bare fun _ => isBareChar_of_mem_name

theorem isPrefixOf_name_collapseBehind (call : Call) (cs : List Char) :
    call.name.toList.isPrefixOf (collapseBehind cs) = call.name.toList.isPrefixOf cs :=
  Text.isPrefixOf_collapseBehind (fun _ hc => isBlank_of_isBareChar (isBareChar_of_mem_name hc)) cs

/-- The name of a call is followed by the same text, collapsed. -/
theorem drop_name_collapseBehind {call : Call} {cs : List Char} (h : call.name.toList.isPrefixOf cs = true) :
    (collapseBehind cs).drop call.name.toList.length = collapseBehind (cs.drop call.name.toList.length) := by
  obtain ⟨rest, rfl⟩ := List.isPrefixOf_iff_prefix.1 h
  rw [stays_name, List.drop_left, List.drop_left]

theorem callAt?_collapseBehind (cs : List Char) :
    callAt? (collapseBehind cs) = (callAt? cs).map fun (call, behind) => (call, collapseBehind behind) := by
  rw [callAt?, callAt?, List.map_findSome?]
  congr 1
  funext call
  rw [Function.comp_apply]
  dsimp only
  rw [isPrefixOf_name_collapseBehind]
  split_ifs with hname
  · rw [drop_name_collapseBehind hname]
    -- behind the name only the next visible character counts, and collapsing keeps it
    obtain ⟨hskip, hskip'⟩ | ⟨c, rest, -, hskip, hskip'⟩ := skipBlanks_cases (cs.drop call.name.toList.length)
    · rw [hskip, hskip']
      rfl
    · rw [hskip, hskip']
      by_cases hc : c = '('
      · rw [hc]
        rfl
      · split <;> split <;> simp_all
  · rfl

theorem isBlank_of_continuesName {c : Char} (h : continuesName c = true) : Text.isBlank c = false :=
  Text.isBlank_of_class (by decide) h

theorem boundAt?_collapseBehind (cs : List Char) : boundAt? (collapseBehind cs) = boundAt? cs := by
  rw [boundAt?, boundAt?]
  congr 1
  funext call
  dsimp only
  rw [isPrefixOf_name_collapseBehind]
  cases hname : call.name.toList.isPrefixOf cs with
  | false => rfl
  | true =>
    rw [drop_name_collapseBehind hname, nextSign_collapseBehind,
      Text.head?_any_collapseBehind fun _ => isBlank_of_continuesName]

/-! ## Numbers -/

/-- The length of the sign at the start of a text. -/
def signLength (cs : List Char) : ℕ := cs.length - (Text.takeSign cs).2.length

/-- The length of the fraction at the start of a text, with its point. -/
def fractionLength (cs : List Char) : ℕ :=
  match cs with
  | '.' :: more => 1 + (more.takeWhile Text.isDecimalDigit).length
  | _ => 0

/-- The length of the exponent at the start of a text, with its letter. -/
def exponentLength (cs : List Char) : ℕ :=
  match cs with
  | e :: more =>
    if e = 'e' || e = 'E' then
      let count := ((Text.takeSign more).2.takeWhile Text.isDecimalDigit).length
      if count = 0 then 0 else 1 + signLength more + count
    else 0
  | [] => 0

/-- A number is as long as its parts are. -/
theorem numberLength_eq (cs : List Char) : numberLength cs =
    let unsigned := (Text.takeSign cs).2
    let whole := unsigned.takeWhile Text.isDecimalDigit
    let rest := unsigned.drop whole.length
    if whole = [] ∧ fractionLength rest ≤ 1 then 0
    else signLength cs + whole.length + fractionLength rest + exponentLength (rest.drop (fractionLength rest)) :=
  rfl

theorem takeSign_collapseBehind (cs : List Char) :
    (Text.takeSign (collapseBehind cs)).2 = collapseBehind (Text.takeSign cs).2 ∧
      signLength (collapseBehind cs) = signLength cs := by
  rcases Text.starts_collapseBehind (c := '-') (by decide) cs with ⟨rest, rfl, hcollapse⟩ | ⟨hminus, hminus'⟩
  · rw [hcollapse]
    exact ⟨rfl, by simp [signLength, Text.takeSign]⟩
  · rcases Text.starts_collapseBehind (c := '+') (by decide) cs with ⟨rest, rfl, hcollapse⟩ | ⟨hplus, hplus'⟩
    · rw [hcollapse]
      exact ⟨rfl, by simp [signLength, Text.takeSign]⟩
    · rw [signLength, signLength, Json.takeSign_of_ne hminus hplus, Json.takeSign_of_ne hminus' hplus', Nat.sub_self,
        Nat.sub_self]
      exact ⟨rfl, rfl⟩

theorem takeWhile_isDecimalDigit_collapseBehind (cs : List Char) :
    (collapseBehind cs).takeWhile Text.isDecimalDigit = cs.takeWhile Text.isDecimalDigit :=
  Text.takeWhile_collapseBehind (fun _ => Text.isBlank_of_isDecimalDigit) cs

theorem fractionLength_of_ne {cs : List Char} (h : ∀ rest, cs ≠ '.' :: rest) : fractionLength cs = 0 := by
  unfold fractionLength
  split
  · exact absurd rfl (h _)
  · rfl

/-- Behind the fraction the text is the same, collapsed. -/
theorem fractionLength_collapseBehind (cs : List Char) :
    fractionLength (collapseBehind cs) = fractionLength cs ∧
      (collapseBehind cs).drop (fractionLength cs) = collapseBehind (cs.drop (fractionLength cs)) := by
  rcases Text.starts_collapseBehind (c := '.') (by decide) cs with ⟨rest, rfl, hcollapse⟩ | ⟨hpoint, hpoint'⟩
  · rw [hcollapse, fractionLength, fractionLength, takeWhile_isDecimalDigit_collapseBehind, Nat.add_comm 1,
      List.drop_succ_cons, List.drop_succ_cons]
    exact ⟨rfl, Text.drop_takeWhile_collapseBehind (fun _ => Text.isBlank_of_isDecimalDigit) rest⟩
  · rw [fractionLength_of_ne hpoint, fractionLength_of_ne hpoint']
    exact ⟨rfl, rfl⟩

theorem exponentLength_of_ne {cs : List Char} (h : ∀ e ∈ ['e', 'E'], ∀ rest, cs ≠ e :: rest) :
    exponentLength cs = 0 := by
  unfold exponentLength
  split
  · rename_i e more
    rw [if_neg]
    intro he
    simp only [Bool.or_eq_true, decide_eq_true_eq] at he
    exact h e (by simpa using he) more rfl
  · rfl

theorem exponentLength_collapseBehind (cs : List Char) : exponentLength (collapseBehind cs) = exponentLength cs := by
  have hletter {e : Char} (he : Text.isBlank e = false) (rest : List Char) :
      exponentLength (e :: collapseBehind rest) = exponentLength (e :: rest) := by
    obtain ⟨hunsigned, hsign⟩ := takeSign_collapseBehind rest
    rw [exponentLength, exponentLength, hunsigned, hsign, takeWhile_isDecimalDigit_collapseBehind]
  rcases Text.starts_collapseBehind (c := 'e') (by decide) cs with ⟨rest, rfl, hcollapse⟩ | ⟨hsmall, hsmall'⟩
  · rw [hcollapse, hletter (by decide)]
  · rcases Text.starts_collapseBehind (c := 'E') (by decide) cs with ⟨rest, rfl, hcollapse⟩ | ⟨hlarge, hlarge'⟩
    · rw [hcollapse, hletter (by decide)]
    · rw [exponentLength_of_ne (by simpa using ⟨hsmall', hlarge'⟩),
        exponentLength_of_ne (by simpa using ⟨hsmall, hlarge⟩)]

theorem numberLength_collapseBehind (cs : List Char) : numberLength (collapseBehind cs) = numberLength cs := by
  obtain ⟨hunsigned, hsign⟩ := takeSign_collapseBehind cs
  have hdrop := Text.drop_takeWhile_collapseBehind (fun _ => Text.isBlank_of_isDecimalDigit) (Text.takeSign cs).2
  simp only [numberLength_eq, hunsigned, hsign, takeWhile_isDecimalDigit_collapseBehind, hdrop,
    fractionLength_collapseBehind, exponentLength_collapseBehind]

/-! ### What numbers are made of -/

theorem isBareChar_of_isDecimalDigit {c : Char} (h : Text.isDecimalDigit c = true) : isBareChar c = true := by
  rw [isBareChar, Text.isWordChar]
  split_ifs with hascii
  · have hdigit : c.isDigit = true := by
      rw [Text.isDecimalDigit, Text.decimalValue?, if_pos hascii] at h
      by_contra hno
      rw [if_neg hno] at h
      cases h
    simp [Char.isAlphanum, hdigit]
  · simp [h]

theorem isBareChar_of_mem_digits {c : Char} {cs : List Char}
    (h : c ∈ cs.take (cs.takeWhile Text.isDecimalDigit).length) : isBareChar c = true := by
  rw [← List.prefix_iff_eq_take.1 (List.takeWhile_prefix _)] at h
  exact isBareChar_of_isDecimalDigit (List.mem_takeWhile_imp h)

theorem isBareChar_of_mem_sign {c : Char} {cs : List Char} (h : c ∈ cs.take (signLength cs)) : isBareChar c = true := by
  unfold signLength Text.takeSign at h
  split at h
  · rw [List.length_cons, Nat.add_sub_cancel_left, List.take_one, List.head?_cons] at h
    simp at h
    rw [h]
    decide
  · simp at h
    rw [h]
    decide
  · simp at h

theorem drop_signLength (cs : List Char) : cs.drop (signLength cs) = (Text.takeSign cs).2 := by
  unfold signLength Text.takeSign
  split <;> simp

theorem mem_take_add {α : Type} {a : α} {as : List α} {m n : ℕ} (h : a ∈ as.take (m + n)) :
    a ∈ as.take m ∨ a ∈ (as.drop m).take n := by
  rwa [List.take_add, List.mem_append] at h

theorem isBareChar_of_mem_fraction {c : Char} {cs : List Char} (h : c ∈ cs.take (fractionLength cs)) :
    isBareChar c = true := by
  unfold fractionLength at h
  split at h
  · rw [Nat.add_comm, List.take_succ_cons, List.mem_cons] at h
    rcases h with rfl | h
    · decide
    · exact isBareChar_of_mem_digits h
  · cases h

theorem isBareChar_of_mem_exponent {c : Char} {cs : List Char} (h : c ∈ cs.take (exponentLength cs)) :
    isBareChar c = true := by
  unfold exponentLength at h
  split at h
  · rename_i e more
    dsimp only at h
    split_ifs at h with he hcount
    · cases h
    · rw [Nat.add_comm 1, Nat.add_right_comm, List.take_succ_cons, List.mem_cons] at h
      -- the mark of the exponent, then its sign and digits
      rcases h with rfl | h
      · simp only [Bool.or_eq_true, decide_eq_true_eq] at he
        rcases he with rfl | rfl <;> decide
      · rcases mem_take_add h with h | h
        · exact isBareChar_of_mem_sign h
        · rw [drop_signLength] at h
          exact isBareChar_of_mem_digits h
    · cases h
  · cases h

/-- Numbers are bare words. -/
theorem isBareChar_of_mem_number {c : Char} {cs : List Char} (h : c ∈ cs.take (numberLength cs)) :
    isBareChar c = true := by
  rw [numberLength_eq] at h
  dsimp only at h
  split_ifs at h
  · cases h
  · -- the sign, the whole part, the fraction and the exponent, taken off from the right
    rcases mem_take_add h with h | h
    · rcases mem_take_add h with h | h
      · rcases mem_take_add h with h | h
        · exact isBareChar_of_mem_sign h
        · rw [drop_signLength] at h
          exact isBareChar_of_mem_digits h
      · rw [← List.drop_drop, drop_signLength] at h
        exact isBareChar_of_mem_fraction h
    · rw [← List.drop_drop, ← List.drop_drop, drop_signLength] at h
      exact isBareChar_of_mem_exponent h

/-! ## Arguments -/

theorem readArgument_of_isQuote {c : Char} (hc : isQuote c = true) (rest : List Char) :
    readArgument (c :: rest) = (readString c rest).map fun (value, length) => (.text value, length) := by
  rw [readArgument]
  exact if_pos hc

theorem readArgument_of_not_isQuote {c : Char} (hc : isQuote c = false) (rest : List Char) :
    readArgument (c :: rest) =
      if numberLength (c :: rest) = 0 then .error (.piece .argument ((c :: rest).take excerptLength))
      else .ok (.number ((c :: rest).take (numberLength (c :: rest))), numberLength (c :: rest)) := by
  rw [isQuote] at hc
  rw [readArgument, if_neg (by simp [hc])]

/-- A whole number is as long as it is written, in front of a comma or a parenthesis. -/
theorem numberLength_integer {sign run : List Char} (hsign : Text.IsSign sign) (hne : run ≠ [])
    (hrun : ∀ c ∈ run, Text.isDecimalDigit c = true) {c : Char} (hc : c ∈ [',', ')']) (rest : List Char) :
    numberLength (sign ++ (run ++ c :: rest)) = sign.length + run.length := by
  have hunsigned : (Text.takeSign (sign ++ (run ++ c :: rest))).2 = run ++ c :: rest := by
    obtain ⟨d, ds, rfl⟩ := List.exists_cons_of_ne_nil hne
    exact Text.takeSign_cons hsign (hrun d List.mem_cons_self) _
  -- neither separator goes on with a number, so fraction and exponent are empty
  have hstop : Text.isDecimalDigit c = false ∧ c ≠ '.' ∧ c ∉ ['e', 'E'] := by
    simp only [List.mem_cons, List.not_mem_nil, or_false] at hc
    rcases hc with rfl | rfl <;> decide
  have hwhole : (run ++ c :: rest).takeWhile Text.isDecimalDigit = run :=
    Text.takeWhile_run hrun (Text.stopsAt_cons.2 hstop.1)
  have hfraction : fractionLength (c :: rest) = 0 :=
    fractionLength_of_ne fun more heq => hstop.2.1 (List.cons.inj heq).1
  have hexponent : exponentLength (c :: rest) = 0 :=
    exponentLength_of_ne fun e he more heq => hstop.2.2 ((List.cons.inj heq).1 ▸ he)
  have hlength : signLength (sign ++ (run ++ c :: rest)) = sign.length := by
    rw [signLength, hunsigned, List.length_append, Nat.add_sub_cancel]
  rw [numberLength_eq]
  simp only [hunsigned, hwhole, List.drop_left, hfraction, List.drop_zero, hexponent, hlength, hne, false_and, if_false,
    Nat.add_zero]

/-- A whole number is made of what bare words are made of. -/
theorem bare_of_mem_integer {sign run : List Char} (hsign : Text.IsSign sign)
    (hrun : ∀ c ∈ run, Text.isDecimalDigit c = true) {d : Char} (hd : d ∈ sign ++ run) :
    isBareChar d = true ∧ d ≠ ')' := by
  rcases List.mem_append.1 hd with hd | hd
  · have hsigns : ∀ d ∈ ['-', '+'], isBareChar d = true ∧ d ≠ ')' := by simp [isBareChar, Text.isWordChar]
    rcases hsign with rfl | rfl | rfl
    · cases hd
    · exact hsigns d (List.mem_cons.2 (.inl (List.mem_singleton.1 hd)))
    · exact hsigns d (List.mem_cons_of_mem _ hd)
  · refine ⟨isBareChar_of_isDecimalDigit (hrun d hd), ?_⟩
    rintro rfl
    exact absurd (hrun _ hd) (by decide)

/-- A whole number is read as it is written. -/
theorem readArgument_integer {sign run : List Char} (hsign : Text.IsSign sign) (hne : run ≠ [])
    (hrun : ∀ c ∈ run, Text.isDecimalDigit c = true) {c : Char} (hc : c ∈ [',', ')']) (rest : List Char) :
    readArgument (sign ++ (run ++ c :: rest)) = .ok (.number (sign ++ run), (sign ++ run).length) := by
  have hlength := numberLength_integer hsign hne hrun hc rest
  obtain ⟨d, ds, hcons⟩ := List.exists_cons_of_ne_nil (show sign ++ run ≠ [] by simp [hne])
  have hquote : isQuote d = false :=
    (opens_nothing_of_isBareChar (bare_of_mem_integer hsign hrun (hcons ▸ List.mem_cons_self)).1).1
  rw [← List.append_assoc] at hlength ⊢
  rw [← List.length_append] at hlength
  rw [hcons, List.cons_append] at hlength ⊢
  rw [readArgument_of_not_isQuote hquote, hlength, if_neg (by simp), ← List.cons_append, List.take_left]

/-- An argument is read from collapsed text as it is from the text itself. -/
theorem readArgument_collapseBehind {value : Bool} {c : Char} {rest : List Char} {argument : Argument} {n : ℕ}
    (hc : Text.isBlank c = false) (hquiet : Quiet value (c :: rest))
    (h : readArgument (c :: rest) = .ok (argument, n)) :
    readArgument (c :: collapseBehind rest) = .ok (argument, n) ∧
      (c :: collapseBehind rest).drop n = collapseBehind ((c :: rest).drop n) ∧ Quiet false ((c :: rest).drop n) := by
  cases hquote : isQuote c with
  | true =>
    -- a quiet string is its own collapse, so it is read as it stood
    rw [readArgument_of_isQuote hquote] at h ⊢
    obtain ⟨⟨text, length⟩, hread, hpair⟩ := map_eq_ok.1 h
    cases hpair
    obtain ⟨raw, signs, more, rfl, rfl, hscan, hlocal⟩ := exists_of_readString hquote hread
    obtain ⟨hcollapse, hmore⟩ := hquiet.string hquote (hscan more)
    have hbehind (more : List Char) : (c :: (signs ++ c :: more)).drop (signs.length + 2) = more :=
      List.drop_length_add_append 1
    rw [hcollapse, hlocal, hbehind, hbehind]
    exact ⟨rfl, rfl, hmore⟩
  | false =>
    -- a number is a run of bare characters, none of them a blank
    rw [readArgument_of_not_isQuote hquote] at h ⊢
    split_ifs at h with hzero
    cases h
    have hlength := numberLength_collapseBehind (c :: rest)
    rw [Text.collapseBehind_cons_of_visible hc] at hlength
    set n := numberLength (c :: rest)
    have hbare : ∀ d ∈ (c :: rest).take n, isBareChar d = true := fun d hd => isBareChar_of_mem_number hd
    have hcollapse := (stays_of_bare hbare).take_drop
    rw [Text.collapseBehind_cons_of_visible hc] at hcollapse
    have hne : (c :: rest).take n ≠ [] := by simp [hzero]
    have hmore : Quiet false ((c :: rest).drop n) := by
      rw [← List.take_append_drop n (c :: rest)] at hquiet
      exact hquiet.bare hne hbare
    rw [hlength, if_neg hzero, hcollapse.1]
    exact ⟨rfl, hcollapse.2, hmore⟩

/-- An argument and the sign behind it are found in collapsed text as they are in the text itself. -/
theorem argument_collapseBehind {value : Bool} {cs rest more : List Char} {c sign : Char} {argument : Argument} {n : ℕ}
    (hquiet : Quiet value cs) (hstart : skipBlanks cs = c :: rest)
    (hread : readArgument (c :: rest) = .ok (argument, n))
    (hsign : skipBlanks ((c :: rest).drop n) = sign :: more) (hquote : isQuote sign = false) :
    readArgument (c :: collapseBehind rest) = .ok (argument, n) ∧
      skipBlanks ((c :: collapseBehind rest).drop n) = sign :: collapseBehind more ∧
      Quiet (opensValue (some sign)) more := by
  have hquiet := hquiet.skipBlanks
  rw [hstart] at hquiet
  obtain ⟨hread', hdrop, hquiet⟩ := readArgument_collapseBehind (skipBlanks_eq_cons hstart).1 hquiet hread
  obtain ⟨hblank, hsign'⟩ := skipBlanks_eq_cons hsign
  have hquiet := hquiet.skipBlanks
  rw [hsign] at hquiet
  rw [hdrop]
  exact ⟨hread', hsign', hquiet.cons hblank hquote (by simp)⟩

/-- The arguments in front of a text and the text behind their closing parenthesis, where nothing runs out. -/
inductive Arguments : (isFirst : Bool) → List Char → List Argument → List Char → Prop where
  | none {cs behind : List Char} (close : skipBlanks cs = ')' :: behind) : Arguments true cs [] behind
  | last {isFirst : Bool} {cs rest behind : List Char} {c : Char} {argument : Argument} {n : ℕ}
    (start : skipBlanks cs = c :: rest) (some : ¬(c = ')' ∧ isFirst = true))
    (read : readArgument (c :: rest) = .ok (argument, n)) (close : skipBlanks ((c :: rest).drop n) = ')' :: behind) :
    Arguments isFirst cs [argument] behind
  | next {isFirst : Bool} {cs rest more behind : List Char} {c : Char} {argument : Argument} {n : ℕ}
    {arguments : List Argument} (start : skipBlanks cs = c :: rest) (some : ¬(c = ')' ∧ isFirst = true))
    (read : readArgument (c :: rest) = .ok (argument, n)) (comma : skipBlanks ((c :: rest).drop n) = ',' :: more)
    (others : Arguments false more arguments behind) : Arguments isFirst cs (argument :: arguments) behind

section

variable {text cs behind : List Char} {isFirst : Bool} {arguments : List Argument}

theorem arguments_of_readArguments {fuel : ℕ} (h : readArguments text fuel isFirst cs = .ok (arguments, behind)) :
    Arguments isFirst cs arguments behind := by
  induction fuel generalizing isFirst cs arguments with
  | zero => cases h
  | succ fuel ih =>
    rw [readArguments] at h
    split at h
    · cases h
    · rename_i c rest hskip
      split_ifs at h with hfirst
      · cases h
        obtain ⟨rfl, rfl⟩ := hfirst
        exact .none hskip
      · obtain ⟨⟨argument, n⟩, hread, h⟩ := bind_eq_ok.1 h
        dsimp only at h
        split at h
        · obtain ⟨⟨others, behind'⟩, hothers, h⟩ := bind_eq_ok.1 h
          cases h
          exact .next hskip hfirst hread ‹_› (ih hothers)
        · cases h
          exact .last hskip hfirst hread ‹_›
        · cases h

theorem length_skipBlanks_le (cs : List Char) : (skipBlanks cs).length ≤ cs.length :=
  (List.dropWhile_suffix _).length_le

/-- There are at most as many arguments as characters. -/
theorem Arguments.readArguments (h : Arguments isFirst cs arguments behind) (text : List Char) {fuel : ℕ}
    (hfuel : cs.length < fuel) : readArguments text fuel isFirst cs = .ok (arguments, behind) := by
  obtain ⟨fuel, rfl⟩ := Nat.exists_eq_succ_of_ne_zero (Nat.ne_zero_of_lt hfuel)
  induction h generalizing fuel with
  | none hclose =>
    rw [Shorthand.readArguments, hclose]
    rfl
  | last hstart hsome hread hclose =>
    rw [Shorthand.readArguments, hstart]
    simp [hsome, hread, hclose, bind, Except.bind]
  | @next _ cs rest more _ c _ n _ hstart hsome hread hcomma _ ih =>
    -- the fuel counts characters, and an argument takes at least one
    have hle := length_skipBlanks_le cs
    have hle' := length_skipBlanks_le ((c :: rest).drop n)
    rw [hstart] at hle
    rw [hcomma, List.length_drop, List.length_cons] at hle'
    obtain ⟨fuel, rfl⟩ := Nat.exists_eq_succ_of_ne_zero (show fuel ≠ 0 by omega)
    rw [Shorthand.readArguments, hstart]
    simp [hsome, hread, hcomma, ih fuel (by omega), bind, Except.bind]

/-- A whole number in front of a comma or a parenthesis starts the arguments of a call. -/
theorem start_integer {sign run : List Char} (hsign : Text.IsSign sign) (hne : run ≠ [])
    (hrun : ∀ c ∈ run, Text.isDecimalDigit c = true) {sep : Char} (hsep : sep ∈ [',', ')']) (rest : List Char) :
    ∃ c more, skipBlanks (sign ++ (run ++ sep :: rest)) = c :: more ∧ c ≠ ')' ∧
      readArgument (c :: more) = .ok (.number (sign ++ run), (sign ++ run).length) ∧
      skipBlanks ((c :: more).drop (sign ++ run).length) = sep :: rest := by
  have hread := readArgument_integer hsign hne hrun hsep rest
  obtain ⟨d, ds, hcons⟩ := List.exists_cons_of_ne_nil (show sign ++ run ≠ [] by simp [hne])
  obtain ⟨hbare, hclose⟩ := bare_of_mem_integer hsign hrun (hcons ▸ List.mem_cons_self)
  have hsplit : sign ++ (run ++ sep :: rest) = d :: (ds ++ sep :: rest) := by
    rw [← List.append_assoc, hcons, List.cons_append]
  have hblank : Text.isBlank sep = false := by
    simp only [List.mem_cons, List.not_mem_nil, or_false] at hsep
    rcases hsep with rfl | rfl <;> decide
  -- no character of a number and neither separator is a blank, so none is skipped
  refine ⟨d, ds ++ sep :: rest, ?_, hclose, hsplit ▸ hread, ?_⟩
  · rw [hsplit]
    exact Text.dropWhile_of_stopsAt (stopsAt_cons.2 (isBlank_of_isBareChar hbare))
  · rw [hcons, ← List.cons_append, List.drop_left]
    exact Text.dropWhile_of_stopsAt (stopsAt_cons.2 hblank)

theorem arguments_integer {sign run : List Char} (hsign : Text.IsSign sign) (hne : run ≠ [])
    (hrun : ∀ c ∈ run, Text.isDecimalDigit c = true) (isFirst : Bool) (rest : List Char) :
    Arguments isFirst (sign ++ (run ++ ')' :: rest)) [.number (sign ++ run)] rest := by
  obtain ⟨c, more, hstart, hclose, hread, hbehind⟩ := start_integer hsign hne hrun (List.mem_cons_of_mem ',' List.mem_cons_self) rest
  exact .last hstart (fun h => hclose h.1) hread hbehind

theorem suffix_of_skipBlanks {c : Char} {rest : List Char} (h : skipBlanks cs = c :: rest) : rest <:+ cs :=
  (List.suffix_cons c rest).trans (h ▸ List.dropWhile_suffix _)

theorem suffix_of_skipBlanks_drop {c d : Char} {rest more : List Char} {n : ℕ} (h : skipBlanks cs = c :: rest)
    (h' : skipBlanks ((c :: rest).drop n) = d :: more) : more <:+ cs :=
  (suffix_of_skipBlanks h').trans ((List.drop_suffix _ _).trans (h ▸ List.dropWhile_suffix _))

theorem Arguments.suffix (h : Arguments isFirst cs arguments behind) : behind <:+ cs := by
  induction h with
  | none hclose => exact suffix_of_skipBlanks hclose
  | last hstart _ _ hclose => exact suffix_of_skipBlanks_drop hstart hclose
  | next hstart _ _ hcomma _ ih => exact ih.trans (suffix_of_skipBlanks_drop hstart hcomma)

/-- The arguments of a call are read from collapsed text as they are from the text itself. -/
theorem Arguments.collapsed {value : Bool} (h : Arguments isFirst cs arguments behind) (hquiet : Quiet value cs) :
    Arguments isFirst (collapseBehind cs) arguments (collapseBehind behind) ∧ Quiet false behind := by
  induction h generalizing value with
  | none hclose =>
    have hquiet := hquiet.skipBlanks
    rw [hclose] at hquiet
    exact ⟨.none (skipBlanks_eq_cons hclose).2, hquiet.cons (by decide) (by decide) (by simp)⟩
  | last hstart hsome hread hclose =>
    obtain ⟨hread', hclose', hquiet⟩ := argument_collapseBehind hquiet hstart hread hclose (by decide)
    exact ⟨.last (skipBlanks_eq_cons hstart).2 hsome hread' hclose', hquiet⟩
  | next hstart hsome hread hcomma _ ih =>
    obtain ⟨hread', hcomma', hquiet⟩ := argument_collapseBehind hquiet hstart hread hcomma (by decide)
    obtain ⟨hothers, hquiet⟩ := ih hquiet
    exact ⟨.next (skipBlanks_eq_cons hstart).2 hsome hread' hcomma' hothers, hquiet⟩

end

end DocBrowser.Shorthand
