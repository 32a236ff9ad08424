import Mathlib
import DocBrowser.Text.Digits
import DocBrowser.Text.Quoted
/-!
# Digits read back

A whole number written in decimal digits reads back as itself, and so does a byte written in
two hexadecimal digits. ASCII digits are the only digits that are ever written, so every reader
sees them in the same way.
-/

namespace DocBrowser.Text

/-! ## White space -/

/-- The code points of white space. -/
def blankPoints : List ℕ :=
  [9, 10, 11, 12, 13, 28, 29, 30, 31, 32, 133, 160, 5760, 8192, 8193, 8194, 8195, 8196, 8197, 8198, 8199, 8200, 8201,
    8202, 8232, 8233, 8239, 8287, 12288]

/-- A class with no code point of white space has no white space. -/
theorem isBlank_of_class {p : Char → Bool} (h : ∀ n ∈ blankPoints, p (Char.ofNat n) = false) {c : Char}
    (hc : p c = true) : isBlank c = false := by
  cases hblank : isBlank c with
  | false => rfl
  | true =>
    have hmem : c.toNat ∈ blankPoints := by
      simp only [isBlank, Bool.or_eq_true, Bool.and_eq_true, decide_eq_true_eq, beq_iff_eq] at hblank
      simp only [blankPoints, List.mem_cons, List.not_mem_nil, or_false]
      omega
    have hno := h c.toNat hmem
    rw [Char.ofNat_toNat, hc] at hno
    cases hno

/-! ## Runs of characters -/

/-- Whether a text ends or goes on with a character outside of a class. -/
def StopsAt (p : Char → Bool) (cs : List Char) : Prop := ∀ c ∈ cs.head?, p c = false

@[simp] theorem stopsAt_nil (p : Char → Bool) : StopsAt p [] := by simp [StopsAt]

@[simp] theorem stopsAt_cons {p : Char → Bool} {c : Char} {cs : List Char} :
    StopsAt p (c :: cs) ↔ p c = false := by simp [StopsAt]

theorem StopsAt.mono {p q : Char → Bool} {cs : List Char} (h : StopsAt p cs)
    (hpq : ∀ c, p c = false → q c = false) : StopsAt q cs := fun c hc => hpq c (h c hc)

theorem dropWhile_of_stopsAt {p : Char → Bool} {cs : List Char} (h : StopsAt p cs) :
    cs.dropWhile p = cs := by
  cases cs with
  | nil => rfl
  | cons c rest => simp [stopsAt_cons.1 h]

theorem takeWhile_of_stopsAt {p : Char → Bool} {cs : List Char} (h : StopsAt p cs) :
    cs.takeWhile p = [] := by
  cases cs with
  | nil => rfl
  | cons c rest => simp [stopsAt_cons.1 h]

theorem drop_length_takeWhile (p : Char → Bool) (cs : List Char) :
    cs.drop (cs.takeWhile p).length = cs.dropWhile p := by
  have happend : (cs.takeWhile p ++ cs.dropWhile p).drop (cs.takeWhile p).length = cs.dropWhile p := List.drop_left
  rwa [List.takeWhile_append_dropWhile] at happend

theorem stopsAt_dropWhile (p : Char → Bool) (cs : List Char) : StopsAt p (cs.dropWhile p) := by
  intro c hc
  have hhead := List.head?_dropWhile_not p cs
  rw [Option.mem_def.1 hc] at hhead
  simpa using hhead

/-- A run ends where the text behind it leaves the class. -/
theorem takeWhile_run {p : Char → Bool} {run rest : List Char} (hrun : ∀ c ∈ run, p c = true)
    (hrest : StopsAt p rest) : (run ++ rest).takeWhile p = run := by
  rw [List.takeWhile_append_of_pos hrun, takeWhile_of_stopsAt hrest, List.append_nil]

theorem dropWhile_run {p : Char → Bool} {run rest : List Char} (hrun : ∀ c ∈ run, p c = true)
    (hrest : StopsAt p rest) : (run ++ rest).dropWhile p = rest := by
  rw [List.dropWhile_append_of_pos hrun, dropWhile_of_stopsAt hrest]

/-- A run goes on with nothing of a text that starts outside of the class. -/
theorem takeWhile_append_of_stopsAt {p : Char → Bool} (cs : List Char) {rest : List Char} (h : StopsAt p rest) :
    (cs ++ rest).takeWhile p = cs.takeWhile p := by
  induction cs with
  | nil => exact takeWhile_of_stopsAt h
  | cons c cs ih =>
    rw [List.cons_append, List.takeWhile_cons, List.takeWhile_cons, ih]

theorem StopsAt.of_append {p : Char → Bool} {cs rest : List Char} (h : StopsAt p (cs ++ rest)) : StopsAt p cs := by
  cases cs with
  | nil => exact stopsAt_nil p
  | cons c cs => exact stopsAt_cons.2 (stopsAt_cons.1 h)

/-- A word of some class starts a text with or without other text behind it. -/
theorem isPrefixOf_append_of_stopsAt {p : Char → Bool} {word rest : List Char} (hword : ∀ c ∈ word, p c = true)
    (hrest : StopsAt p rest) (cs : List Char) : word.isPrefixOf (cs ++ rest) = word.isPrefixOf cs := by
  induction word generalizing cs with
  | nil => simp [List.isPrefixOf]
  | cons d word ih =>
    rw [List.forall_mem_cons] at hword
    cases cs with
    | nil =>
      cases rest with
      | nil => rfl
      | cons e rest =>
        -- the word wants one more character of `p` where `rest` starts with one outside it
        have hne : d ≠ e := by
          rintro rfl
          rw [stopsAt_cons, hword.1] at hrest
          cases hrest
        simp [List.isPrefixOf, hne]
    | cons c cs => simp only [List.cons_append, List.isPrefixOf, ih hword.2]

theorem stopsAt_of_forall {p : Char → Bool} {cs : List Char} (h : ∀ c ∈ cs, p c = false) : StopsAt p cs :=
  fun c hc => h c (List.mem_of_mem_head? hc)

/-- Only the last character decides whether anything is dropped at the end. -/
theorem dropEndWhile_of_stopsAt {p : Char → Bool} {cs : List Char} (h : StopsAt p cs.reverse) :
    dropEndWhile p cs = cs := by
  rw [dropEndWhile, dropWhile_of_stopsAt h, List.reverse_reverse]

theorem dropEndWhile_sublist (p : Char → Bool) (cs : List Char) : (dropEndWhile p cs).Sublist cs := by
  have hsublist := (List.dropWhile_sublist p (l := cs.reverse)).reverse
  rwa [List.reverse_reverse] at hsublist

theorem dropEndWhile_eq_self_iff (c : Char) (line : List Char) :
    dropEndWhile (· = c) line = line ↔ line.getLast? ≠ some c := by
  constructor
  · intro h hlast
    obtain ⟨front, rfl⟩ := List.getLast?_eq_some_iff.1 hlast
    -- the character at the end is dropped, so the line gets shorter
    have hfront : dropEndWhile (· = c) (front ++ [c]) = dropEndWhile (· = c) front := by
      simp [dropEndWhile]
    have hle := (dropEndWhile_sublist (· = c) front).length_le
    rw [← hfront, h, List.length_append, List.length_singleton] at hle
    omega
  · intro hlast
    apply dropEndWhile_of_stopsAt
    intro d hd
    rw [List.head?_reverse] at hd
    rw [decide_eq_false_iff_not]
    intro hdc
    exact hlast (hdc ▸ hd)

/-- Trimming leaves a text that neither starts nor ends with white space. -/
theorem trim_of_stopsAt {cs : List Char} (hstart : StopsAt isBlank cs) (hend : StopsAt isBlank cs.reverse) :
    trim cs = cs := by
  rw [trim, trimStart, trimEnd, dropWhile_of_stopsAt hstart, dropEndWhile_of_stopsAt hend]

/-- What trimming drops at the end of a text that starts with something visible is white space. -/
theorem exists_eq_trim_append {cs : List Char} (hstart : StopsAt isBlank cs) :
    ∃ gap, cs = trim cs ++ gap ∧ ∀ c ∈ gap, isBlank c = true := by
  refine ⟨(cs.reverse.takeWhile isBlank).reverse, ?_, fun c hc => ?_⟩
  · rw [trim, trimStart, trimEnd, dropWhile_of_stopsAt hstart, dropEndWhile, ← List.reverse_append,
      List.takeWhile_append_dropWhile, List.reverse_reverse]
  · exact List.mem_takeWhile_imp (List.mem_reverse.1 hc)

/-! ## Values of digits -/

theorem ofDigitValues_append (base : ℕ) (xs ys : List ℕ) :
    ofDigitValues base (xs ++ ys) = ofDigitValues base xs * base ^ ys.length + ofDigitValues base ys := by
  induction ys using List.reverseRecOn with
  | nil => simp [ofDigitValues]
  | append_singleton ys y ih =>
    rw [← List.append_assoc]
    simp only [ofDigitValues, List.foldl_append, List.foldl_cons, List.foldl_nil,
      List.length_append, List.length_singleton] at ih ⊢
    rw [ih]
    ring

/-- A digit is worth more by the base from place to place, the last one its own value. -/
theorem ofDigitValues_eq_ofDigits (base : ℕ) (ds : List ℕ) :
    ofDigitValues base ds = Nat.ofDigits base ds.reverse := by
  induction ds using List.reverseRecOn with
  | nil => rfl
  | append_singleton ds d ih =>
    have hd : ofDigitValues base [d] = d := by simp [ofDigitValues]
    rw [ofDigitValues_append, ih, hd, List.reverse_append, List.reverse_singleton, List.singleton_append,
      Nat.ofDigits_cons, List.length_singleton, pow_one, Nat.mul_comm, Nat.add_comm]

theorem ofDigitValues_lt {ds : List ℕ} (h : ∀ d ∈ ds, d < 10) : ofDigitValues 10 ds < 10 ^ ds.length := by
  induction ds using List.reverseRecOn with
  | nil => decide
  | append_singleton ds d ih =>
    rw [List.forall_mem_append, List.forall_mem_singleton] at h
    have hds := ih h.1
    have hd : ofDigitValues 10 [d] = d := by simp [ofDigitValues]
    rw [ofDigitValues_append, hd, List.length_append, List.length_singleton, pow_one, pow_succ]
    omega

theorem natOfDigits_eq_ok_iff {ds : List ℕ} {n : ℕ} :
    natOfDigits ds = .ok n ↔ ds.length ≤ digitLimit ∧ ofDigitValues 10 ds = n := by
  unfold natOfDigits
  split_ifs with h
  · simp [h]
  · simp [not_lt.1 h]

theorem ofDigitValues_replicate_zero (base n : ℕ) : ofDigitValues base (List.replicate n 0) = 0 := by
  induction n with
  | zero => rfl
  | succ n ih => simpa [ofDigitValues, List.replicate_succ] using ih

/-- The digits of a number spell it. -/
theorem ofDigitValues_toDigits (n : ℕ) :
    ofDigitValues 10 ((Nat.toDigits 10 n).map fun c => c.toNat - 48) = n := by
  have h := Nat.ofDigitChars_ten_toDigits (n := n)
  rw [Nat.ofDigitChars_eq_foldl] at h
  rw [ofDigitValues, List.foldl_map]
  simpa [Nat.mul_comm] using h

theorem isDigit_of_mem_toDigits {c : Char} {n : ℕ} (h : c ∈ Nat.toDigits 10 n) : c.isDigit = true :=
  Nat.isDigit_of_mem_toDigits (by norm_num) (by norm_num) h

/-- Only zero is written with a zero in front. -/
theorem head?_toDigits {n : ℕ} (hn : 0 < n) : ∃ d ds, Nat.toDigits 10 n = d :: ds ∧ d ≠ '0' := by
  induction n using Nat.strongRecOn with
  | ind n ih =>
    by_cases h : n < 10
    · -- a single digit, and not that of zero
      refine ⟨Nat.digitChar n, [], Nat.toDigits_of_lt_base h, ?_⟩
      interval_cases n <;> decide
    · -- the last digit is added behind those of a smaller positive number
      obtain ⟨d, ds, hd, hne⟩ := ih (n / 10) (by omega) (by omega)
      refine ⟨d, ds ++ [Nat.digitChar (n % 10)], ?_, hne⟩
      rw [Nat.toDigits_of_base_le (by norm_num) (by omega), hd]
      rfl

/-- An ASCII digit lies between `0` and `9`. -/
theorem toNat_of_isDigit {c : Char} (h : c.isDigit = true) : 48 ≤ c.toNat ∧ c.toNat ≤ 57 := by
  simp only [Char.isDigit, Bool.and_eq_true, decide_eq_true_eq, ge_iff_le, UInt32.le_iff_toNat_le] at h
  exact h

theorem decimalValue?_of_isDigit {c : Char} (h : c.isDigit = true) :
    decimalValue? c = some (c.toNat - 48) := by
  have hc := toNat_of_isDigit h
  rw [decimalValue?, if_pos (by omega), if_pos h]

theorem lt_of_decimalValue? {c : Char} {d : ℕ} (h : decimalValue? c = some d) : d < 10 := by
  unfold decimalValue? at h
  split_ifs at h with hascii hdigit
  · cases h
    have hrange := toNat_of_isDigit hdigit
    omega
  · obtain ⟨start, hfind, rfl⟩ := Option.map_eq_some_iff.1 h
    have hspan := List.find?_some hfind
    simp only [Bool.and_eq_true, decide_eq_true_eq] at hspan
    omega

theorem isDecimalDigit_of_isDigit {c : Char} (h : c.isDigit = true) : isDecimalDigit c = true := by
  simp [isDecimalDigit, decimalValue?_of_isDigit h]

/-- White space is never an ASCII digit. -/
theorem isBlank_of_isDigit {c : Char} (h : c.isDigit = true) : isBlank c = false := by
  have hc := toNat_of_isDigit h
  simp only [isBlank, Bool.or_eq_false_iff, Bool.and_eq_false_iff, decide_eq_false_iff_not, beq_eq_false_iff_ne]
  omega

/-- An ASCII digit has no case. -/
theorem toLower_of_isDigit {c : Char} (h : c.isDigit = true) : c.toLower = c := by
  have hc := toNat_of_isDigit h
  rw [Char.toLower, dif_neg]
  rintro ⟨hlow, -⟩
  rw [ge_iff_le, UInt32.le_iff_toNat_le] at hlow
  change 65 ≤ c.toNat at hlow
  omega

/-- A fraction behind its point; nothing where there is no fraction. -/
def fractionSigns (fraction : List Char) : List Char := if fraction = [] then [] else '.' :: fraction

/-! ## Runs without separators -/

theorem spacedDigits?_cons_cons {base : ℕ} {c d : Char} (rest : List Char) (h : d ≠ '_') :
    spacedDigits? base (c :: d :: rest) =
      (spacedDigits?.digitBelow? base c).bind fun n => (spacedDigits? base (d :: rest)).map (n :: ·) := by
  rw [spacedDigits?]
  exact h

theorem spacedDigits?_of_isDigit {cs : List Char} (hne : cs ≠ []) (h : ∀ c ∈ cs, c.isDigit = true) :
    spacedDigits? 10 cs = some (cs.map fun c => c.toNat - 48) := by
  have hdigit : ∀ c ∈ cs, spacedDigits?.digitBelow? 10 c = some (c.toNat - 48) := by
    intro c hc
    have hval := toNat_of_isDigit (h c hc)
    simp only [spacedDigits?.digitBelow?, digitValue?, decimalValue?_of_isDigit (h c hc)]
    rw [Option.filter_some, if_pos (by simp; omega)]
  induction cs with
  | nil => exact absurd rfl hne
  | cons c rest ih =>
    have hc := hdigit c (by simp)
    -- the reader looks one character ahead for a separator, so the last digit is a case of its own
    cases rest with
    | nil => simp [spacedDigits?, hc]
    | cons d rest =>
      have hd : d ≠ '_' := by
        rintro rfl
        exact absurd (h '_' (by simp)) (by decide)
      have hrest := ih (by simp) (fun x hx => h x (by simp [hx])) (fun x hx => hdigit x (by simp [hx]))
      rw [spacedDigits?_cons_cons rest hd, hc, hrest]
      rfl

/-- Trimming leaves a text without white space. -/
theorem trim_eq_self {cs : List Char} (h : ∀ c ∈ cs, isBlank c = false) : trim cs = cs :=
  trim_of_stopsAt (stopsAt_of_forall h) (stopsAt_of_forall (by simpa using h))

theorem trimNumber_eq_self {cs : List Char} (h : ∀ c ∈ cs, isBlank c = false) : trimNumber cs = cs := by
  have hn : ∀ c ∈ cs, isNumberBlank c = false := by
    intro c hc
    simp [isNumberBlank, h c hc]
  rw [trimNumber, dropWhile_of_stopsAt (stopsAt_of_forall hn),
    dropEndWhile_of_stopsAt (stopsAt_of_forall (by simpa using hn))]

/-! ## Whole numbers -/

theorem takeSign_of_isDigit {cs : List Char} (h : ∀ c ∈ cs, c.isDigit = true) : takeSign cs = (false, cs) := by
  cases cs with
  | nil => rfl
  | cons c rest =>
    have hc := toNat_of_isDigit (h c (by simp))
    unfold takeSign
    split <;> simp_all

/-- The text of a number is a sign and digits. -/
theorem takeSign_intText (n : ℤ) : takeSign (intText n) = (decide (n < 0), Nat.toDigits 10 n.natAbs) := by
  unfold intText
  by_cases h : n < 0
  · simp [h, takeSign]
  · simp [h, takeSign_of_isDigit fun c hc => isDigit_of_mem_toDigits hc]

theorem natAbs_signed (negative : Bool) (n : ℕ) : (signed negative n).natAbs = n := by
  cases negative <;> simp [signed]

theorem signed_natAbs (n : ℤ) : signed (decide (n < 0)) n.natAbs = n := by
  unfold signed
  by_cases h : n < 0
  · rw [decide_eq_true h, if_pos rfl, Int.ofNat_natAbs_of_nonpos h.le, neg_neg]
  · rw [decide_eq_false h, if_neg (by simp), Int.natAbs_of_nonneg (not_lt.1 h)]

/-- The signs of a number's text are digits and a minus. -/
theorem mem_intText {c : Char} {n : ℤ} (h : c ∈ intText n) : c = '-' ∨ c.isDigit = true := by
  unfold intText at h
  split at h
  · rcases List.mem_cons.1 h with rfl | h
    · exact .inl rfl
    · exact .inr (isDigit_of_mem_toDigits h)
  · exact .inr (isDigit_of_mem_toDigits h)

theorem toNat_lt_of_mem_intText {c : Char} {n : ℤ} (h : c ∈ intText n) : c.toNat < 128 := by
  rcases mem_intText h with rfl | hd
  · decide
  · have hc := toNat_of_isDigit hd
    omega

theorem isBlank_of_mem_intText {c : Char} {n : ℤ} (h : c ∈ intText n) : isBlank c = false := by
  rcases mem_intText h with rfl | hd
  · decide
  · exact isBlank_of_isDigit hd

/-- A number below the limit of digits reads back. -/
theorem readInt_intText {n : ℤ} (h : n.natAbs < 10 ^ digitLimit) : readInt (intText n) = .ok n := by
  have hlen : (Nat.toDigits 10 n.natAbs).length ≤ digitLimit :=
    (Nat.length_toDigits_le_iff (by norm_num) (by decide)).2 h
  unfold readInt
  rw [trimNumber_eq_self fun c hc => isBlank_of_mem_intText hc, takeSign_intText]
  simp only
  rw [spacedDigits?_of_isDigit Nat.toDigits_ne_nil fun c hc => isDigit_of_mem_toDigits hc]
  simp only [natOfDigits, List.length_map, if_neg (not_lt.2 hlen), ofDigitValues_toDigits, Except.map,
    signed_natAbs]

theorem isIntegerText_intText (n : ℤ) : isIntegerText (intText n) = true := by
  have hall : (Nat.toDigits 10 n.natAbs).dropWhile isDecimalDigit = [] := by
    rw [List.dropWhile_eq_nil_iff]
    exact fun c hc => isDecimalDigit_of_isDigit (isDigit_of_mem_toDigits hc)
  simp [isIntegerText, takeSign_intText, hall]

/-! ## Two hexadecimal digits -/

/-- A byte takes two hexadecimal digits, behind zeros up to the width. -/
theorem hexText_byte {width n : ℕ} (hw : 2 ≤ width) (h : n < 256) :
    hexText width n =
      List.replicate (width - 2) '0' ++ [Nat.digitChar (n / 16), Nat.digitChar (n % 16)] := by
  unfold hexText
  by_cases hn : n < 16
  · -- the one digit has one more zero in front of it, and its quotient is zero
    have hwidth : width - 1 = width - 2 + 1 := by omega
    rw [Nat.toDigits_of_lt_base hn, Nat.div_eq_of_lt hn, Nat.mod_eq_of_lt hn]
    show List.replicate (width - 1) '0' ++ [Nat.digitChar n] = _
    rw [hwidth, List.replicate_succ', List.append_assoc]
    rfl
  · have hlt : n / 16 < 16 := by omega
    rw [Nat.toDigits_of_base_le (by norm_num) (by omega), Nat.toDigits_of_lt_base hlt]
    rfl

/-- One more digit is the last one. -/
theorem hexText_succ {width : ℕ} (hwidth : 1 ≤ width) (n : ℕ) :
    hexText (width + 1) n = hexText width (n / 16) ++ [Nat.digitChar (n % 16)] := by
  unfold hexText
  by_cases hn : n < 16
  · have hzeros : List.replicate width '0' = List.replicate (width - 1) '0' ++ ['0'] := by
      rw [← List.replicate_succ', Nat.sub_add_cancel hwidth]
    rw [Nat.toDigits_of_lt_base hn, Nat.div_eq_of_lt hn, Nat.mod_eq_of_lt hn]
    change List.replicate width '0' ++ _ = List.replicate (width - 1) '0' ++ ['0'] ++ _
    rw [hzeros]
  · rw [Nat.toDigits_of_base_le (by norm_num) (by omega)]
    simp

theorem hexText_two {n : ℕ} (h : n < 256) :
    hexText 2 n = [Nat.digitChar (n / 16), Nat.digitChar (n % 16)] :=
  hexText_byte le_rfl h

theorem hexText_four {n : ℕ} (h : n < 256) :
    hexText 4 n = ['0', '0', Nat.digitChar (n / 16), Nat.digitChar (n % 16)] :=
  hexText_byte (by norm_num) h

theorem toNat_lt_of_mem_hexText {c : Char} {n : ℕ} (hn : n < 256) (h : c ∈ hexText 2 n) : c.toNat < 128 := by
  have hdigit : ∀ m < 16, (Nat.digitChar m).toNat < 128 := by decide
  rw [hexText_two hn, List.mem_cons, List.mem_singleton] at h
  rcases h with rfl | rfl
  · exact hdigit _ (by omega)
  · exact hdigit _ (by omega)

/-- A hexadecimal digit is read with its value in base 16, in the same way by every reader. -/
theorem digitValue?_digitChar : ∀ n < 16, spacedDigits?.digitBelow? 16 (Nat.digitChar n) = some n := by
  decide

theorem isBlank_digitChar : ∀ n < 16, isBlank (Nat.digitChar n) = false := by decide

theorem takeSign_digitChar (rest : List Char) :
    ∀ n < 16, takeSign (Nat.digitChar n :: rest) = (false, Nat.digitChar n :: rest) := by
  intro n hn
  interval_cases n <;> rfl

/-- A byte in two hexadecimal digits reads back. -/
theorem readHexInt?_hexText {n : ℕ} (h : n < 256) : readHexInt? (hexText 2 n) = some n := by
  have hhigh : n / 16 < 16 := by omega
  have hlow : n % 16 < 16 := by omega
  have hblank : ∀ c ∈ hexText 2 n, isBlank c = false := by
    rw [hexText_two h]
    simpa using ⟨isBlank_digitChar _ hhigh, isBlank_digitChar _ hlow⟩
  have hx : ∀ m < 16, Nat.digitChar m ≠ 'x' ∧ Nat.digitChar m ≠ 'X' ∧ Nat.digitChar m ≠ '_' := by
    decide
  obtain ⟨hlower, hupper, hunder⟩ := hx _ hlow
  unfold readHexInt?
  rw [trimNumber_eq_self hblank, hexText_two h, takeSign_digitChar _ _ hhigh]
  simp only
  -- the second digit is no `x`, so nothing is dropped in front
  split
  · simp_all
  · simp_all
  · simp_all
  · simp_all
  · rw [spacedDigits?_cons_cons [] hunder]
    simp only [spacedDigits?, digitValue?_digitChar _ hhigh, digitValue?_digitChar _ hlow, Option.map_some,
      Option.bind_some, ofDigitValues, signed, List.foldl_cons, List.foldl_nil]
    congr 1
    simp
    omega

end DocBrowser.Text
