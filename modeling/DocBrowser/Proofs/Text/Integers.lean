import Mathlib
import DocBrowser.Proofs.Text.Digits
/-!
# Whole numbers in the digits of any script

A text that is a sign and digits is a whole number whatever its digits are, and it is read unless there are
too many of them.
-/

namespace DocBrowser.Text

/-! ## Digits of any script -/

/-- A decimal digit is one of ASCII, or stands within nine places of a script's zero. -/
theorem isDecimalDigit_cases {c : Char} (h : isDecimalDigit c = true) :
    c.isDigit = true ∨ ∃ start ∈ decimalZeros, 128 ≤ c.toNat ∧ start ≤ c.toNat ∧ c.toNat ≤ start + 9 := by
  rw [isDecimalDigit, decimalValue?] at h
  split_ifs at h with hascii hdigit
  · exact .inl hdigit
  · cases h
  · rw [Option.isSome_map, List.find?_isSome] at h
    obtain ⟨start, hzero, hspan⟩ := h
    simp only [Bool.and_eq_true, decide_eq_true_eq] at hspan
    exact .inr ⟨start, hzero, by omega, hspan⟩

theorem digitBelow?_isSome {c : Char} (h : isDecimalDigit c = true) :
    ∃ d, spacedDigits?.digitBelow? 10 c = some d := by
  obtain ⟨d, hd⟩ := Option.isSome_iff_exists.1 h
  refine ⟨d, ?_⟩
  have hlt : d < 10 := lt_of_decimalValue? hd
  rw [spacedDigits?.digitBelow?, digitValue?, hd]
  exact Option.filter_some_pos (by simpa using hlt)

/-- No script has its digits where white space is. -/
theorem isBlank_of_isDecimalDigit {c : Char} (h : isDecimalDigit c = true) : isBlank c = false := by
  rcases isDecimalDigit_cases h with h | ⟨start, hzero, hascii, hlow, hhigh⟩
  · exact isBlank_of_isDigit h
  · have hapart : ∀ start ∈ decimalZeros, start = 48 ∨ 160 < start ∧ start + 9 < 5760 ∨
        5760 < start ∧ start + 9 < 8192 ∨ 12288 < start := by decide
    have := hapart start hzero
    simp only [isBlank, Bool.or_eq_false_iff, Bool.and_eq_false_iff, decide_eq_false_iff_not, beq_eq_false_iff_ne]
    omega

theorem spacedDigits?_of_isDecimalDigit {cs : List Char} (hne : cs ≠ []) (h : ∀ c ∈ cs, isDecimalDigit c = true) :
    ∃ ds, spacedDigits? 10 cs = some ds ∧ ds.length = cs.length := by
  induction cs with
  | nil => exact absurd rfl hne
  | cons c rest ih =>
    obtain ⟨hc, hrest⟩ := List.forall_mem_cons.1 h
    obtain ⟨d, hd⟩ := digitBelow?_isSome hc
    cases rest with
    | nil => exact ⟨[d], by simp [spacedDigits?, hd], rfl⟩
    | cons c' rest =>
      have hseparator : c' ≠ '_' := by
        rintro rfl
        exact absurd (hrest '_' (by simp)) (by decide)
      obtain ⟨ds, hds, hlength⟩ := ih (by simp) hrest
      exact ⟨d :: ds, by simp [spacedDigits?_cons_cons rest hseparator, hd, hds], by simp [hlength]⟩

/-! ## Whole numbers -/

/-- A sign, if there is one. -/
def IsSign (sign : List Char) : Prop := sign = [] ∨ sign = ['-'] ∨ sign = ['+']

/-- A whole number is a sign and digits, with at most a newline behind them. -/
theorem isIntegerText_cases {raw : List Char} (h : isIntegerText raw = true) :
    ∃ sign run ending, raw = sign ++ (run ++ ending) ∧ IsSign sign ∧ run ≠ [] ∧
      (∀ c ∈ run, isDecimalDigit c = true) ∧ (ending = [] ∨ ending = ['\n']) := by
  have hsign : ∃ sign, raw = sign ++ (takeSign raw).2 ∧ IsSign sign := by
    unfold takeSign
    split
    · exact ⟨['-'], rfl, .inr (.inl rfl)⟩
    · exact ⟨['+'], rfl, .inr (.inr rfl)⟩
    · exact ⟨[], rfl, .inl rfl⟩
  obtain ⟨sign, hraw, hsign⟩ := hsign
  simp only [isIntegerText, Bool.and_eq_true, decide_eq_true_eq, Bool.or_eq_true] at h
  obtain ⟨hne, hending⟩ := h
  refine ⟨sign, (takeSign raw).2.takeWhile isDecimalDigit, (takeSign raw).2.dropWhile isDecimalDigit, ?_, hsign, ?_, ?_,
    hending⟩
  · rw [List.takeWhile_append_dropWhile]
    exact hraw
  · -- with no digit at all, everything behind the sign would be the ending, which the reader rules out
    intro hnil
    have hsplit := List.takeWhile_append_dropWhile (p := isDecimalDigit) (l := (takeSign raw).2)
    rw [hnil, List.nil_append] at hsplit
    exact hne (by rw [hsplit])
  · exact fun c hc => List.mem_takeWhile_imp hc

/-- A whole number has as many digits as it is long between its sign and its end. -/
theorem filter_isDecimalDigit {sign run ending : List Char} (hsign : IsSign sign)
    (hrun : ∀ c ∈ run, isDecimalDigit c = true) (hending : ending = [] ∨ ending = ['\n']) :
    (sign ++ (run ++ ending)).filter isDecimalDigit = run := by
  have hsign' : sign.filter isDecimalDigit = [] := by rcases hsign with rfl | rfl | rfl <;> decide
  have hending' : ending.filter isDecimalDigit = [] := by rcases hending with rfl | rfl <;> decide
  rw [List.filter_append, List.filter_append, hsign', hending', List.filter_eq_self.2 hrun, List.nil_append,
    List.append_nil]

theorem trimNumber_integer {sign run ending : List Char} (hsign : IsSign sign) (hne : run ≠ [])
    (hrun : ∀ c ∈ run, isDecimalDigit c = true) (hending : ending = [] ∨ ending = ['\n']) :
    trimNumber (sign ++ (run ++ ending)) = sign ++ run := by
  -- neither the sign nor a digit is white space, so nothing inside is trimmed
  have hinside : ∀ c ∈ sign ++ run, isNumberBlank c = false := by
    intro c hc
    have hblank : isBlank c = false := by
      rcases List.mem_append.1 hc with hc | hc
      · rcases hsign with rfl | rfl | rfl
        · cases hc
        · cases List.mem_singleton.1 hc
          decide
        · cases List.mem_singleton.1 hc
          decide
      · exact isBlank_of_isDecimalDigit (hrun c hc)
    simp [isNumberBlank, hblank]
  have hnonempty : sign ++ run ≠ [] := by simp [hne]
  rw [← List.append_assoc, trimNumber]
  have hstart : StopsAt isNumberBlank (sign ++ run ++ ending) := by
    obtain ⟨c, rest, hcons⟩ := List.exists_cons_of_ne_nil hnonempty
    rw [hcons, List.cons_append, stopsAt_cons]
    exact hinside c (by rw [hcons]; simp)
  have hend : ∀ c ∈ ending.reverse, isNumberBlank c = true := by
    rcases hending with rfl | rfl
    · simp
    · simp [isNumberBlank, isBlank]
  rw [dropWhile_of_stopsAt hstart, dropEndWhile, List.reverse_append, dropWhile_run hend ?_, List.reverse_reverse]
  exact stopsAt_of_forall fun c hc => hinside c (List.mem_reverse.1 hc)

/-- A sign is split off in front of a digit. -/
theorem takeSign_cons {sign : List Char} (hsign : IsSign sign) {c : Char} (hc : isDecimalDigit c = true)
    (rest : List Char) : (takeSign (sign ++ c :: rest)).2 = c :: rest := by
  rcases hsign with rfl | rfl | rfl
  · rw [List.nil_append]
    unfold takeSign
    split
    · cases List.cons.inj ‹_› with
      | intro h _ => subst h; exact absurd hc (by decide)
    · cases List.cons.inj ‹_› with
      | intro h _ => subst h; exact absurd hc (by decide)
    · rfl
  · rfl
  · rfl

theorem takeSign_integer {sign run : List Char} (hsign : IsSign sign) (hrun : ∀ c ∈ run, isDecimalDigit c = true) :
    (takeSign (sign ++ run)).2 = run := by
  cases run with
  | nil => rcases hsign with rfl | rfl | rfl <;> rfl
  | cons c rest => exact takeSign_cons hsign (hrun c List.mem_cons_self) rest

theorem isIntegerText_integer {sign run : List Char} (hsign : IsSign sign) (hne : run ≠ [])
    (hrun : ∀ c ∈ run, isDecimalDigit c = true) : isIntegerText (sign ++ run) = true := by
  rw [isIntegerText, takeSign_integer hsign hrun]
  simp [List.dropWhile_eq_nil_iff.2 hrun, hne]

/-- A whole number within the limit is read. -/
theorem exists_readInt_integer {sign run : List Char} (hsign : IsSign sign) (hne : run ≠ [])
    (hrun : ∀ c ∈ run, isDecimalDigit c = true) (hlimit : run.length ≤ digitLimit) :
    ∃ n, readInt (sign ++ run) = .ok n := by
  obtain ⟨ds, hds, hlength⟩ := spacedDigits?_of_isDecimalDigit hne hrun
  have htrim := trimNumber_integer hsign hne hrun (.inl rfl)
  rw [List.append_nil] at htrim
  rw [readInt, htrim]
  simp only [takeSign_integer hsign hrun, hds, natOfDigits, hlength, if_neg (Nat.not_lt.2 hlimit)]
  exact ⟨_, rfl⟩

/-- A whole number is refused for its length exactly if it has more digits than the limit. -/
theorem readInt_eq_tooManyDigits_iff {raw : List Char} (h : isIntegerText raw = true) :
    (∃ count, readInt raw = .error (.tooManyDigits count)) ↔ digitLimit < (raw.filter isDecimalDigit).length := by
  obtain ⟨sign, run, ending, rfl, hsign, hne, hrun, hending⟩ := isIntegerText_cases h
  obtain ⟨ds, hds, hlength⟩ := spacedDigits?_of_isDecimalDigit hne hrun
  rw [filter_isDecimalDigit hsign hrun hending, readInt, trimNumber_integer hsign hne hrun hending]
  simp only [takeSign_integer hsign hrun, hds]
  rw [natOfDigits, hlength]
  split_ifs with hlimit <;> simp [Except.map, hlimit]

end DocBrowser.Text
