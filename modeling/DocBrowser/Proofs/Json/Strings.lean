import Mathlib
import DocBrowser.Json.Token
import DocBrowser.Json.Write
import DocBrowser.Proofs.Text.Bytes
/-!
# Strings read back

Every character of a string is written so that reading it takes exactly what was written and gives
the character back. Nothing between the quotes is an unescaped quote or a control character.
-/

namespace DocBrowser.Json

/-- The signs between the quotes of a string. -/
def inside (cs : List Char) : List Char := cs.flatMap (writeChar false)

@[simp] theorem inside_nil : inside [] = [] := rfl

@[simp] theorem inside_cons (c : Char) (cs : List Char) : inside (c :: cs) = writeChar false c ++ inside cs := rfl

theorem writeText_eq (cs : List Char) : writeText false cs = '"' :: (inside cs ++ ['"']) := rfl

/-! ## The forms of a character -/

/-- A character stands for itself, or is named by a letter behind a backslash, or numbered by four digits. -/
inductive Written (c : Char) : List Char → Prop where
  | plain (quote : c ≠ '"') (backslash : c ≠ '\\') (control : 32 ≤ c.toNat) : Written c [c]
  | named (letter : Char) (name : namedEscape? letter = some c) (ascii : letter.toNat < 128)
    (low : 32 ≤ letter.toNat) : Written c ['\\', letter]
  | numbered (control : c.toNat < 32) : Written c (unicodeEscape c.toNat)

theorem written_writeChar (c : Char) : Written c (writeChar false c) := by
  unfold writeChar
  split_ifs with hquote hbackslash hn hr ht hf hb hcontrol h
  · exact hquote ▸ .named '"' rfl (by decide) (by decide)
  · exact hbackslash ▸ .named '\\' rfl (by decide) (by decide)
  · exact hn ▸ .named 'n' rfl (by decide +kernel) (by decide)
  · exact hr ▸ .named 'r' rfl (by decide +kernel) (by decide)
  · exact ht ▸ .named 't' rfl (by decide +kernel) (by decide)
  · exact hf ▸ .named 'f' rfl (by decide +kernel) (by decide)
  · exact hb ▸ .named 'b' rfl (by decide +kernel) (by decide)
  · exact .numbered hcontrol
  · simp at h
  · exact .plain hquote hbackslash (not_lt.1 hcontrol)

/-- A control character is numbered by digits that are neither quotes nor backslashes. -/
theorem unicodeEscape_eq {n : ℕ} (h : n < 256) :
    ∃ high low, unicodeEscape n = ['\\', 'u', '0', '0', high, low] ∧
      ∀ d ∈ [high, low], d ≠ '"' ∧ d ≠ '\\' ∧ 32 ≤ d.toNat ∧ d.toNat < 128 := by
  have hdigit : ∀ m < 16, Nat.digitChar m ≠ '"' ∧ Nat.digitChar m ≠ '\\' ∧
      32 ≤ (Nat.digitChar m).toNat ∧ (Nat.digitChar m).toNat < 128 := by decide
  refine ⟨Nat.digitChar (n / 16), Nat.digitChar (n % 16), by rw [unicodeEscape, Text.hexText_four h], ?_⟩
  intro d hd
  simp only [List.mem_cons, List.not_mem_nil, or_false] at hd
  rcases hd with rfl | rfl
  · exact hdigit _ (by omega)
  · exact hdigit _ (by omega)

/-- Four digits give the number that they were written for. -/
theorem hexQuad?_hexText {n : ℕ} (h : n < 65536) :
    ∃ a b c d, Text.hexText 4 n = [a, b, c, d] ∧ hexQuad? a b c d = some n := by
  refine ⟨Nat.digitChar (n / 256 / 16), Nat.digitChar (n / 256 % 16), Nat.digitChar (n / 16 % 16),
    Nat.digitChar (n % 16), ?_, ?_⟩
  · rw [Text.hexText_succ (by norm_num), Text.hexText_succ (by norm_num), Nat.div_div_eq_div_mul,
      Text.hexText_two (by omega)]
    rfl
  · simp only [hexQuad?, Text.hexDigit?_digitChar _ (show n / 256 / 16 < 16 by omega),
      Text.hexDigit?_digitChar _ (show n / 256 % 16 < 16 by omega),
      Text.hexDigit?_digitChar _ (show n / 16 % 16 < 16 by omega),
      Text.hexDigit?_digitChar _ (show n % 16 < 16 by omega), Option.bind_eq_bind, Option.bind_some]
    congr 1
    omega

/-- No letter that names a character is the one that announces a number. -/
theorem ne_u_of_namedEscape? {letter c : Char} (h : namedEscape? letter = some c) : letter ≠ 'u' := by
  rintro rfl
  simp [namedEscape?] at h

end DocBrowser.Json
