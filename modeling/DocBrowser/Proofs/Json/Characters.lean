import Mathlib
import DocBrowser.Proofs.Json.Reading
/-!
# Characters of written JSON

Written on one line, data shows a character outside printable ASCII only where one of its strings or
keys has it: control characters are escaped, and all other signs are ASCII.
-/

namespace DocBrowser.Json

mutual

/-- Whether a string or a key of data, at any depth, has a character of a class. -/
def textAny (p : Char → Bool) : Json → Bool
  | .str text => text.toList.any p
  | .arr items => textAnyItems p items
  | .obj fields => textAnyFields p fields
  | _ => false

@[inherit_doc textAny]
def textAnyItems (p : Char → Bool) : List Json → Bool
  | [] => false
  | item :: rest => textAny p item || textAnyItems p rest

@[inherit_doc textAny]
def textAnyFields (p : Char → Bool) : List (String × Json) → Bool
  | [] => false
  | (key, value) :: rest => key.toList.any p || textAny p value || textAnyFields p rest

end

/-- Whether a class has no character of printable ASCII. -/
def NotPrintable (p : Char → Bool) : Prop := ∀ c : Char, 32 ≤ c.toNat → c.toNat < 128 → p c = false

/-- The characters of a class that strings show as they are. -/
def unescaped (p : Char → Bool) (c : Char) : Bool := 32 ≤ c.toNat && p c

section

variable {p : Char → Bool} (hp : NotPrintable p)

include hp

/-! ## Strings -/

theorem any_eq_false {cs : List Char} (h : ∀ c ∈ cs, 32 ≤ c.toNat ∧ c.toNat < 128) : cs.any p = false := by
  rw [List.any_eq_false]
  intro c hc
  simp [hp c (h c hc).1 (h c hc).2]

/-- What is escaped is escaped by ASCII signs. -/
theorem any_written {c : Char} {signs : List Char} (h : Written c signs) : signs.any p = unescaped p c := by
  cases h with
  | plain _ _ hcontrol => simp [unescaped, hcontrol]
  | named letter hname hascii hlow =>
    have hnamed : c.toNat < 128 := by
      unfold namedEscape? at hname
      split at hname <;> simp at hname <;> subst hname <;> simp
    have hc : unescaped p c = false := by
      unfold unescaped
      by_cases hlow' : 32 ≤ c.toNat
      · simp [hp c hlow' hnamed]
      · simp [hlow']
    rw [hc]
    apply any_eq_false hp
    intro d hd
    rcases List.mem_cons.1 hd with rfl | hd
    · simp
    · rw [List.mem_singleton.1 hd]
      exact ⟨hlow, hascii⟩
  | numbered hcontrol =>
    -- a control character gives way to a backslash, a letter and digits
    have hc : unescaped p c = false := by simp [unescaped, Nat.not_le.2 hcontrol]
    obtain ⟨high, low, hescape, hdigits⟩ := unicodeEscape_eq (show c.toNat < 256 by omega)
    rw [hc, hescape]
    apply any_eq_false hp
    intro d hd
    simp only [List.mem_cons, List.not_mem_nil, or_false] at hd
    rcases hd with rfl | rfl | rfl | rfl | rfl | rfl
    · simp
    · simp
    · simp
    · simp
    · exact (hdigits _ (by simp)).2.2
    · exact (hdigits _ (by simp)).2.2

theorem any_inside (cs : List Char) : (inside cs).any p = cs.any (unescaped p) := by
  induction cs with
  | nil => rfl
  | cons c cs ih => rw [inside_cons, List.any_append, any_written hp (written_writeChar c), ih, List.any_cons]

theorem any_writeText (cs : List Char) : (writeText false cs).any p = cs.any (unescaped p) := by
  have hquote : p '"' = false := hp '"' (by decide) (by decide)
  simp [writeText_eq, any_inside hp, hquote]

/-! ## Numbers -/

theorem any_signs {n : Numeral} (h : n.Spelled) : n.signs.any p = false := by
  have hfour : ∀ c ∈ ['-', '+', '.', 'e'], 32 ≤ c.toNat ∧ c.toNat < 128 := by simp
  refine any_eq_false hp fun c hc => (mem_signs h hc).elim (hfour c) fun hd => ?_
  have hval := Text.toNat_of_isDigit hd
  omega

/-! ## Data on one line -/

theorem any_sign {c : Char} (h : 32 ≤ c.toNat ∧ c.toNat < 128) : p c = false := hp c h.1 h.2

mutual

/-- Apart from its strings, written data is printable ASCII. -/
theorem any_writeAt (depth : ℕ) (data : Json) (h : data.Readable) :
    (writeAt ⟨.compact, false⟩ depth data).any p = data.textAny (unescaped p) := by
  match data, h with
  | .null, _ => exact any_eq_false hp (by simp [writeAt])
  | .bool value, _ =>
    cases value
    · exact any_eq_false hp (by simp [writeAt])
    · exact any_eq_false hp (by simp [writeAt])
  | .int n, _ =>
    rw [writeAt, ← signs_ofInt, textAny]
    · exact any_signs hp (spelled_ofInt n)
    all_goals simp
  | .float (.finite negative place), _ =>
    obtain ⟨n, hspelled, hsigns, -⟩ := numeral_of_finite negative place
    rw [writeAt, writeDouble_finite, ← hsigns, textAny]
    · exact any_signs hp hspelled
    all_goals simp
  | .str value, _ =>
    rw [writeAt, textAny]
    exact any_writeText hp value.toList
  | .arr [], _ => exact any_eq_false hp (by simp [writeAt])
  | .arr (item :: items), h =>
    -- brackets are printable, so only the items count
    have hopen : p '[' = false := any_sign hp (by simp)
    have hclose : p ']' = false := any_sign hp (by simp)
    rw [writeAt, textAny, textAnyItems]
    simp only [Layout.compact_gap, List.append_nil, List.nil_append, List.cons_append, List.any_append,
      List.any_cons, List.any_nil, hopen, hclose, Bool.false_or, Bool.or_false, any_writeAt (depth + 1) item h.1,
      any_writeItems (depth + 1) items h.2]
  | .obj [], _ => exact any_eq_false hp (by simp [writeAt])
  | .obj ((key, value) :: fields), h =>
    have hopen : p '\x7b' = false := any_sign hp (by simp)
    have hclose : p '\x7d' = false := any_sign hp (by simp)
    have hcolon : p ':' = false := any_sign hp (by simp)
    rw [writeAt, textAny, textAnyFields]
    simp only [Layout.compact_gap, Layout.compact_afterColon, List.append_nil, List.nil_append, List.cons_append,
      List.any_append, List.any_cons, List.any_nil, hopen, hclose, hcolon, Bool.false_or, Bool.or_false,
      any_writeText hp, any_writeAt (depth + 1) value h.2.1, any_writeFields (depth + 1) fields h.2.2]

@[inherit_doc any_writeAt]
theorem any_writeItems (depth : ℕ) (items : List Json) (h : ReadableItems items) :
    (writeItems ⟨.compact, false⟩ depth items).any p = textAnyItems (unescaped p) items := by
  match items, h with
  | [], _ => rfl
  | item :: items, h =>
    have hcomma : p ',' = false := any_sign hp (by simp)
    rw [writeItems, textAnyItems]
    simp only [Layout.compact_afterComma, List.nil_append, List.cons_append, List.any_append, List.any_cons,
      hcomma, Bool.false_or, any_writeAt depth item h.1, any_writeItems depth items h.2]

@[inherit_doc any_writeAt]
theorem any_writeFields (depth : ℕ) (fields : List (String × Json)) (h : ReadableFields fields) :
    (writeFields ⟨.compact, false⟩ depth fields).any p = textAnyFields (unescaped p) fields := by
  match fields, h with
  | [], _ => rfl
  | (key, value) :: fields, h =>
    have hcomma : p ',' = false := any_sign hp (by simp)
    have hcolon : p ':' = false := any_sign hp (by simp)
    rw [writeFields, textAnyFields]
    simp only [Layout.compact_afterComma, Layout.compact_afterColon, List.nil_append, List.cons_append,
      List.any_append, List.any_cons, List.any_nil, hcomma, hcolon, Bool.false_or, Bool.or_false, any_writeText hp,
      any_writeAt depth value h.1, any_writeFields depth fields h.2]

end

/-- Data on one line has a character of a class where its strings show one. -/
theorem any_compactText {data : Json} (h : data.Readable) : data.compactText.any p = data.textAny (unescaped p) :=
  any_writeAt hp 0 data h

end

/-! ## Control characters -/

/-- Whether a layout is made of characters of a kind. -/
structure Layout.Only (layout : Layout) (P : Char → Prop) : Prop where
  gap : ∀ depth, ∀ c ∈ layout.gap depth, P c
  afterComma : ∀ depth, ∀ c ∈ layout.afterComma depth, P c
  afterColon : ∀ c ∈ layout.afterColon, P c

theorem Layout.compact_only (P : Char → Prop) : Layout.compact.Only P := ⟨by simp, by simp, by simp⟩

section

variable {P : Char → Prop} (hvisible : ∀ c : Char, 32 ≤ c.toNat → P c)

include hvisible

theorem forall_mem_writeText (ascii : Bool) (cs : List Char) : ∀ c ∈ writeText ascii cs, P c :=
  fun c hc => hvisible c (le_toNat_of_mem_writeText hc)

theorem forall_mem_signs {n : Numeral} (h : n.Spelled) : ∀ c ∈ n.signs, P c := by
  have hfour : ∀ c ∈ ['-', '+', '.', 'e'], 32 ≤ c.toNat := by simp
  refine fun c hc => hvisible c ((mem_signs h hc).elim (hfour c) fun hd => ?_)
  have hval := Text.toNat_of_isDigit hd
  omega

theorem forall_mem_writeDouble (d : Double) : ∀ c ∈ writeDouble d, P c := by
  cases d with
  | finite negative place =>
    obtain ⟨n, hspelled, hsigns, -⟩ := numeral_of_finite negative place
    rw [writeDouble_finite, ← hsigns]
    exact forall_mem_signs hvisible hspelled
  | infinite negative =>
    refine fun c hc => hvisible c ?_
    revert c
    cases negative <;> simp [writeDouble]
  | nan =>
    refine fun c hc => hvisible c ?_
    revert c
    simp [writeDouble]

variable {style : Style} (hlayout : style.layout.Only P)

include hlayout

mutual

/-- Written data shows no control character but those of its layout. -/
theorem forall_mem_writeAt (depth : ℕ) (data : Json) : ∀ c ∈ writeAt style depth data, P c := by
  match data with
  | .null => exact fun c hc => hvisible c (by revert c; simp [writeAt])
  | .bool value => exact fun c hc => hvisible c (by revert c; cases value <;> simp [writeAt])
  | .int n =>
    rw [writeAt, ← signs_ofInt]
    exact forall_mem_signs hvisible (spelled_ofInt n)
  | .float value =>
    rw [writeAt]
    exact forall_mem_writeDouble hvisible value
  | .str value =>
    rw [writeAt]
    exact forall_mem_writeText hvisible style.ascii value.toList
  | .arr [] => exact fun c hc => hvisible c (by revert c; simp [writeAt])
  | .arr (item :: items) =>
    rw [writeAt]
    simp only [List.forall_mem_append, List.forall_mem_cons]
    exact ⟨⟨⟨⟨⟨hvisible _ (by decide), hlayout.gap _⟩, forall_mem_writeAt (depth + 1) item⟩,
      forall_mem_writeItems (depth + 1) items⟩, hlayout.gap depth⟩, hvisible _ (by decide), List.forall_mem_nil _⟩
  | .obj [] => exact fun c hc => hvisible c (by revert c; simp [writeAt])
  | .obj ((key, value) :: fields) =>
    rw [writeAt]
    simp only [List.forall_mem_append, List.forall_mem_cons]
    exact ⟨⟨⟨⟨⟨⟨⟨hvisible _ (by decide), hlayout.gap _⟩, forall_mem_writeText hvisible style.ascii _⟩,
      hvisible _ (by decide), hlayout.afterColon⟩, forall_mem_writeAt (depth + 1) value⟩,
      forall_mem_writeFields (depth + 1) fields⟩, hlayout.gap depth⟩, hvisible _ (by decide), List.forall_mem_nil _⟩

@[inherit_doc forall_mem_writeAt]
theorem forall_mem_writeItems (depth : ℕ) (items : List Json) : ∀ c ∈ writeItems style depth items, P c := by
  match items with
  | [] => exact List.forall_mem_nil _
  | item :: items =>
    rw [writeItems]
    simp only [List.forall_mem_append, List.forall_mem_cons]
    exact ⟨⟨⟨hvisible _ (by decide), hlayout.afterComma depth⟩, forall_mem_writeAt depth item⟩,
      forall_mem_writeItems depth items⟩

@[inherit_doc forall_mem_writeAt]
theorem forall_mem_writeFields (depth : ℕ) (fields : List (String × Json)) :
    ∀ c ∈ writeFields style depth fields, P c := by
  match fields with
  | [] => exact List.forall_mem_nil _
  | (key, value) :: fields =>
    rw [writeFields]
    simp only [List.forall_mem_append, List.forall_mem_cons]
    exact ⟨⟨⟨⟨⟨hvisible _ (by decide), hlayout.afterComma depth⟩, forall_mem_writeText hvisible style.ascii _⟩,
      hvisible _ (by decide), hlayout.afterColon⟩, forall_mem_writeAt depth value⟩, forall_mem_writeFields depth fields⟩

end

end

/-- On one line, control characters are escaped. -/
theorem not_mem_compactText (data : Json) {c : Char} (hc : c.toNat < 32) : c ∉ data.compactText := by
  have hvisible : ∀ d ∈ data.compactText, 32 ≤ d.toNat :=
    forall_mem_writeAt (fun _ => id) (Layout.compact_only _) 0 data
  exact fun hmem => absurd (hvisible c hmem) (not_le.2 hc)

end DocBrowser.Json
