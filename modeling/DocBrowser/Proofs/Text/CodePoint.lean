import Mathlib
import DocBrowser.Text.CodePoint
/-!
# Encoding text of code points

A text is encoded exactly if it is a text of characters. Cutting a text into words and joining them keeps
every surrogate, since none is white space, so what is collapsed can be encoded exactly if the text can.
-/

namespace DocBrowser

/-! ## Words -/

namespace Text

variable {α β : Type}

/-- The words of a list are made of those of its elements that are not blank. -/
theorem flatten_wordsBy (blank : α → Bool) (as : List α) : (wordsBy blank as).flatten = as.filter (!blank ·) := by
  fun_induction wordsBy blank as <;> simp_all

theorem wordsBy_map (blank : β → Bool) (f : α → β) (as : List α) :
    wordsBy blank (as.map f) = (wordsBy (blank ∘ f) as).map (List.map f) := by
  induction as with
  | nil => rfl
  | cons a as ih =>
    rw [List.map_cons, wordsBy.eq_def, wordsBy.eq_def (blank ∘ f) (a :: as)]
    cases as with
    | nil => by_cases ha : blank (f a) <;> simp [ha, wordsBy]
    | cons b as =>
      simp only [List.map_cons, Function.comp_apply] at ih ⊢
      rw [ih]
      split_ifs
      · rfl
      · rfl
      · cases wordsBy (blank ∘ f) (b :: as) <;> rfl

theorem joinWith_map (f : α → β) (separator : List α) (pieces : List (List α)) :
    joinWith (separator.map f) (pieces.map (List.map f)) = (joinWith separator pieces).map f := by
  induction pieces with
  | nil => rfl
  | cons piece pieces ih =>
    cases pieces with
    | nil => rfl
    | cons next pieces => simp_all [joinWith]

/-- What is not in the separator is in joined pieces exactly if it is in one of them. -/
theorem mem_joinWith_iff {separator : List α} {a : α} (ha : a ∉ separator) (pieces : List (List α)) :
    a ∈ joinWith separator pieces ↔ a ∈ pieces.flatten := by
  induction pieces with
  | nil => rfl
  | cons piece pieces ih =>
    cases pieces with
    | nil => simp [joinWith]
    | cons next pieces => simp_all [joinWith]

end Text

namespace RawText

/-! ## Characters -/

theorem chars?_char (c : Char) (text : RawText) : chars? (.char c :: text) = text.chars?.map (c :: ·) := by
  rw [chars?, List.mapM_cons]
  cases h : text.mapM CodePoint.char? <;> simp [chars?, CodePoint.char?, h]

theorem chars?_surrogate (offset : Fin 0x800) (text : RawText) : chars? (.surrogate offset :: text) = none := by
  simp [chars?, CodePoint.char?]

@[simp] theorem chars?_ofChars (cs : List Char) : (ofChars cs).chars? = some cs := by
  induction cs with
  | nil => rfl
  | cons c cs ih =>
    have hcons := chars?_char c (ofChars cs)
    rw [ih] at hcons
    exact hcons

theorem ofChars_injective : Function.Injective ofChars := fun _ _ h => by
  simpa using congrArg chars? h

/-- A text that cannot be encoded holds a surrogate, and any other is a text of characters. -/
theorem eq_ofChars_or_surrogate (text : RawText) :
    (∃ cs, text = ofChars cs) ∨ text.chars? = none ∧ ∃ offset, .surrogate offset ∈ text := by
  induction text with
  | nil => exact .inl ⟨[], rfl⟩
  | cons point text ih =>
    cases point with
    | surrogate offset => exact .inr ⟨chars?_surrogate offset text, offset, List.mem_cons_self⟩
    | char c =>
      rcases ih with ⟨cs, rfl⟩ | ⟨hnone, offset, hmem⟩
      · exact .inl ⟨c :: cs, rfl⟩
      · exact .inr ⟨by rw [chars?_char, hnone]; rfl, offset, List.mem_cons_of_mem _ hmem⟩

theorem surrogate_not_mem_ofChars (cs : List Char) (offset : Fin 0x800) : .surrogate offset ∉ ofChars cs := by
  simp [ofChars]

theorem chars?_eq_none_iff {text : RawText} : text.chars? = none ↔ ∃ offset, .surrogate offset ∈ text := by
  rcases eq_ofChars_or_surrogate text with ⟨cs, rfl⟩ | ⟨hnone, hmem⟩
  · simp [surrogate_not_mem_ofChars]
  · simp [hnone, hmem]

theorem encoded_ofChars (cs : List Char) : (ofChars cs).encoded = .ok cs := by
  rw [encoded, chars?_ofChars]

theorem encoded_of_surrogate {text : RawText} {offset : Fin 0x800} (h : .surrogate offset ∈ text) :
    text.encoded = .error (.conversion text.refusal) := by
  rw [encoded, chars?_eq_none_iff.2 ⟨offset, h⟩]

/-! ## Collapsed text -/

theorem collapse_ofChars (cs : List Char) : (ofChars cs).collapse = ofChars (Text.collapse cs) := by
  have hwords := Text.wordsBy_map CodePoint.isBlank CodePoint.char cs
  rw [collapse, ofChars, hwords]
  exact Text.joinWith_map CodePoint.char [' '] (Text.words cs)

theorem surrogate_mem_collapse {text : RawText} {offset : Fin 0x800} (h : .surrogate offset ∈ text) :
    .surrogate offset ∈ text.collapse := by
  rw [collapse, Text.mem_joinWith_iff (by simp), Text.flatten_wordsBy]
  exact List.mem_filter.2 ⟨h, rfl⟩

end RawText

end DocBrowser
