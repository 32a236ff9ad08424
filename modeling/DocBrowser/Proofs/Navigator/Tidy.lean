import Mathlib
import DocBrowser.Navigator.Selection
import DocBrowser.Proofs.Json.Members
/-!
# Tidied data

Tidying turns data over many lines into the same data on one, with a space inside of brackets and
behind commas and colons. What stands inside strings is not looked at, so no quote, comma or brace of
a string is taken for one of the data.
-/

namespace DocBrowser

/-! ## Data on one padded line -/

namespace Json

/-- One line with a space inside of brackets and behind commas and colons. -/
def Layout.padded : Layout := ⟨fun _ => [' '], fun _ => [' '], [' ']⟩

theorem Layout.padded_blank : Layout.padded.Blank :=
  ⟨by simp [padded, isSpace], by simp [padded, isSpace], by simp [padded, isSpace]⟩

/-- A character is visible and no sign of structure: constants and numbers have no others. -/
structure Bare (c : Char) : Prop where
  visible : Text.isBlank c = false
  quote : c ≠ '"'
  comma : c ≠ ','
  opening : c ≠ '\x7b'
  closing : c ≠ '\x7d'

theorem bare_of_isDigit {c : Char} (h : c.isDigit = true) : Bare c := by
  refine ⟨Text.isBlank_of_isDigit h, ?_, ?_, ?_, ?_⟩ <;> rintro rfl <;> cases h

theorem bare_of_mem {c : Char}
    (h : c ∈ ['-', '+', '.', 'e', 'a', 'n', 't', 'r', 'u', 'l', 'f', 's', '[', ']']) : Bare c := by
  simp only [List.mem_cons, List.not_mem_nil, or_false] at h
  rcases h with rfl | rfl | rfl | rfl | rfl | rfl | rfl | rfl | rfl | rfl | rfl | rfl | rfl | rfl <;>
    exact ⟨by decide, by decide, by decide, by decide, by decide⟩

theorem bare_signs {n : Numeral} (h : n.Spelled) : ∀ c ∈ n.signs, Bare c := by
  intro c hc
  rcases mem_signs h hc with hfour | hdigit
  · apply bare_of_mem
    simp only [List.mem_cons, List.not_mem_nil, or_false] at hfour
    rcases hfour with rfl | rfl | rfl | rfl <;> simp
  · exact bare_of_isDigit hdigit

theorem signs_ne_nil {n : Numeral} (h : n.Spelled) : n.signs ≠ [] := by
  obtain ⟨d, ds, -, hcons⟩ := signs_eq_cons h
  rw [hcons]
  split <;> simp

/-- Data without members is written in bare characters, as a string, or as an empty object. -/
theorem compactText_cases {data : Json} (h : data.Readable) (hmembers : data.members = []) :
    (data.compactText ≠ [] ∧ ∀ c ∈ data.compactText, Bare c) ∨
      (∃ cs, data.compactText = writeText false cs) ∨ data.compactText = ['\x7b', '\x7d'] := by
  rw [compactText, write]
  -- bare words and numbers, strings, and the empty array and object
  cases data with
  | null => exact .inl ⟨by simp [writeAt], fun c hc => bare_of_mem (by simp [writeAt] at hc ⊢; tauto)⟩
  | bool value =>
    cases value
    · exact .inl ⟨by simp [writeAt], fun c hc => bare_of_mem (by simp [writeAt] at hc ⊢; tauto)⟩
    · exact .inl ⟨by simp [writeAt], fun c hc => bare_of_mem (by simp [writeAt] at hc ⊢; tauto)⟩
  | int value =>
    rw [writeAt, ← signs_ofInt]
    exact .inl ⟨signs_ne_nil (spelled_ofInt value), bare_signs (spelled_ofInt value)⟩
  | float value =>
    cases value with
    | finite negative place =>
      obtain ⟨n, hspelled, hsigns, -⟩ := numeral_of_finite negative place
      rw [writeAt, writeDouble_finite, ← hsigns]
      exact .inl ⟨signs_ne_nil hspelled, bare_signs hspelled⟩
    | _ => cases h
  | str value => exact .inr (.inl ⟨value.toList, by rw [writeAt]⟩)
  | arr items =>
    obtain rfl : items = [] := by simpa [members] using hmembers
    exact .inl ⟨by simp [writeAt], fun c hc => bare_of_mem (by simp [writeAt] at hc ⊢; tauto)⟩
  | obj fields =>
    obtain rfl : fields = [] := by simpa [members] using hmembers
    exact .inr (.inr (by rw [writeAt]))

/-- Written data ends in something visible other than a comma. -/
theorem writeAt_eq_append (layout : Layout) (depth : ℕ) {data : Json} (h : data.Readable) :
    ∃ front c, writeAt ⟨layout, false⟩ depth data = front ++ [c] ∧ Text.isBlank c = false ∧ c ≠ ',' := by
  by_cases hmembers : data.members = []
  · rw [writeAt_of_members_eq_nil _ _ hmembers]
    rcases compactText_cases h hmembers with ⟨hne, hbare⟩ | ⟨cs, hcs⟩ | hempty
    · refine ⟨_, _, (List.dropLast_append_getLast hne).symm, ?_⟩
      have hlast := hbare _ (List.getLast_mem hne)
      exact ⟨hlast.visible, hlast.comma⟩
    · exact ⟨'"' :: inside cs, '"', hcs.trans (writeText_eq cs), by decide, by decide⟩
    · exact ⟨['\x7b'], '\x7d', hempty, by decide, by decide⟩
  · rw [writeAt_of_members _ _ hmembers]
    simp only [← List.append_assoc, ← List.cons_append]
    refine ⟨_, _, rfl, ?_⟩
    unfold closing
    split <;> decide

end Json

namespace Selection

open Json

variable {last : Option Char} {rest : List Char}

/-! ## Places -/

theorem Place.next_outside {c : Char} (h : c ≠ '"') : Place.outside.next c = .outside := if_neg h

theorem Place.next_outside_of_isBlank {c : Char} (h : Text.isBlank c = true) : Place.outside.next c = .outside := by
  refine next_outside ?_
  rintro rfl
  exact absurd h (by decide)

theorem Place.next_inside {c : Char} (hquote : c ≠ '"') (hbackslash : c ≠ '\\') : Place.inside.next c = .inside := by
  simp [next, hquote, hbackslash]

/-! ## Tidying signs -/

/-- A visible character is kept as it is, unless it stands at a brace. -/
theorem tidyFrom_outside {c : Char} (hc : Text.isBlank c = false) (hbrace : c ≠ '\x7d') (hlast : last ≠ some '\x7b') :
    tidyFrom .outside last (c :: rest) = c :: tidyFrom (Place.outside.next c) (some c) rest := by
  rw [tidyFrom, if_pos rfl, spaced, if_neg (by simp [hc]), if_neg hbrace, if_neg hlast]
  rfl

/-- Blanks are dropped at the start and behind a space. -/
theorem tidyFrom_blanks {gap : List Char} (hgap : ∀ c ∈ gap, Text.isBlank c = true)
    (hlast : last = none ∨ last = some ' ') : tidyFrom .outside last (gap ++ rest) = tidyFrom .outside last rest := by
  induction gap with
  | nil => rfl
  | cons c gap ih =>
    have hc : Text.isBlank c = true := hgap c (by simp)
    have hspaced : spaced last c = [] := by
      rw [spaced, if_pos hc]
      rcases hlast with rfl | rfl <;> rfl
    rw [List.cons_append, tidyFrom, if_pos rfl, hspaced, Place.next_outside_of_isBlank hc]
    simpa using ih fun d hd => hgap d (List.mem_cons_of_mem _ hd)

/-- Blanks behind something visible become one space. -/
theorem tidyFrom_gap {c z : Char} (gap : List Char) (hgap : ∀ d ∈ c :: gap, Text.isBlank d = true) (hz : z ≠ ' ') :
    tidyFrom .outside (some z) (c :: (gap ++ rest)) = ' ' :: tidyFrom .outside (some ' ') rest := by
  have hc : Text.isBlank c = true := hgap c (by simp)
  have hspaced : spaced (some z) c = [' '] := by
    rw [spaced, if_pos hc]
    simp [hz]
  rw [tidyFrom, if_pos rfl, hspaced, Place.next_outside_of_isBlank hc, List.singleton_append]
  show ' ' :: tidyFrom .outside (some ' ') (gap ++ rest) = _
  rw [tidyFrom_blanks (fun d hd => hgap d (List.mem_cons_of_mem _ hd)) (.inr rfl)]

theorem isBlank_of_mem_lineStart {depth : ℕ} : ∀ c ∈ lineStart depth, Text.isBlank c = true := by
  intro c hc
  rcases List.mem_cons.1 hc with rfl | hc
  · decide
  · rw [List.eq_of_mem_replicate hc]
    decide

/-- The start of a line becomes a space. -/
theorem tidyFrom_lineStart (depth : ℕ) {z : Char} (hz : z ≠ ' ') :
    tidyFrom .outside (some z) (lineStart depth ++ rest) = ' ' :: tidyFrom .outside (some ' ') rest :=
  tidyFrom_gap _ isBlank_of_mem_lineStart hz

/-! ## Tidying strings -/

/-- Inside a string all signs of a character are kept, and the string goes on behind them. -/
theorem tidyFrom_written (last : Option Char) (rest : List Char) {c : Char} {signs : List Char} (h : Written c signs) :
    ∃ z, tidyFrom .inside last (signs ++ rest) = signs ++ tidyFrom .inside z rest := by
  cases h with
  | plain hquote hbackslash _ => exact ⟨some c, by simp [tidyFrom, Place.next, hquote, hbackslash]⟩
  | named letter _ _ _ => exact ⟨some letter, by simp [tidyFrom, Place.next]⟩
  | numbered hcontrol =>
    obtain ⟨high, low, hescape, hdigits⟩ := unicodeEscape_eq (show c.toNat < 256 by omega)
    have hhigh := hdigits high (by simp)
    have hlow := hdigits low (by simp)
    refine ⟨some low, ?_⟩
    rw [hescape]
    simp [tidyFrom, Place.next, hhigh, hlow]

theorem tidyFrom_inside (cs : List Char) :
    tidyFrom .inside last (inside cs ++ '"' :: rest) = inside cs ++ '"' :: tidyFrom .outside (some '"') rest := by
  induction cs generalizing last with
  | nil => simp [tidyFrom, Place.next]
  | cons c cs ih =>
    obtain ⟨z, hz⟩ := tidyFrom_written last (inside cs ++ '"' :: rest) (written_writeChar c)
    rw [inside_cons, List.append_assoc, hz, ih, List.append_assoc]

/-- A string is kept as it is. -/
theorem tidyFrom_writeText (cs : List Char) (hlast : last ≠ some '\x7b') :
    tidyFrom .outside last (writeText false cs ++ rest) = writeText false cs ++ tidyFrom .outside (some '"') rest := by
  rw [writeText_eq, List.cons_append, tidyFrom_outside (by decide) (by decide) hlast, List.append_assoc,
    List.singleton_append]
  show '"' :: tidyFrom .inside (some '"') _ = _
  rw [tidyFrom_inside]
  simp

/-! ## Tidying data -/

/--
A text is tidied to another one wherever it stands behind something other than an opening brace, and
it ends in something visible other than that.
-/
def Tidies (text out : List Char) : Prop :=
  ∀ last, last ≠ some '\x7b' → ∃ z, z ≠ ' ' ∧ z ≠ '\x7b' ∧
    ∀ rest, tidyFrom .outside last (text ++ rest) = out ++ tidyFrom .outside (some z) rest

theorem tidies_bare {cs : List Char} (hne : cs ≠ []) (h : ∀ c ∈ cs, Bare c) : Tidies cs cs := by
  intro last hlast
  induction cs generalizing last with
  | nil => exact absurd rfl hne
  | cons c cs ih =>
    obtain ⟨hblank, hquote, -, hopen, hclose⟩ := h c (by simp)
    have hspace : c ≠ ' ' := by
      rintro rfl
      exact absurd hblank (by decide)
    have hnext := Place.next_outside hquote
    -- the last character is what the tidying goes on from, so the induction stops one short of it
    by_cases hcs : cs = []
    · subst hcs
      refine ⟨c, hspace, hopen, fun rest => ?_⟩
      rw [List.singleton_append, tidyFrom_outside hblank hclose hlast, hnext]
      rfl
    · obtain ⟨z, hz, hz', htidy⟩ := ih hcs (fun d hd => h d (List.mem_cons_of_mem _ hd)) (some c) (by simpa using hopen)
      refine ⟨z, hz, hz', fun rest => ?_⟩
      rw [List.cons_append, tidyFrom_outside hblank hclose hlast, hnext, htidy, List.cons_append]

theorem tidies_compactText {data : Json} (h : data.Readable) (hmembers : data.members = []) :
    Tidies data.compactText data.compactText := by
  rcases compactText_cases h hmembers with ⟨hne, hbare⟩ | ⟨cs, hcs⟩ | hempty
  · exact tidies_bare hne hbare
  · rw [hcs]
    intro last hlast
    exact ⟨'"', by decide, by decide, fun rest => tidyFrom_writeText cs hlast⟩
  · rw [hempty]
    intro last hlast
    refine ⟨'\x7d', by decide, by decide, fun rest => ?_⟩
    rw [List.cons_append, tidyFrom_outside (by decide) (by decide) hlast]
    rfl

theorem tidies_memberText (depth : ℕ) (member : Option String × Json)
    (h : Tidies (writeAt ⟨.indented, false⟩ depth member.2) (writeAt ⟨.padded, false⟩ depth member.2)) :
    Tidies (memberText .indented depth member) (memberText .padded depth member) := by
  obtain ⟨key?, value⟩ := member
  cases key? with
  | none => exact h
  | some key =>
    intro last hlast
    obtain ⟨z, hz, hz', htidy⟩ := h (some ' ') (by decide)
    refine ⟨z, hz, hz', fun rest => ?_⟩
    -- behind the key stand a colon and one space in both layouts
    have hcolon (behind : List Char) : tidyFrom .outside (some '"') (':' :: ' ' :: behind) =
        ':' :: ' ' :: tidyFrom .outside (some ' ') behind := by
      rw [tidyFrom_outside (by decide) (by decide) (by decide)]
      exact congrArg _ (tidyFrom_gap [] (by simp [Text.isBlank]) (by decide))
    simp only [memberText, label, Layout.indented, Layout.padded, List.append_assoc, List.cons_append, List.nil_append]
    rw [tidyFrom_writeText _ hlast, hcolon]
    simp only [List.append_cancel_left_eq, List.cons.injEq, true_and]
    exact htidy rest

/-- Members below each other become members behind each other. -/
theorem tidies_joinWith (depth : ℕ) {members : List (Option String × Json)} (hne : members ≠ [])
    (h : ∀ member ∈ members, Tidies (memberText .indented depth member) (memberText .padded depth member)) :
    Tidies (Text.joinWith (',' :: lineStart depth) (members.map (memberText .indented depth)))
      (Text.joinWith [',', ' '] (members.map (memberText .padded depth))) := by
  induction members with
  | nil => exact absurd rfl hne
  | cons member members ih =>
    cases members with
    | nil => exact h member (by simp)
    | cons next members =>
      intro last hlast
      obtain ⟨z, hz, hz', hmember⟩ := h member (by simp) last hlast
      obtain ⟨w, hw, hw', hothers⟩ :=
        ih (by simp) (fun m hm => h m (List.mem_cons_of_mem _ hm)) (some ' ') (by decide)
      refine ⟨w, hw, hw', fun rest => ?_⟩
      -- the comma stays, and the line start behind it becomes one space
      have hcomma (behind : List Char) : tidyFrom .outside (some z) (',' :: (lineStart depth ++ behind)) =
          ',' :: ' ' :: tidyFrom .outside (some ' ') behind := by
        rw [tidyFrom_outside (by decide) (by decide) (by simpa using hz')]
        exact congrArg _ (tidyFrom_lineStart depth (by decide))
      simp only [List.map_cons, Text.joinWith, List.append_assoc, List.cons_append, List.nil_append]
      rw [hmember, hcomma]
      simp only [List.append_cancel_left_eq, List.cons.injEq, true_and]
      exact hothers rest

/-- Data over many lines becomes data on one padded line. -/
theorem tidies_writeAt {data : Json} (h : data.Readable) (depth : ℕ) :
    Tidies (writeAt ⟨.indented, false⟩ depth data) (writeAt ⟨.padded, false⟩ depth data) := by
  induction data using members_induction generalizing depth with
  | step data ih =>
    by_cases hmembers : data.members = []
    · rw [writeAt_of_members_eq_nil _ _ hmembers, writeAt_of_members_eq_nil _ _ hmembers]
      exact tidies_compactText h hmembers
    · -- a bracket, a line start, the members, a line start and a bracket, each tidied in turn
      rw [writeAt_of_members _ _ hmembers, writeAt_of_members _ _ hmembers]
      have hinner : ∀ member ∈ data.members,
          Tidies (memberText .indented (depth + 1) member) (memberText .padded (depth + 1) member) := by
        intro member hmember
        exact tidies_memberText (depth + 1) member (ih member hmember (h.member hmember) (depth + 1))
      have hopening : Text.isBlank data.opening = false ∧ data.opening ≠ '\x7d' ∧ data.opening ≠ ' ' ∧
          data.opening ≠ '"' := by
        unfold opening
        split <;> decide
      have hclosing : data.closing ≠ ' ' ∧ data.closing ≠ '\x7b' ∧ ∀ behind,
          tidyFrom .outside (some ' ') (data.closing :: behind) =
            data.closing :: tidyFrom .outside (some data.closing) behind := by
        unfold closing
        split <;> exact ⟨by decide, by decide, fun _ => rfl⟩
      obtain ⟨hblank, hbrace, hspace, hquote⟩ := hopening
      have hnext := Place.next_outside hquote
      intro last hlast
      obtain ⟨z, hz, -, hjoined⟩ := tidies_joinWith (depth + 1) hmembers hinner (some ' ') (by decide)
      refine ⟨data.closing, hclosing.1, hclosing.2.1, fun rest => ?_⟩
      simp only [Layout.indented, Layout.padded, List.append_assoc, List.cons_append, List.nil_append]
      rw [tidyFrom_outside hblank hbrace hlast, hnext, tidyFrom_lineStart _ hspace]
      simp only [Layout.indented, Layout.padded] at hjoined
      rw [hjoined, tidyFrom_lineStart _ hz, hclosing.2.2]

end Selection

end DocBrowser
