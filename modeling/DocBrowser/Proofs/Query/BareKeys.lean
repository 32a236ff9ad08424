import Mathlib
import DocBrowser.Proofs.Json.ReadsFrom
import DocBrowser.Proofs.Query.Pieces
/-!
# Keys without quotes

A key that is made of the characters of a bare word may stand without its quotes: the reader knows it by the sign
of structure in front of it and the colon behind it. One kind of key is lost, though. The name of a bound of all
values is looked for before a key, and only an ASCII letter, a digit, an underscore or a dollar sign behind it tells
that it goes on; so a key that starts with such a name and goes on with anything else is taken for the bound.
-/

namespace DocBrowser.Shorthand

open Json (Literal ReadsFrom Moves State isSign readToken)
open Text (StopsAt stopsAt_cons)

/-! ## Keys -/

/-- Whether a character may stand in a key without quotes. -/
def isKeyChar (c : Char) : Bool := Text.isWordChar c || "$.!@#%&*+-".toList.contains c

/-- Whether a key may stand without quotes. -/
def IsKey (key : List Char) : Prop := key ≠ [] ∧ ∀ c ∈ key, isKeyChar c = true

/-- Whether a key starts with the name of a bound of all values and goes on with what does not continue a name. -/
def TakenForBound (key : List Char) : Prop :=
  ∃ bound ∈ [Call.minKey, Call.maxKey], ∃ c rest, key = bound.name.toList ++ c :: rest ∧ continuesName c = false

theorem takenForBound_iff {key : List Char} : TakenForBound key ↔ ∃ bound ∈ [Call.minKey, Call.maxKey],
    bound.name.toList.isPrefixOf key = true ∧
      (key.drop bound.name.toList.length).head?.any (!continuesName ·) = true := by
  constructor
  · rintro ⟨bound, hbound, c, rest, rfl, hcontinues⟩
    refine ⟨bound, hbound, List.isPrefixOf_iff_prefix.2 ⟨_, rfl⟩, ?_⟩
    rw [List.drop_left]
    simp [hcontinues]
  · rintro ⟨bound, hbound, hname, hany⟩
    obtain ⟨more, rfl⟩ := List.isPrefixOf_iff_prefix.1 hname
    rw [List.drop_left] at hany
    cases more with
    | nil => cases hany
    | cons c rest => exact ⟨bound, hbound, c, rest, rfl, by simpa using hany⟩

instance (key : List Char) : Decidable (TakenForBound key) := decidable_of_iff' _ takenForBound_iff

instance (key : List Char) : Decidable (IsKey key) := inferInstanceAs (Decidable (_ ∧ _))

theorem isBareChar_of_isKeyChar {c : Char} (h : isKeyChar c = true) : isBareChar c = true ∧ c ≠ '(' ∧ c ≠ ':' := by
  have hopening : isKeyChar '(' = false := by decide
  have hcolon : isKeyChar ':' = false := by decide
  refine ⟨?_, fun heq => ?_, fun heq => ?_⟩
  · simp only [isKeyChar, Bool.or_eq_true, List.contains_eq_mem, decide_eq_true_eq, String.reduceToList, List.mem_cons,
      List.not_mem_nil, or_false] at h
    simp only [isBareChar, Bool.or_eq_true, List.contains_eq_mem, decide_eq_true_eq, String.reduceToList, List.mem_cons,
      List.not_mem_nil, or_false]
    tauto
  · rw [heq, hopening] at h
    cases h
  · rw [heq, hcolon] at h
    cases h

/-- A colon behind white space is what a key has behind it. -/
theorem stopsAt_of_colon {rest : List Char} (h : nextSign rest = some ':') : StopsAt isBareChar rest := by
  cases rest with
  | nil => exact Text.stopsAt_nil _
  | cons c rest =>
    refine stopsAt_cons.2 ?_
    cases hblank : Text.isBlank c with
    | true =>
      by_contra hbare
      rw [isBlank_of_isBareChar (Bool.eq_true_of_not_eq_false hbare)] at hblank
      cases hblank
    | false =>
      rw [nextSign, skipBlanks, List.dropWhile_cons_of_neg (by simp [hblank])] at h
      cases h
      decide

section

variable {key rest : List Char} (hkey : IsKey key) (hrest : nextSign rest = some ':')

include hkey hrest

/-- The name of a call that a key starts with is followed by the rest of the key, or by the colon. -/
theorem nextSign_behind_name {call : Call} {more : List Char} (h : key = call.name.toList ++ more) :
    nextSign (more ++ rest) = some ':' ∧ more = [] ∨
      ∃ c more', more = c :: more' ∧ nextSign (more ++ rest) = some c ∧ isKeyChar c = true := by
  cases more with
  | nil => exact .inl ⟨hrest, rfl⟩
  | cons c more =>
    have hc : isKeyChar c = true := hkey.2 c (by simp [h])
    refine .inr ⟨c, more, rfl, ?_, hc⟩
    rw [List.cons_append, nextSign, skipBlanks,
      List.dropWhile_cons_of_neg (by simp [isBlank_of_isBareChar (isBareChar_of_isKeyChar hc).1])]
    rfl

omit hkey in
theorem isPrefixOf_name_key (call : Call) :
    call.name.toList.isPrefixOf (key ++ rest) = call.name.toList.isPrefixOf key :=
  Text.isPrefixOf_append_of_stopsAt (fun _ => isBareChar_of_mem_name) (stopsAt_of_colon hrest) key

/-- A key is no call. -/
theorem callAt?_key : callAt? (key ++ rest) = none := by
  rw [callAt?, List.findSome?_eq_none_iff]
  intro call _
  dsimp only
  rw [isPrefixOf_name_key hrest]
  split_ifs with hname
  · obtain ⟨more, hmore⟩ := List.isPrefixOf_iff_prefix.1 hname
    -- behind the name stands more of the key or the colon, no opening bracket
    have hopening : nextSign (more ++ rest) ≠ some '(' := by
      rcases nextSign_behind_name hkey hrest hmore.symm with ⟨hsign, -⟩ | ⟨c, -, -, hsign, hc⟩
      · simp [hsign]
      · simp [hsign, (isBareChar_of_isKeyChar hc).2.1]
    rw [← hmore, List.append_assoc, List.drop_left]
    rw [nextSign] at hopening
    split
    · simp_all
    · rfl
  · rfl

/-- A key that is not taken for a bound is no bound. -/
theorem boundAt?_key (hnot : ¬ TakenForBound key) : boundAt? (key ++ rest) = none := by
  rw [boundAt?, List.findSome?_eq_none_iff]
  intro call hcall
  dsimp only
  rw [isPrefixOf_name_key hrest]
  cases hname : call.name.toList.isPrefixOf key with
  | false => simp
  | true =>
    obtain ⟨more, hmore⟩ := List.isPrefixOf_iff_prefix.1 hname
    rw [← hmore, List.append_assoc, List.drop_left]
    rcases nextSign_behind_name hkey hrest hmore.symm with ⟨hsign, -⟩ | ⟨c, more, rfl, -, -⟩
    · simp [hsign]
    · -- where a bound's name ends inside the key, the key goes on as names do, or it would be taken
      have hcontinues : continuesName c = true := by
        by_contra hno
        exact hnot ⟨call, hcall, c, more, hmore.symm, Bool.eq_false_of_not_eq_true hno⟩
      simp [hcontinues]

/-- A key that is taken for a bound is read as the bound. -/
theorem exists_boundAt?_key (htaken : TakenForBound key) :
    ∃ bound ∈ [Call.minKey, Call.maxKey], ∃ n, boundAt? (key ++ rest) = some (bound, n) := by
  -- some bound is found at the key; which one it is does not matter
  have hsome : (boundAt? (key ++ rest)).isSome = true := by
    obtain ⟨bound, hbound, c, more, hmore, hcontinues⟩ := htaken
    rw [boundAt?, List.findSome?_isSome_iff]
    refine ⟨bound, hbound, ?_⟩
    have hname : bound.name.toList.isPrefixOf (key ++ rest) = true :=
      List.isPrefixOf_iff_prefix.2 ⟨c :: more ++ rest, by simp [hmore]⟩
    have hsign : nextSign (c :: more ++ rest) ≠ some ':' := by
      rcases nextSign_behind_name hkey hrest hmore with ⟨-, hnil⟩ | ⟨d, more', hcons, hsign, hd⟩
      · cases hnil
      · rw [hsign, Ne, Option.some.injEq]
        exact (isBareChar_of_isKeyChar hd).2.2
    have hdrop : (key ++ rest).drop bound.name.toList.length = c :: more ++ rest := by
      rw [hmore, List.append_assoc, List.drop_left]
    dsimp only
    rw [hname, hdrop]
    rw [if_pos (by simpa [hcontinues] using hsign)]
    rfl
  obtain ⟨⟨bound, n⟩, hbound⟩ := Option.isSome_iff_exists.1 hsome
  have hfound := hbound
  rw [boundAt?] at hfound
  obtain ⟨call, hcall, hsome⟩ := List.exists_of_findSome?_eq_some hfound
  have hcall' : call = bound := by
    dsimp only at hsome
    split_ifs at hsome
    exact congrArg Prod.fst (Option.some.inj hsome)
  exact ⟨bound, hcall' ▸ hcall, n, hbound⟩

end

/-! ## Pieces -/

section

variable {zone : Zone} {text : List Char} {last : Option Char}

/-- What starts with a character of a bare word is no string, no regular expression and no sign of structure. -/
theorem readPiece_of_isBareChar {c : Char} (hc : isBareChar c = true) (cs : List Char) :
    readPiece zone text last c cs = readBare zone text last (c :: cs) := by
  obtain ⟨hquote, hslash, -⟩ := opens_nothing_of_isBareChar hc
  have hstructural : isStructural c = false := by
    cases hstructural : isStructural c with
    | false => rfl
    | true =>
      have hnot : ∀ d ∈ "\x7b\x7d[]:,".toList, isBareChar d = false := by simp [isBareChar, Text.isWordChar]
      rw [isStructural, List.contains_eq_mem, decide_eq_true_eq] at hstructural
      rw [hnot c hstructural] at hc
      cases hc
  rw [isQuote] at hquote
  rw [readPiece, if_neg (by simp [hquote]), if_neg (by simp [hslash]), if_neg (by simp [hstructural])]

variable {c : Char} {cs rest : List Char} (hkey : IsKey (c :: cs)) (hrest : nextSign rest = some ':')

include hkey hrest

/-- Behind an opening brace or a comma a key is written with its quotes. -/
theorem readPiece_key (hnot : ¬ TakenForBound (c :: cs)) (hlast : last = some '\x7b' ∨ last = some ',') :
    readPiece zone text last c (cs ++ rest) =
      .ok ⟨Json.writeText true (c :: cs), '"', (c :: cs).length⟩ := by
  have hbare : ∀ d ∈ c :: cs, isBareChar d = true := fun d hd => (isBareChar_of_isKeyChar (hkey.2 d hd)).1
  have hword : (c :: (cs ++ rest)).takeWhile isBareChar = c :: cs :=
    Text.takeWhile_run hbare (stopsAt_of_colon hrest)
  have hcall := callAt?_key hkey hrest
  have hbound := boundAt?_key hkey hrest hnot
  rw [List.cons_append] at hcall hbound
  have hdrop : (c :: (cs ++ rest)).drop (c :: cs).length = rest := by
    rw [← List.cons_append, List.drop_left]
  rw [readPiece_of_isBareChar (hbare c List.mem_cons_self), readBare_eq_ok, ← hword]
  refine .key hcall hbound (by simp [hword]) ⟨hlast, ?_⟩
  rw [hword, hdrop, hrest]

/-- A key that is taken for a bound is written as an object. -/
theorem readPiece_taken (htaken : TakenForBound (c :: cs)) :
    ∃ signs n, readPiece zone text last c (cs ++ rest) = .ok ⟨'\x7b' :: signs, '\x7d', n⟩ := by
  have hbare : isBareChar c = true := (isBareChar_of_isKeyChar (hkey.2 c List.mem_cons_self)).1
  have hcall := callAt?_key hkey hrest
  obtain ⟨bound, hmem, n, hbound⟩ := exists_boundAt?_key hkey hrest htaken
  rw [List.cons_append] at hcall hbound
  rw [readPiece_of_isBareChar hbare, readBare, hcall, hbound]
  simp only [List.mem_cons, List.not_mem_nil, or_false] at hmem
  rcases hmem with rfl | rfl
  · exact ⟨_, n, rfl⟩
  · exact ⟨_, n, rfl⟩

end

/-! ## Texts that have lost quotes -/

/--
A text of JSON and what is left of it where some of its keys, which are listed, have lost their quotes. A key is a
string that has a colon behind it.
-/
inductive Unquoted : List (List Char) → List Char → List Char → Prop where
  | nil : Unquoted [] [] []
  | sign {keys : List (List Char)} {text bare : List Char} {c : Char} (ne : c ≠ '"') (h : Unquoted keys text bare) :
    Unquoted keys (c :: text) (c :: bare)
  | string {keys : List (List Char)} {text bare raw chars : List Char} (literal : Literal raw chars)
    (h : Unquoted keys text bare) : Unquoted keys ('"' :: (raw ++ '"' :: text)) ('"' :: (raw ++ '"' :: bare))
  | key {keys : List (List Char)} {text bare key : List Char} (isKey : IsKey key) (colon : nextSign text = some ':')
    (h : Unquoted keys text bare) : Unquoted (key :: keys) ('"' :: (key ++ '"' :: text)) (key ++ bare)

theorem ne_of_isKeyChar {c : Char} (h : isKeyChar c = true) : c ≠ '"' ∧ c ≠ '\\' ∧ ¬ c.toNat < 32 := by
  have hquote : isKeyChar '"' = false := by decide
  have hbackslash : isKeyChar '\\' = false := by decide
  have hcontrol : ∀ n < 32, isKeyChar (Char.ofNat n) = false := by decide +kernel
  refine ⟨fun heq => ?_, fun heq => ?_, fun hlt => ?_⟩
  · rw [heq, hquote] at h
    cases h
  · rw [heq, hbackslash] at h
    cases h
  · rw [← Char.ofNat_toNat c, hcontrol _ hlt] at h
    cases h

/-- Between quotes a text without quotes, backslashes and control characters stands for itself. -/
theorem literal_of_plain {cs : List Char} (h : ∀ c ∈ cs, c ≠ '"' ∧ c ≠ '\\' ∧ ¬c.toNat < 32) : Literal cs cs := by
  induction cs with
  | nil => exact .nil
  | cons c cs ih =>
    rw [List.forall_mem_cons] at h
    exact .plain h.1.1 h.1.2.1 h.1.2.2 (ih h.2)

theorem literal_of_isKeyChar {key : List Char} (h : ∀ c ∈ key, isKeyChar c = true) : Literal key key :=
  literal_of_plain fun c hc => ne_of_isKeyChar (h c hc)

/-- Where a string ends is told by its signs. -/
theorem eq_of_literal {raw raw' chars chars' more more' : List Char} (h : Literal raw chars) (h' : Literal raw' chars')
    (heq : raw ++ '"' :: more = raw' ++ '"' :: more') : raw = raw' ∧ chars = chars' ∧ more = more' := by
  have hread := h.readString 0 1 more
  rw [heq, h'.readString, Except.ok.injEq, Prod.mk.injEq] at hread
  obtain ⟨hraw, hmore⟩ := List.append_inj heq (by omega)
  exact ⟨hraw, hread.1.symm, (List.cons.inj hmore).2⟩

section

variable {keys : List (List Char)} {text bare : List Char} {c : Char}

theorem Unquoted.of_sign (hc : c ≠ '"') (h : Unquoted keys (c :: text) bare) :
    ∃ bare', bare = c :: bare' ∧ Unquoted keys text bare' := by
  cases h with
  | sign _ h => exact ⟨_, rfl, h⟩
  | string => exact absurd rfl hc
  | key => exact absurd rfl hc

theorem Unquoted.of_word {word : List Char} (hword : ∀ c ∈ word, c ≠ '"') (h : Unquoted keys (word ++ text) bare) :
    ∃ bare', bare = word ++ bare' ∧ Unquoted keys text bare' := by
  induction word generalizing bare with
  | nil => exact ⟨bare, rfl, h⟩
  | cons c word ih =>
    rw [List.forall_mem_cons] at hword
    obtain ⟨bare', rfl, hbare'⟩ := h.of_sign hword.1
    obtain ⟨bare'', rfl, hbare''⟩ := ih hword.2 hbare'
    exact ⟨bare'', rfl, hbare''⟩

/-- The colon behind a key stays. -/
theorem Unquoted.colon (h : Unquoted keys text bare) (hcolon : nextSign text = some ':') :
    nextSign bare = some ':' := by
  induction h with
  | nil => exact hcolon
  | @sign _ _ _ c _ _ ih =>
    cases hblank : Text.isBlank c with
    | true =>
      rw [nextSign, skipBlanks, List.dropWhile_cons_of_pos hblank] at hcolon ⊢
      exact ih hcolon
    | false =>
      rw [nextSign, skipBlanks, List.dropWhile_cons_of_neg (by simp [hblank])] at hcolon ⊢
      exact hcolon
  | string => simp [nextSign, skipBlanks, show Text.isBlank '"' = false by decide] at hcolon
  | key => simp [nextSign, skipBlanks, show Text.isBlank '"' = false by decide] at hcolon

/-- Behind a complete value the text ends the value still. -/
theorem Unquoted.endsValue (h : Unquoted keys text bare) {stack : List Json.Frame} {value data : Json}
    (hreads : ReadsFrom (.after stack value) text data) : EndsValue bare := by
  induction text generalizing keys bare with
  | nil =>
    cases h
    exact endsValue_nil
  | cons c text ih =>
    cases hspace : Json.isSpace c with
    | true =>
      obtain ⟨bare', rfl, hbare'⟩ := h.of_sign (by rintro rfl; cases hspace)
      refine ⟨stopsAt_cons.2 (isBareChar_of_isSpace hspace), ?_⟩
      rw [nextSign, skipBlanks, List.dropWhile_cons_of_pos (Json.isBlank_of_isSpace hspace)]
      exact (ih hbare' ((Json.readsFrom_space hspace).1 hreads)).sign
    | false =>
      -- behind a value the machine accepts a comma or a closing sign, and these end a bare word
      obtain ⟨next, hmove, -⟩ := (Json.readsFrom_cons hspace).1 hreads
      have hc := Json.mem_of_closes rfl hmove.closes
      obtain ⟨bare', rfl, -⟩ := h.of_sign (by rintro rfl; simp at hc)
      exact endsValue_sign bare' hc

end

/-! ## Reading such a text -/

/-- Whether a state that takes a key has a sign of structure behind it that a key may follow. -/
def Follows : State → Option Char → Prop
  | .firstKey _, last => last = some '\x7b'
  | .key _ _, last => last = some ','
  | _, _ => True

theorem follows_after (stack : List Json.Frame) (value : Json) (last : Option Char) :
    Follows (.after stack value) last := trivial

/-- Behind a sign of structure stands that sign. -/
theorem follows_of_moves {state next : State} {c : Char} {cs : List Char} (hc : c ∈ structureSigns)
    (hmove : Moves state (readToken .strict 0 (c :: cs)).1 next) : Follows next (some c) := by
  simp only [structureSigns, List.mem_cons, List.not_mem_nil, or_false] at hc
  rcases hc with rfl | rfl | rfl | rfl | rfl | rfl <;> cases hmove <;> trivial

/--
What the machine reads when a text that has lost quotes is expanded: the data of the text as it was, unless a key
is taken for a bound, and then nothing.
-/
structure Reread (zone : Zone) (text : List Char) (keys : List (List Char)) (last : Option Char) (bare : List Char)
    (state : State) (data : Json) : Prop where
  same : (∀ key ∈ keys, ¬ TakenForBound key) →
    ∃ written, expandFrom zone text last bare = .ok written ∧ ReadsFrom state written data
  lost : ∀ key ∈ keys, TakenForBound key →
    ∀ written other, expandFrom zone text last bare = .ok written → ¬ ReadsFrom state written other

section

variable {zone : Zone} {text : List Char} {keys : List (List Char)} {last last' : Option Char}
  {bare bare' signs : List Char} {state next : State} {data : Json}

/-- Signs that are written in front and read by the machine change nothing. -/
theorem Reread.front (h : Reread zone text keys last' bare' next data)
    (hexpand : expandFrom zone text last bare = (expandFrom zone text last' bare').map (signs ++ ·))
    (hreads : ∀ written other, expandFrom zone text last' bare' = .ok written →
      (ReadsFrom state (signs ++ written) other ↔ ReadsFrom next written other)) :
    Reread zone text keys last bare state data := by
  refine ⟨fun hkeys => ?_, fun key hkey htaken written other hwritten => ?_⟩
  · obtain ⟨written, hwritten, hread⟩ := h.same hkeys
    exact ⟨signs ++ written, by rw [hexpand, hwritten]; rfl, (hreads written data hwritten).2 hread⟩
  · rw [hexpand] at hwritten
    obtain ⟨written', hwritten', rfl⟩ := map_eq_ok.1 hwritten
    rw [hreads written' other hwritten']
    exact h.lost key hkey htaken written' other hwritten'

theorem Reread.space {c : Char} (hc : Json.isSpace c = true) (h : Reread zone text keys last bare state data) :
    Reread zone text keys last (c :: bare) state data := by
  have hexpand : expandFrom zone text last (c :: bare) = (expandFrom zone text last bare).map ([c] ++ ·) :=
    expandFrom_blank (Json.isBlank_of_isSpace hc)
  exact h.front hexpand fun written other _ => Json.readsFrom_space hc

theorem Reread.sign {c : Char} (hc : c ∈ structureSigns) (hspace : Json.isSpace c = false)
    (hmove : Moves state (readToken .strict 0 (c :: bare)).1 next)
    (h : Reread zone text keys (some c) bare next data) : Reread zone text keys last (c :: bare) state data := by
  have hexpand : expandFrom zone text last (c :: bare) = (expandFrom zone text (some c) bare).map ([c] ++ ·) :=
    expandFrom_sign hc last bare
  refine h.front hexpand fun written other _ => ?_
  obtain ⟨token, -, hread⟩ := Json.exists_readToken_sign hc
  rw [hread] at hmove
  exact Json.readsFrom_sign hspace (hread 0 written) hmove

/-- A string stays a string. -/
theorem Reread.string {raw chars : List Char} (hraw : Literal raw chars)
    (hmove : Moves state (.text (String.ofList chars)) next) (h : Reread zone text keys (some '"') bare next data) :
    Reread zone text keys last ('"' :: (raw ++ '"' :: bare)) state data := by
  exact h.front (expandFrom_string last hraw bare) fun written other _ => Json.readsFrom_writeText hmove

/-- A key that has lost its quotes gets them back, or is taken for a bound where no object may stand. -/
theorem Reread.key {key : List Char} {stack : List Json.Frame} {fields : List (String × Json)} (hkey : IsKey key)
    (hcolon : nextSign bare = some ':') (hstate : Json.ExpectsKey state stack fields) (hfollows : Follows state last)
    (h : Reread zone text keys (some '"') bare (.colon stack fields (String.ofList key)) data) :
    Reread zone text (key :: keys) last (key ++ bare) state data := by
  obtain ⟨c, cs, rfl⟩ := List.exists_cons_of_ne_nil hkey.1
  have hblank : Text.isBlank c = false :=
    isBlank_of_isBareChar (isBareChar_of_isKeyChar (hkey.2 c List.mem_cons_self)).1
  by_cases htaken : TakenForBound (c :: cs)
  · refine ⟨fun hkeys => absurd htaken (hkeys _ List.mem_cons_self), fun _ _ _ written other hwritten hreads => ?_⟩
    obtain ⟨signs, n, hpiece⟩ : ∃ signs n, readPiece zone text last c (cs ++ bare) = .ok ⟨'\x7b' :: signs, '\x7d', n⟩ :=
      readPiece_taken hkey hcolon htaken
    rw [List.cons_append, expandFrom_piece hblank hpiece] at hwritten
    obtain ⟨written', -, rfl⟩ := map_eq_ok.1 hwritten
    -- the key was written as an object, and where a key is expected no object opens
    obtain ⟨next, hmove, -⟩ := (Json.readsFrom_token rfl rfl).1 hreads
    cases hstate with
    | first | next =>
      cases hmove with
      | openBrace hexpects => cases hexpects
  · -- a key stands behind an opening brace or a comma, where a bare word is quoted
    have hlast : last = some '\x7b' ∨ last = some ',' := by
      cases hstate with
      | first => exact .inl hfollows
      | next => exact .inr hfollows
    have hexpand : expandFrom zone text last (c :: (cs ++ bare)) = _ :=
      expandFrom_piece hblank (readPiece_key hkey hcolon htaken hlast)
    rw [List.length_cons, Nat.add_sub_cancel, List.drop_left] at hexpand
    have hfront := h.front hexpand fun written other _ => Json.readsFrom_writeText (hstate.moves _)
    refine ⟨fun hkeys => hfront.same fun key hkey => hkeys key (List.mem_cons_of_mem _ hkey), fun key hmem => ?_⟩
    rcases List.mem_cons.1 hmem with rfl | hmem
    · exact fun hother => absurd hother htaken
    · exact hfront.lost key hmem

/-- What stands between quotes is a string or a key, as the colon behind it tells. -/
theorem Reread.quoted {raw chars more : List Char} (hraw : Literal raw chars)
    (hmove : Moves state (.text (String.ofList chars)) next) (hreads : ReadsFrom next more data)
    (hbare : Unquoted keys ('"' :: (raw ++ '"' :: more)) bare) (hfollows : Follows state last)
    (h : ∀ {keys bare' last'}, Unquoted keys more bare' → Follows next last' →
      Reread zone text keys last' bare' next data) :
    Reread zone text keys last bare state data := by
  generalize hwhole : '"' :: (raw ++ '"' :: more) = whole at hbare
  -- the string kept its quotes, or it was a key and lost them
  cases hbare with
  | nil => cases hwhole
  | sign hne => exact absurd (List.cons.inj hwhole).1.symm hne
  | string hraw' hbare' =>
    obtain ⟨rfl, -, rfl⟩ := eq_of_literal hraw hraw' (List.cons.inj hwhole).2
    refine .string hraw hmove (h hbare' ?_)
    cases hmove <;> trivial
  | key hkey hcolon hbare' =>
    obtain ⟨rfl, rfl, rfl⟩ := eq_of_literal hraw (literal_of_isKeyChar hkey.2) (List.cons.inj hwhole).2
    cases hmove with
    -- a string that is a value is not followed by a colon
    | text => exact absurd hcolon (endsValue_of_reads hreads).sign
    | firstKey => exact .key hkey (hbare'.colon hcolon) (.first _) hfollows (h hbare' trivial)
    | key => exact .key hkey (hbare'.colon hcolon) (.next _ _) hfollows (h hbare' trivial)

/-- A word or a number stays as it is. -/
theorem Reread.word {c : Char} {cs : List Char} {value : Json} {n : ℕ} {stack : List Json.Frame}
    (hspace : Json.isSpace c = false) (hsign : isSign c = false)
    (hread : readToken .strict 0 (c :: cs) = (.literal value, n)) (hexpects : Json.Expects state stack)
    (hreads : ReadsFrom (.after stack value) (cs.drop (n - 1)) data) (hbare : Unquoted keys (c :: cs) bare)
    (h : ∀ {bare' last'}, Unquoted keys (cs.drop (n - 1)) bare' →
      Reread zone text keys last' bare' (.after stack value) data) :
    Reread zone text keys last bare state data := by
  have hstart : startsBare c = true := by
    simpa [startsBare] using (Json.literal_of_readToken hsign hread rfl).1
  have hc : Json.isBareSign c = true := Json.isBareSign_of_readToken hsign hread rfl
  obtain ⟨hcs, hlength, hlocal⟩ := Json.readToken_append hsign hread rfl
    (stopsAt_of_bare (fun _ => isBareChar_of_isBareSign) (endsValue_of_reads hreads).bare)
  have hword : ∀ d ∈ c :: Json.bareRun cs, Json.isBareSign d = true := by
    intro d hd
    rw [← Json.bareRun_cons hc] at hd
    exact List.mem_takeWhile_imp hd
  rw [hcs, ← List.cons_append] at hbare
  obtain ⟨bare', rfl, hbare'⟩ := hbare.of_word (by rintro d hd rfl; exact absurd (hword _ hd) (by decide))
  -- the word is read up to the next sign of structure, with the keys quoted and without
  have hends := hbare'.endsValue hreads
  obtain ⟨last', hkept⟩ : ∃ last', Kept zone text (last, c :: (Json.bareRun cs ++ bare')) (last', bare') :=
    kept_bare last hstart (fun d hd => isBareChar_of_isBareSign (hword d hd)) hends
  refine (h hbare').front hkept.expandFrom_append fun written other hwritten => ?_
  have hstop : StopsAt Json.isBareSign written :=
    stopsAt_of_bare (fun _ => isBareChar_of_isBareSign) (stopsAt_expandFrom hends.bare hwritten)
  have hmove : ReadsFrom state (c :: (Json.bareRun cs ++ written)) other ↔ _ :=
    Json.readsFrom_move hspace (hlocal 0 written hstop) (.literal hexpects value)
  rw [hlength, List.drop_left] at hmove
  exact hmove

/-- Reading a text again whose keys have lost their quotes, token by token. -/
theorem reread_of_reads (h : ReadsFrom state bare' data) (hbare : Unquoted keys bare' bare)
    (hfollows : Follows state last) : Reread zone text keys last bare state data := by
  induction h using ReadsFrom.induction generalizing keys bare last with
  | nil =>
    cases hbare
    exact ⟨fun _ => ⟨[], by rw [expandFrom], Json.readsFrom_nil.2 rfl⟩, fun _ hkey => by cases hkey⟩
  | @space state c cs hspace _ ih =>
    obtain ⟨bare', rfl, hbare'⟩ := hbare.of_sign (by rintro rfl; cases hspace)
    exact (ih hbare' hfollows).space hspace
  | @token state next c cs token n hspace hread hmove hreads ih =>
    cases Json.tokenText_of_readToken hread hmove.isLast_eq_false with
    | literal hsign =>
      cases hmove with
      | literal hexpects =>
        exact .word hspace hsign hread hexpects hreads hbare fun hbare' => ih hbare' (follows_after _ _ _)
    | sign hc hany =>
      obtain ⟨bare', rfl, hbare'⟩ := hbare.of_sign (by rintro rfl; simp at hc)
      have hmove' : Moves state (readToken .strict 0 (c :: bare')).1 next := by rwa [hany]
      exact .sign hc hspace hmove' (ih hbare' (follows_of_moves hc hmove'))
    | string hc hcs hraw =>
      subst hc hcs
      rw [Json.drop_string] at hreads ih
      exact .quoted hraw hmove hreads hbare hfollows ih

end

theorem not_mem_structureSigns_of_isKeyChar {c : Char} (h : isKeyChar c = true) : c ∉ structureSigns := by
  have hsigns : ∀ d ∈ structureSigns, isKeyChar d = false := by
    simp [structureSigns, isKeyChar, Text.isWordChar]
  intro hc
  rw [hsigns c hc] at h
  cases h

/-- A text that has lost quotes shows a character of a key, and the text shows the quotes. -/
theorem Unquoted.cases_visible {keys : List (List Char)} {text bare : List Char} (h : Unquoted keys text bare) :
    keys = [] ∧ bare = text ∨ '"' ∈ text ∧ ∃ c ∈ bare, isKeyChar c = true := by
  induction h with
  | nil => exact .inl ⟨rfl, rfl⟩
  | sign _ _ ih =>
    rcases ih with ⟨rfl, rfl⟩ | ⟨hquote, c, hc, hchar⟩
    · exact .inl ⟨rfl, rfl⟩
    · exact .inr ⟨List.mem_cons_of_mem _ hquote, c, List.mem_cons_of_mem _ hc, hchar⟩
  | string _ _ ih =>
    rcases ih with ⟨rfl, rfl⟩ | ⟨-, c, hc, hchar⟩
    · exact .inl ⟨rfl, rfl⟩
    · exact .inr ⟨List.mem_cons_self, c, by simp [hc], hchar⟩
  | key hkey _ _ _ =>
    obtain ⟨c, hc⟩ := List.exists_mem_of_ne_nil _ hkey.1
    exact .inr ⟨List.mem_cons_self, c, List.mem_append_left _ hc, hkey.2 c hc⟩

end DocBrowser.Shorthand

namespace DocBrowser.Query

open Shorthand (IsKey Unquoted TakenForBound)

/-- A fault about another text, which it shows where it shows the whole text. -/
def Fault.about (text : String) : Fault → Fault
  | .refused message _ => .refused message text
  | .number message _ => .number message text
  | .notADocument _ => .notADocument text
  | fault => fault

/-- Whether a fault is met before there is data that the text stands for. -/
def Fault.isUnread : Fault → Bool
  | .expansion _ _ | .invalid _ _ | .refused _ _ | .longInteger _ => true
  | .wrapper _ _ | .number _ _ | .notADocument _ => false

theorem Fault.isUnread_about (text : String) (fault : Fault) : (fault.about text).isUnread = fault.isUnread := by
  cases fault <;> rfl

section

variable {zone : Zone} {text text' : String} {expanded expanded' : List Char} {data : Json}

/-- Texts that are expanded to the same data come to the same, besides the text that a fault shows. -/
theorem resolve_eq_of_parse (h : Json.parse expanded = .ok data) (h' : Json.parse expanded' = .ok data) :
    resolve zone text' expanded' = (resolve zone text expanded).mapError (Fault.about text') := by
  rw [resolve, resolve, h, h']
  cases data with
  | obj fields =>
    dsimp only
    split <;> rfl
  | _ => rfl

/-- Where data is read from the expanded text, no fault says that the text cannot be read. -/
theorem not_isUnread_resolve (h : Json.parse expanded = .ok data) {fault : Fault}
    (hfault : resolve zone text expanded = .error fault) : fault.isUnread = false := by
  rw [resolve, h] at hfault
  cases data with
  | obj fields =>
    dsimp only at hfault
    split at hfault <;> cases hfault <;> rfl
  | _ =>
    cases hfault
    rfl

/-- Where no data is read from the expanded text, a fault says so. -/
theorem isUnread_resolve (h : ∀ data, Json.parse expanded ≠ .ok data) :
    ∃ fault, resolve zone text expanded = .error fault ∧ fault.isUnread = true := by
  rw [resolve]
  split
  · exact ⟨_, rfl, rfl⟩
  · exact ⟨_, rfl, rfl⟩
  · exact absurd ‹_› (h _)
  · exact absurd ‹_› (h _)

end

section

variable {zone : Zone} {text : String} (hvisible : isBlank text.toList = false)

include hvisible

theorem compile_of_expand_eq {expanded : List Char} (h : Shorthand.expand zone text.toList = .ok expanded) :
    compile zone text = resolve zone text expanded := by
  rw [compile, if_neg (by simp [hvisible]), h]

/-- Where the expanded text is no JSON, or there is none, a fault says that the text cannot be read. -/
theorem isUnread_compile (h : ∀ expanded data, Shorthand.expand zone text.toList = .ok expanded →
      Json.parse expanded ≠ .ok data) :
    ∃ fault, compile zone text = .error fault ∧ fault.isUnread = true := by
  rw [compile, if_neg (by simp [hvisible])]
  split
  · exact ⟨_, rfl, rfl⟩
  · exact ⟨_, rfl, rfl⟩
  · exact isUnread_resolve fun data => h _ data ‹_›

end

/-- A text is blank exactly if what is left of it is. -/
theorem isBlank_unquoted {keys : List (List Char)} {text bare : List Char} (h : Unquoted keys text bare) :
    isBlank bare = isBlank text := by
  rcases h.cases_visible with ⟨-, rfl⟩ | ⟨hquote, c, hc, hchar⟩
  · rfl
  · rw [isBlank_eq_false_of_mem hquote (by decide) (by decide), isBlank_eq_false_of_mem hc
      (Shorthand.isBlank_of_isBareChar (Shorthand.isBareChar_of_isKeyChar hchar).1)
      (Shorthand.not_mem_structureSigns_of_isKeyChar hchar)]

/--
Keys of strict JSON that have lost their quotes change nothing in what the text compiles to, unless a key starts with
the name of a bound and goes on with what does not continue a name; and where there is such a key, the text cannot
be read.
-/
theorem compile_unquoted_eq_iff {zone : Zone} {keys : List (List Char)} {text bare : List Char} {data : Json}
    (hparse : Json.parse text = .ok data) (hbare : Unquoted keys text bare) :
    (compile zone (String.ofList bare) = (compile zone (String.ofList text)).mapError
        (Fault.about (String.ofList bare)) ↔ ∀ key ∈ keys, ¬ TakenForBound key) ∧
      ((∃ key ∈ keys, TakenForBound key) →
        ∃ fault, compile zone (String.ofList bare) = .error fault ∧ fault.isUnread = true) := by
  have hreread : Shorthand.Reread zone bare keys none bare (.value []) data :=
    Shorthand.reread_of_reads (Json.parse_eq_ok_iff.1 hparse).2 hbare trivial
  have hblank := isBlank_unquoted hbare
  obtain ⟨expanded, hexpand, hexpanded, -⟩ := Shorthand.expand_of_parse zone hparse
  have hvisible {key : List Char} (hkey : key ∈ keys) : isBlank text = false := by
    rcases hbare.cases_visible with ⟨rfl, -⟩ | ⟨hquote, -⟩
    · cases hkey
    · exact isBlank_eq_false_of_mem hquote (by decide) (by decide)
  have hunread (htaken : ∃ key ∈ keys, TakenForBound key) :
      ∃ fault, compile zone (String.ofList bare) = .error fault ∧ fault.isUnread = true := by
    obtain ⟨key, hkey, htaken⟩ := htaken
    refine isUnread_compile ?_ fun written other hwritten hparsed => ?_
    · rw [String.toList_ofList, hblank, hvisible hkey]
    · rw [String.toList_ofList] at hwritten
      exact hreread.lost key hkey htaken written other hwritten (Json.parse_eq_ok_iff.1 hparsed).2
  refine ⟨⟨fun heq key hkey htaken => ?_, fun hkeys => ?_⟩, hunread⟩
  · obtain ⟨fault, hfault, hisUnread⟩ := hunread ⟨key, hkey, htaken⟩
    -- a text that is not read fails otherwise than any text that is read
    rw [hfault, compile_of_expand_eq (by rw [String.toList_ofList, hvisible hkey])
      (by rwa [String.toList_ofList])] at heq
    cases hresolve : resolve zone (String.ofList text) expanded with
    | ok doc =>
      rw [hresolve] at heq
      cases heq
    | error fault' =>
      rw [hresolve] at heq
      rw [Except.error.inj heq, Fault.isUnread_about, not_isUnread_resolve hexpanded hresolve] at hisUnread
      cases hisUnread
  · -- no key is taken, so both texts are expanded to data that read the same
    obtain ⟨written, hwritten, hreads⟩ := hreread.same hkeys
    cases hvisible : isBlank text with
    | true =>
      rw [compile, compile, String.toList_ofList, String.toList_ofList, hblank, hvisible]
      rfl
    | false =>
      rw [compile_of_expand_eq (by rwa [String.toList_ofList, hblank]) (by rwa [String.toList_ofList]),
        compile_of_expand_eq (by rwa [String.toList_ofList]) (by rwa [String.toList_ofList])]
      exact resolve_eq_of_parse hexpanded
        (Json.parse_eq_ok_iff.2 ⟨Shorthand.head?_expandFrom hwritten, hreads⟩)

/-- A key that is the name of a bound, and one that is a path of words. -/
def plainKeys : List (List Char) := ["MinKey".toList, "ż.$x-1".toList]

theorem isKey_minKey : IsKey ['M', 'i', 'n', 'K', 'e', 'y'] := by
  simp [IsKey, Shorthand.isKeyChar, Text.isWordChar]

theorem isKey_path : IsKey ['ż', '.', '$', 'x', '-', '1'] := by
  have hletter : Text.isWordChar 'ż' = true := by rfl
  simp only [IsKey, Shorthand.isKeyChar, List.forall_mem_cons, hletter]
  simp [Text.isWordChar]

/-- Strict JSON with these keys. -/
def plainText : List Char := "\x7b\"MinKey\" : true,\n\"ż.$x-1\":[\"MinKey\"]\x7d".toList

/-- The keys have lost their quotes. -/
def plainBare : List Char := "\x7bMinKey : true,\nż.$x-1:[\"MinKey\"]\x7d".toList

/-- The name of a bound alone is a key in front of a colon, and a text remains a text. -/
theorem compile_unquoted_eq_iff_plain :
    Json.parse plainText = .ok (.obj [("MinKey", .bool true), ("ż.$x-1", .arr [.str "MinKey"])]) ∧
    Unquoted plainKeys plainText plainBare ∧ (∀ key ∈ plainKeys, ¬ TakenForBound key) ∧
    compile .utc (String.ofList plainBare) =
      .ok [("MinKey", .bool true), ("ż.$x-1", .array [.string "MinKey"])] := by
  have hparse : Json.parse plainText = .ok (.obj [("MinKey", .bool true), ("ż.$x-1", .arr [.str "MinKey"])]) := by
    cbv
  have hbare : Unquoted plainKeys plainText plainBare := by
    delta plainKeys plainText plainBare
    simp only [String.reduceToList]
    refine .sign (by decide) (.key isKey_minKey (by decide) ?_)
    iterate 9 refine .sign (by decide) ?_
    refine .key isKey_path (by decide) ?_
    iterate 2 refine .sign (by decide) ?_
    refine .string (Shorthand.literal_of_isKeyChar isKey_minKey.2) ?_
    exact .sign (by decide) (.sign (by decide) .nil)
  have hkeys : ∀ key ∈ plainKeys, ¬ TakenForBound key := by decide
  refine ⟨hparse, hbare, hkeys, ?_⟩
  rw [(compile_unquoted_eq_iff hparse hbare).1.2 hkeys, compile_of_parse (by decide) hparse rfl]
  rfl

/-- The key `MinKey.a` between quotes. -/
def dottedText : List Char := "\x7b\"MinKey.a\": []\x7d".toList

/-- The key `MinKey.a` without quotes. -/
def dottedBare : List Char := "\x7bMinKey.a: []\x7d".toList

theorem unquoted_dotted : Unquoted ["MinKey.a".toList] dottedText dottedBare := by
  have hkey : IsKey ['M', 'i', 'n', 'K', 'e', 'y', '.', 'a'] := by
    simp [IsKey, Shorthand.isKeyChar, Text.isWordChar]
  delta dottedText dottedBare
  simp only [String.reduceToList]
  refine .sign (by decide) (.key hkey (by decide) ?_)
  iterate 5 refine .sign (by decide) ?_
  exact .nil

theorem expand_dottedBare : Shorthand.expand .utc dottedBare = .ok "\x7b\x7b\"$minKey\": 1\x7d.a: []\x7d".toList := by
  have hopen : Shorthand.readPiece .utc dottedBare none '\x7b' "MinKey.a: []\x7d".toList =
      .ok ⟨['\x7b'], '\x7b', 1⟩ := rfl
  have hbound : Shorthand.readPiece .utc dottedBare (some '\x7b') 'M' "inKey.a: []\x7d".toList =
      .ok ⟨"\x7b\"$minKey\": 1\x7d".toList, '\x7d', 6⟩ := rfl
  have hword : Shorthand.readPiece .utc dottedBare (some '\x7d') '.' "a: []\x7d".toList = .ok ⟨".a".toList, 'a', 2⟩ :=
    rfl
  have hrest : Shorthand.expandFrom .utc dottedBare (some 'a') ": []\x7d".toList = .ok ": []\x7d".toList :=
    Shorthand.expandFrom_signs (by simp [Text.squeeze, Text.isBlank, Shorthand.structureSigns]) _
  have hbehind := (Shorthand.expandFrom_piece (by decide) hword).trans (congrArg _ hrest)
  have hbehind := (Shorthand.expandFrom_piece (by decide) hbound).trans (congrArg _ hbehind)
  exact (Shorthand.expandFrom_piece (by decide) hopen).trans (congrArg _ hbehind)

/-- The key `MinKey.a` is made of the characters of a key, and without its quotes the text does not compile. -/
theorem not_compile_unquoted_dotted :
    Json.parse dottedText = .ok (.obj [("MinKey.a", .arr [])]) ∧
    Unquoted ["MinKey.a".toList] dottedText dottedBare ∧
    compile .utc (String.ofList dottedText) = .ok [("MinKey.a", .array [])] ∧
    compile .utc (String.ofList dottedBare) =
      .error (.invalid .propertyName "\x7b\x7b\"$minKey\": 1\x7d.a: []") := by
  have hparse : Json.parse dottedText = .ok (.obj [("MinKey.a", .arr [])]) := by cbv
  have hparsed : Json.parse "\x7b\x7b\"$minKey\": 1\x7d.a: []\x7d".toList = .error (.syntaxAt .propertyName 1) := by
    cbv
  refine ⟨hparse, unquoted_dotted, compile_of_parse (by decide) hparse rfl, ?_⟩
  rw [compile_of_expand_eq (by decide) (by rw [String.toList_ofList, expand_dottedBare]), resolve, hparsed]
  rfl

end DocBrowser.Query
