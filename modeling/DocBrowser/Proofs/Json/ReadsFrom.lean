import Mathlib
import DocBrowser.Proofs.Json.Joined
/-!
# Reading the rest of a text

What the machine reads from the rest of a text does not depend on where that rest stands. So it is read token by
token: white space is passed over, a sign of structure and a string are moves of their own, and data that can be
read alone is read wherever a value may start.
-/

namespace DocBrowser.Json

open Text (StopsAt stopsAt_cons)

/-- What the machine reads from the rest of a text. -/
def ReadsFrom (state : State) (cs : List Char) (data : Json) : Prop := Reads state ((tokens .strict 0 cs).map (·.2)) data

theorem parse_eq_ok_iff {cs : List Char} {data : Json} :
    parse cs = .ok data ↔ cs.head? ≠ some '\uFEFF' ∧ ReadsFrom (.value []) cs data := parse_eq_ok

section

variable {state : State} {cs rest : List Char} {c : Char} {data : Json}

theorem readToken_position {p : ℕ} (hlast : (readToken .strict p (c :: cs)).1.isLast = false) (p' : ℕ) :
    readToken .strict p' (c :: cs) = readToken .strict p (c :: cs) := by
  have hread := readToken_append_of_stopsAt (Prod.eta _).symm hlast (Text.stopsAt_nil _) p'
  rw [List.append_nil] at hread
  exact hread.1

/-- Where a text stands is all the same. -/
theorem reads_tokens_iff (p p' : ℕ) : Reads state ((tokens .strict p cs).map (·.2)) data ↔
    Reads state ((tokens .strict p' cs).map (·.2)) data := by
  -- positions are only used to report failures, so one direction serves both
  have himp (p p' : ℕ) (h : Reads state ((tokens .strict p cs).map (·.2)) data) :
      Reads state ((tokens .strict p' cs).map (·.2)) data := by
    fun_induction tokens .strict p cs generalizing state p' with
    | case1 => rwa [tokens]
    | case2 p c cs hspace ih =>
      rw [tokens, if_pos hspace]
      exact ih _ h
    -- a token that ends the reading moves no state
    | case3 p c cs hspace token n hread hlast =>
      cases h with
      | step hmove => simp [hmove.isLast_eq_false] at hlast
    | case4 p c cs hspace token n hread hlast ih =>
      cases h with
      | step hmove hrest =>
        rw [reads_tokens_cons (Bool.eq_false_of_not_eq_true hspace)]
        have hposition := readToken_position (by rw [hread]; exact hmove.isLast_eq_false) p'
        rw [hposition, hread]
        exact ⟨_, hmove, ih _ hrest⟩
  exact ⟨himp p p', himp p' p⟩

theorem readsFrom_iff (p : ℕ) : ReadsFrom state cs data ↔ Reads state ((tokens .strict p cs).map (·.2)) data :=
  reads_tokens_iff 0 p

/-! ## Token by token -/

theorem readsFrom_nil : ReadsFrom state [] data ↔ state = .after [] data := by
  rw [ReadsFrom, tokens]
  constructor
  · intro h
    cases h
    rfl
  · rintro rfl
    exact .done data

theorem readsFrom_space (hc : isSpace c = true) : ReadsFrom state (c :: cs) data ↔ ReadsFrom state cs data := by
  rw [ReadsFrom, tokens, if_pos hc]
  exact reads_tokens_iff 1 0

theorem isBareSign_of_isSpace (hc : isSpace c = true) : isBareSign c = false := by
  simp only [isSpace, Bool.or_eq_true, decide_eq_true_eq] at hc
  rcases hc with ((rfl | rfl) | rfl) | rfl <;> decide

/-- White space and a sign of structure go on with no word. -/
theorem stopsAt_isBareSign_gap {gap : List Char} (rest : List Char) (hgap : ∀ c ∈ gap, isSpace c = true)
    (hc : isBareSign c = false) : StopsAt isBareSign (gap ++ c :: rest) := by
  cases gap with
  | nil => exact stopsAt_cons.2 hc
  | cons d gap => exact stopsAt_cons.2 (isBareSign_of_isSpace (hgap d List.mem_cons_self))

theorem readsFrom_gap {gap : List Char} (h : ∀ c ∈ gap, isSpace c = true) :
    ReadsFrom state (gap ++ cs) data ↔ ReadsFrom state cs data := by
  induction gap with
  | nil => rfl
  | cons c gap ih =>
    rw [List.forall_mem_cons] at h
    rw [List.cons_append, readsFrom_space h.1, ih h.2]

theorem readsFrom_cons (hspace : isSpace c = false) : ReadsFrom state (c :: cs) data ↔
    ∃ next, Moves state (readToken .strict 0 (c :: cs)).1 next ∧
      ReadsFrom next (cs.drop ((readToken .strict 0 (c :: cs)).2 - 1)) data := by
  rw [ReadsFrom, reads_tokens_cons hspace]
  simp only [← readsFrom_iff]

theorem readsFrom_token {token : Token} {n : ℕ} (hspace : isSpace c = false)
    (hread : readToken .strict 0 (c :: cs) = (token, n)) :
    ReadsFrom state (c :: cs) data ↔ ∃ next, Moves state token next ∧ ReadsFrom next (cs.drop (n - 1)) data := by
  rw [readsFrom_cons hspace, hread]

/-- Where a token is expected, reading goes on behind it. -/
theorem readsFrom_move {next : State} {token : Token} {n : ℕ} (hspace : isSpace c = false)
    (hread : readToken .strict 0 (c :: cs) = (token, n)) (hmove : Moves state token next) :
    ReadsFrom state (c :: cs) data ↔ ReadsFrom next (cs.drop (n - 1)) data := by
  rw [readsFrom_token hspace hread]
  constructor
  · rintro ⟨next', hmove', hreads⟩
    rwa [hmove.unique hmove']
  · exact fun hreads => ⟨next, hmove, hreads⟩

/-- Where a sign of structure is expected, reading goes on behind it. -/
theorem readsFrom_sign {next : State} {token : Token} (hspace : isSpace c = false)
    (hread : readToken .strict 0 (c :: cs) = (token, 1)) (hmove : Moves state token next) :
    ReadsFrom state (c :: cs) data ↔ ReadsFrom next cs data := readsFrom_move hspace hread hmove

/-- Where a string is expected, reading goes on behind its closing quote. -/
theorem readsFrom_string {next : State} {raw chars : List Char} (h : Literal raw chars)
    (hmove : Moves state (.text (String.ofList chars)) next) :
    ReadsFrom state ('"' :: (raw ++ '"' :: rest)) data ↔ ReadsFrom next rest data := by
  rw [readsFrom_move (by decide) (readToken_string h 0 rest) hmove, drop_string raw]

/-- Where a string is expected, reading goes on behind a written string. -/
theorem readsFrom_writeText {next : State} {ascii : Bool} {chars : List Char}
    (hmove : Moves state (.text (String.ofList chars)) next) :
    ReadsFrom state (writeText ascii chars ++ rest) data ↔ ReadsFrom next rest data := by
  rw [writeText, List.cons_append, List.cons_append, List.append_assoc, List.singleton_append]
  exact readsFrom_string (literal_flatMap ascii chars) hmove

end

/-- What is read from the rest of a text is read token by token. -/
@[elab_as_elim]
theorem ReadsFrom.induction {data : Json} {motive : ∀ state cs, ReadsFrom state cs data → Prop}
    (nil : motive (.after [] data) [] (readsFrom_nil.2 rfl))
    (space : ∀ {state c cs} (hspace : isSpace c = true) (hreads : ReadsFrom state cs data), motive state cs hreads →
      motive state (c :: cs) ((readsFrom_space hspace).2 hreads))
    (token : ∀ {state next c cs token n} (hspace : isSpace c = false)
      (hread : readToken .strict 0 (c :: cs) = (token, n)) (hmove : Moves state token next)
      (hreads : ReadsFrom next (cs.drop (n - 1)) data), motive next (cs.drop (n - 1)) hreads →
      motive state (c :: cs) ((readsFrom_move hspace hread hmove).2 hreads))
    {state : State} {cs : List Char} (h : ReadsFrom state cs data) : motive state cs h := by
  -- on the length of the text: a token takes at least one character of it
  induction hn : cs.length using Nat.strong_induction_on generalizing state cs with
  | _ n ih =>
    subst hn
    cases cs with
    | nil =>
      obtain rfl := readsFrom_nil.1 h
      exact nil
    | cons c cs =>
      cases hspace : isSpace c with
      | true => exact space hspace _ (ih cs.length (by simp) ((readsFrom_space hspace).1 h) rfl)
      | false =>
        obtain ⟨next, hmove, hreads⟩ := (readsFrom_cons hspace).1 h
        exact token hspace (Prod.eta _).symm hmove hreads (ih _ (by simp) hreads rfl)

/-! ## Data -/

/-- Whether a text is read as data wherever a value may start, if nothing goes on with its last word. -/
def Bounded (cs : List Char) (data : Json) : Prop :=
  ∀ ⦃state stack⦄, Expects state stack → ∀ rest whole, StopsAt isBareSign rest →
    (ReadsFrom state (cs ++ rest) whole ↔ ReadsFrom (.after stack data) rest whole)

/-- Whether a text is read as data wherever a value may start, whatever follows it. -/
def Delimited (cs : List Char) (data : Json) : Prop :=
  ∀ ⦃state stack⦄, Expects state stack → ∀ rest whole,
    (ReadsFrom state (cs ++ rest) whole ↔ ReadsFrom (.after stack data) rest whole)

theorem Delimited.bounded {cs : List Char} {data : Json} (h : Delimited cs data) : Bounded cs data :=
  fun _ _ hstate rest whole _ => h hstate rest whole

/-- What can be read alone is read wherever a value may start. -/
theorem bounded_of_parse {cs : List Char} {data : Json} (h : parse cs = .ok data) : Bounded cs data := by
  intro state stack hstate rest whole hrest
  constructor
  · intro hreads
    obtain ⟨q, hq⟩ := reads_of_append hstate h hrest hreads
    exact (readsFrom_iff q).2 hq
  · intro hreads
    exact reads_append hstate h hrest (fun q => (readsFrom_iff q).1 hreads) 0

/-- White space around data changes nothing. -/
theorem parse_spaced {cs gap gap' : List Char} {data : Json} (h : parse cs = .ok data)
    (hgap : ∀ c ∈ gap, isSpace c = true) (hgap' : ∀ c ∈ gap', isSpace c = true) :
    parse (gap ++ (cs ++ gap')) = .ok data := by
  refine parse_eq_ok_iff.2 ⟨?_, ?_⟩
  · -- the mark is refused at the very start of a text only, and it is no blank
    cases gap with
    | nil =>
      cases cs with
      | nil => cases readsFrom_nil.1 (parse_eq_ok_iff.1 h).2
      | cons c cs => exact (parse_eq_ok_iff.1 h).1
    | cons c gap =>
      have hc := hgap c List.mem_cons_self
      rintro hmark
      cases hmark
      cases hc
  · -- the data end where the blanks behind them start, whether or not there are any
    have hstop : StopsAt isBareSign gap' := by
      rw [← List.append_nil gap']
      cases gap' with
      | nil => exact Text.stopsAt_nil _
      | cons c gap' => exact stopsAt_cons.2 (isBareSign_of_isSpace (hgap' c List.mem_cons_self))
    rw [readsFrom_gap hgap, bounded_of_parse h (.value []) gap' data hstop, ← List.append_nil gap', readsFrom_gap hgap']
    exact readsFrom_nil.2 rfl

theorem Delimited.parse {cs : List Char} {data : Json} (h : Delimited cs data) (hmark : cs.head? ≠ some '\uFEFF') :
    parse cs = .ok data := by
  refine parse_eq_ok_iff.2 ⟨hmark, ?_⟩
  have hreads := h (.value []) [] data
  rw [List.append_nil] at hreads
  exact hreads.2 (readsFrom_nil.2 rfl)

theorem delimited_string {raw chars : List Char} (h : Literal raw chars) :
    Delimited ('"' :: (raw ++ ['"'])) (.str (String.ofList chars)) := by
  intro state stack hstate rest whole
  rw [List.cons_append, List.append_assoc, List.singleton_append]
  exact readsFrom_string h (.text hstate _)

theorem delimited_writeText (ascii : Bool) (chars : List Char) :
    Delimited (writeText ascii chars) (.str (String.ofList chars)) := delimited_string (literal_flatMap ascii chars)

/-! ## Objects -/

/-- A state that takes a key of an object on top of a stack, with the fields that the object has so far. -/
inductive ExpectsKey : State → List Frame → List (String × Json) → Prop where
  | first (stack : List Frame) : ExpectsKey (.firstKey stack) stack []
  | next (stack : List Frame) (fields : List (String × Json)) : ExpectsKey (.key stack fields) stack fields

theorem ExpectsKey.moves {state : State} {stack : List Frame} {fields : List (String × Json)}
    (h : ExpectsKey state stack fields) (key : String) : Moves state (.text key) (.colon stack fields key) := by
  cases h with
  | first => exact .firstKey _ key
  | next => exact .key _ _ key

/-- The text of a field, with white space around its colon. -/
def fieldText (raw gap gap' cs : List Char) : List Char := '"' :: (raw ++ '"' :: (gap ++ ':' :: (gap' ++ cs)))

section

variable {state : State} {stack : List Frame} {fields : List (String × Json)} {raw chars gap gap' cs : List Char}
  {data : Json} (hkey : Literal raw chars) (hgap : ∀ c ∈ gap, isSpace c = true) (hgap' : ∀ c ∈ gap', isSpace c = true)

include hkey hgap hgap'

/-- Behind a field reading goes on behind its value. -/
theorem readsFrom_field (hstate : ExpectsKey state stack fields) (hvalue : Bounded cs data) {rest : List Char}
    (hrest : StopsAt isBareSign rest) (whole : Json) :
    ReadsFrom state (fieldText raw gap gap' cs ++ rest) whole ↔
      ReadsFrom (.after (.object fields (String.ofList chars) :: stack) data) rest whole := by
  simp only [fieldText, List.cons_append, List.append_assoc]
  rw [readsFrom_string hkey (hstate.moves _), readsFrom_gap hgap,
    readsFrom_sign rfl rfl (.colon stack fields _), readsFrom_gap hgap']
  exact hvalue (.value _) rest whole hrest

/-- An object of one field ends with its closing brace. -/
theorem delimited_field (hvalue : Bounded cs data) {gap₁ gap₂ : List Char} (hgap₁ : ∀ c ∈ gap₁, isSpace c = true)
    (hgap₂ : ∀ c ∈ gap₂, isSpace c = true) :
    Delimited ('\x7b' :: (gap₁ ++ (fieldText raw gap gap' cs ++ (gap₂ ++ ['\x7d']))))
      (.obj [(String.ofList chars, data)]) := by
  intro state stack hstate rest whole
  simp only [List.cons_append, List.append_assoc, List.nil_append]
  rw [readsFrom_sign rfl rfl (.openBrace hstate), readsFrom_gap hgap₁,
    readsFrom_field hkey hgap hgap' (.first stack) hvalue (stopsAt_isBareSign_gap rest hgap₂ (by decide)),
    readsFrom_gap hgap₂, readsFrom_sign rfl rfl (.closeObject stack [] _ data)]
  rfl

end

/-- The text of a field as it is written on one line. -/
def lineField (raw cs : List Char) : List Char := fieldText raw [] [' '] cs

theorem delimited_lineField {raw chars cs : List Char} {data : Json} (hkey : Literal raw chars)
    (hvalue : Bounded cs data) :
    Delimited ('\x7b' :: (lineField raw cs ++ ['\x7d'])) (.obj [(String.ofList chars, data)]) :=
  delimited_field hkey (by simp) (by simp [isSpace]) hvalue (List.forall_mem_nil _) (List.forall_mem_nil _)

/-- An object of two fields on one line ends with its closing brace. -/
theorem delimited_lineFields {raw chars raw' chars' cs cs' : List Char} {data data' : Json} (hkey : Literal raw chars)
    (hkey' : Literal raw' chars') (hne : chars ≠ chars') (hvalue : Bounded cs data) (hvalue' : Bounded cs' data') :
    Delimited ('\x7b' :: (lineField raw cs ++ (',' :: ' ' :: (lineField raw' cs' ++ ['\x7d']))))
      (.obj [(String.ofList chars, data), (String.ofList chars', data')]) := by
  intro state stack hstate rest whole
  simp only [List.cons_append, List.append_assoc, List.nil_append, lineField]
  have hspace : ∀ c ∈ [' '], isSpace c = true := by simp [isSpace]
  have hset : setField [(String.ofList chars, data)] (String.ofList chars') data' =
      [(String.ofList chars, data), (String.ofList chars', data')] := by
    have hkeys : String.ofList chars ≠ String.ofList chars' := fun heq => hne (String.ofList_injective heq)
    simp [setField, hkeys]
  rw [readsFrom_sign rfl rfl (.openBrace hstate),
    readsFrom_field hkey (List.forall_mem_nil _) hspace (.first stack) hvalue (stopsAt_cons.2 (by decide)),
    readsFrom_sign rfl rfl (.nextField stack [] _ data), readsFrom_space rfl,
    readsFrom_field hkey' (List.forall_mem_nil _) hspace (.next stack _) hvalue' (stopsAt_cons.2 (by decide)),
    readsFrom_sign rfl rfl (.closeObject stack _ _ data')]
  rw [show setField [] (String.ofList chars) data = [(String.ofList chars, data)] from rfl, hset]

end DocBrowser.Json
