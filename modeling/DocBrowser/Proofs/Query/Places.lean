import Mathlib
import DocBrowser.Proofs.Json.ReadsFrom
import DocBrowser.Proofs.Query.Pieces
/-!
# Places of values in query text

In strict JSON an object whose first key starts with a dollar sign can only stand where a value may start. What
stands before such a place is expanded and read in the same way whatever stands at the place.
-/

namespace DocBrowser.Json

open Text (StopsAt)

/-- Whether the text before a place is read as certain tokens, whatever stands at the place. -/
def TokensTo (front : List Char) (ts : List Token) : Prop :=
  ∀ p rest, ∃ q, (tokens .strict p (front ++ rest)).map (·.2) = ts ++ (tokens .strict q rest).map (·.2)

theorem tokensTo_nil : TokensTo [] [] := fun p _ => ⟨p, rfl⟩

theorem TokensTo.space {front : List Char} {ts : List Token} (h : TokensTo front ts) {c : Char} (hc : isSpace c = true) :
    TokensTo (c :: front) ts := by
  intro p rest
  rw [List.cons_append, tokens, if_pos hc]
  exact h (p + 1) rest

theorem TokensTo.token {front signs : List Char} {ts : List Token} (h : TokensTo front ts) {c : Char} {token : Token}
    {n : ℕ} (hspace : isSpace c = false) (hlast : token.isLast = false) (hlength : n - 1 = signs.length)
    (hread : ∀ p rest, readToken .strict p (c :: (signs ++ (front ++ rest))) = (token, n)) :
    TokensTo (c :: (signs ++ front)) (token :: ts) := by
  intro p rest
  obtain ⟨q, hq⟩ := h (p + n) rest
  refine ⟨q, ?_⟩
  rw [List.cons_append, List.append_assoc, tokens, if_neg (by simp [hspace]), hread]
  simpa [hlast, hlength] using hq

theorem TokensTo.string {front raw chars : List Char} {ts : List Token} (h : TokensTo front ts)
    (hraw : Literal raw chars) : TokensTo ('"' :: (raw ++ '"' :: front)) (.text (String.ofList chars) :: ts) := by
  have htoken : TokensTo ('"' :: (raw ++ ['"'] ++ front)) (.text (String.ofList chars) :: ts) :=
    h.token (n := raw.length + 2) rfl rfl (by simp) fun p rest => by
      simpa using readToken_string hraw p (front ++ rest)
  simpa using htoken

theorem TokensTo.readsFrom_iff {front : List Char} {ts : List Token} (h : TokensTo front ts) {state next : State}
    (hruns : Runs state ts next) {rest : List Char} {data : Json} :
    ReadsFrom state (front ++ rest) data ↔ ReadsFrom next rest data := by
  obtain ⟨q, hq⟩ := h 0 rest
  rw [ReadsFrom, hq, Json.readsFrom_iff q]
  exact ⟨hruns.reads_of_append, hruns.reads⟩

end DocBrowser.Json

namespace DocBrowser.Shorthand

open Json (TokensTo ReadsFrom Runs Expects Moves tokens Token readToken isSign Literal isBareSign bareRun)
open Text (StopsAt stopsAt_cons)

/-! ## Quotes in strings -/

theorem quote_not_mem_of_hexQuad? {a b c d : Char} {n : ℕ} (h : Json.hexQuad? a b c d = some n) :
    '"' ∉ [a, b, c, d] := by
  obtain ⟨w, ha, h⟩ := Option.bind_eq_some_iff.1 h
  obtain ⟨x, hb, h⟩ := Option.bind_eq_some_iff.1 h
  obtain ⟨y, hc, h⟩ := Option.bind_eq_some_iff.1 h
  obtain ⟨z, hd, -⟩ := Option.bind_eq_some_iff.1 h
  simp [(ne_of_hexDigit? ha).1.symm, (ne_of_hexDigit? hb).1.symm, (ne_of_hexDigit? hc).1.symm,
    (ne_of_hexDigit? hd).1.symm]

/-- An escape has a quote in it only where it names one. -/
theorem quote_not_mem_of_escape {signs : List Char} (h : Json.Escape signs) (hlength : signs.length ≠ 1) :
    '"' ∉ signs := by
  cases h with
  | named => exact absurd rfl hlength
  | numbered hquad => simpa using quote_not_mem_of_hexQuad? hquad
  | pair hquad hquad' =>
    have h := quote_not_mem_of_hexQuad? hquad
    have h' := quote_not_mem_of_hexQuad? hquad'
    simp only [List.mem_cons, List.not_mem_nil, or_false, not_or] at h h' ⊢
    simp [h, h']

/-- Inside a string a quote has a backslash before it. -/
theorem ne_quote_of_literal {raw chars front rest : List Char} (h : Literal raw chars) {c : Char} (hc : c ≠ '\\') :
    raw ≠ front ++ c :: '"' :: rest := by
  induction h generalizing front with
  | nil => simp
  | @plain d raw cs hquote hbackslash hcontrol hraw ih =>
    rintro heq
    cases front with
    | nil =>
      cases heq
      cases hraw with
      | plain hother => exact hother rfl
    | cons e front => exact ih (List.cons.inj heq).2
  | @escaped signs raw cs d hshape hread hraw ih =>
    rintro heq
    cases front with
    | nil => exact hc (List.cons.inj heq).1.symm
    | cons e front =>
      rcases List.append_eq_append_iff.1 (List.cons.inj heq).2 with ⟨signs', rfl, hrest⟩ | ⟨signs', rfl, hrest⟩
      · exact ih hrest
      · -- the escape ends with the sign, or has the quote in it, or has neither
        cases signs' with
        | nil => exact @ih [] hrest.symm
        | cons e signs' =>
          have hrest : '"' :: rest = signs' ++ raw := (List.cons.inj hrest).2
          cases signs' with
          | nil =>
            subst hrest
            cases hraw with
            | plain hother => exact hother rfl
          | cons e' signs' =>
            obtain rfl : '"' = e' := (List.cons.inj hrest).1
            exact quote_not_mem_of_escape hshape (by simp; omega) (by simp)

/-! ## Expansion up to a place -/

/-- Whether the text before a place is expanded to text of certain tokens, whatever stands at the place. -/
def ExpandsTo (zone : Zone) (front : List Char) (ts : List Token) : Prop :=
  ∀ text last rest, ∃ written last', TokensTo written ts ∧ written.head? = front.head? ∧
    expandFrom zone text last (front ++ rest) = (expandFrom zone text last' rest).map (written ++ ·)

section

variable {zone : Zone} {front : List Char} {ts : List Token}

theorem expandsTo_nil : ExpandsTo zone [] [] := by
  intro text last rest
  refine ⟨[], last, Json.tokensTo_nil, rfl, ?_⟩
  cases hrest : expandFrom zone text last rest <;> simp [Except.map, hrest]

theorem ExpandsTo.space (h : ExpandsTo zone front ts) {c : Char} (hc : Json.isSpace c = true) :
    ExpandsTo zone (c :: front) ts := by
  intro text last rest
  obtain ⟨written, last', htokens, -, hexpand⟩ := h text last rest
  refine ⟨c :: written, last', htokens.space hc, rfl, ?_⟩
  rw [List.cons_append, expandFrom_blank (Json.isBlank_of_isSpace hc), hexpand]
  cases expandFrom zone text last' rest <;> rfl

/-- A piece that is written as one token goes before the others. -/
theorem ExpandsTo.token {signs : List Char} {c : Char} {token : Token} {n : ℕ} (h : ExpandsTo zone front ts)
    (hspace : Json.isSpace c = false) (hlast : token.isLast = false) (hlength : n - 1 = signs.length)
    (hread : ∀ p written, written.head? = front.head? → ∀ rest,
      readToken .strict p (c :: (signs ++ (written ++ rest))) = (token, n))
    (hexpand : ∀ text last rest, ∃ last', expandFrom zone text last (c :: (signs ++ (front ++ rest))) =
      (expandFrom zone text last' (front ++ rest)).map (c :: signs ++ ·)) :
    ExpandsTo zone (c :: (signs ++ front)) (token :: ts) := by
  intro text last rest
  obtain ⟨middle, hmiddle⟩ := hexpand text last rest
  obtain ⟨written, last', htokens, hhead, hrest⟩ := h text middle rest
  refine ⟨c :: (signs ++ written), last',
    htokens.token hspace hlast hlength fun p more => hread p written hhead more, rfl, ?_⟩
  rw [List.cons_append, List.append_assoc, hmiddle, hrest]
  cases expandFrom zone text last' rest <;> simp [Except.map]

end

/-- Behind a value whose text ends before an object, its end stands, whatever stands for the object. -/
theorem endsValue_of_readsFrom {stack : List Json.Frame} {value data : Json} {front more : List Char}
    (h : ReadsFrom (.after stack value) (front ++ '\x7b' :: more) data) :
    front ≠ [] ∧ ∀ rest, EndsValue (front ++ rest) := by
  induction front with
  | nil =>
    obtain ⟨next, hmove, -⟩ := (Json.readsFrom_token rfl rfl).1 h
    -- behind a value no object opens, so something stands in front of the brace
    rcases hmove.closes with hsign | hsign | hsign <;> cases hsign
  | cons c front ih =>
    refine ⟨List.cons_ne_nil c front, fun rest => ?_⟩
    cases hspace : Json.isSpace c with
    | true =>
      have hfront := (ih ((Json.readsFrom_space hspace).1 h)).2 rest
      refine ⟨stopsAt_cons.2 (isBareChar_of_isSpace hspace), ?_⟩
      rw [nextSign, List.cons_append, skipBlanks, List.dropWhile_cons_of_pos (Json.isBlank_of_isSpace hspace)]
      exact hfront.sign
    | false =>
      obtain ⟨next, hmove, -⟩ := (Json.readsFrom_cons hspace).1 h
      exact endsValue_sign _ (Json.mem_of_closes rfl hmove.closes)

/-! ## The place of an object -/

/-- The start of an object whose first key starts with a dollar sign. -/
def opening (more : List Char) : List Char := '\x7b' :: '"' :: '$' :: more

/-- Whether a text leads to a state that takes a value, as it stands and expanded. -/
def LeadsTo (zone : Zone) (state : Json.State) (front : List Char) : Prop :=
  ∃ ts next stack, Runs state ts next ∧ Expects next stack ∧ TokensTo front ts ∧ ExpandsTo zone front ts

section

variable {zone : Zone} {state next : Json.State} {front more : List Char} {data : Json}

theorem LeadsTo.space (h : LeadsTo zone state front) {c : Char} (hc : Json.isSpace c = true) :
    LeadsTo zone state (c :: front) := by
  obtain ⟨ts, next, stack, hruns, hexpects, htokens, hexpands⟩ := h
  exact ⟨ts, next, stack, hruns, hexpects, htokens.space hc, hexpands.space hc⟩

theorem LeadsTo.sign (h : LeadsTo zone next front) {c : Char} {token : Token} (hc : c ∈ structureSigns)
    (hspace : Json.isSpace c = false) (hread : ∀ p rest, readToken .strict p (c :: rest) = (token, 1))
    (hmove : Moves state token next) : LeadsTo zone state (c :: front) := by
  obtain ⟨ts, final, stack, hruns, hexpects, htokens, hexpands⟩ := h
  have htokens' : TokensTo (c :: ([] ++ front)) (token :: ts) :=
    htokens.token hspace hmove.isLast_eq_false rfl fun p rest => hread p _
  have hexpands' : ExpandsTo zone (c :: ([] ++ front)) (token :: ts) :=
    hexpands.token hspace hmove.isLast_eq_false rfl (fun p written _ rest => hread p _)
      fun text last rest => ⟨some c, expandFrom_sign hc last (front ++ rest)⟩
  exact ⟨token :: ts, final, stack, .step hmove hruns, hexpects, htokens', hexpands'⟩

theorem LeadsTo.string (h : LeadsTo zone next front) {raw chars : List Char} (hraw : Literal raw chars)
    (hmove : Moves state (.text (String.ofList chars)) next) : LeadsTo zone state ('"' :: (raw ++ '"' :: front)) := by
  obtain ⟨ts, final, stack, hruns, hexpects, htokens, hexpands⟩ := h
  refine ⟨_, final, stack, .step hmove hruns, hexpects, htokens.string hraw, fun text last rest => ?_⟩
  obtain ⟨written, last', hwritten, -, hrest⟩ := hexpands text (some '"') rest
  refine ⟨Json.writeText false chars ++ written, last', ?_, ?_, ?_⟩
  · have hstring := hwritten.string (Json.literal_flatMap false chars)
    simpa [Json.writeText] using hstring
  · simp [Json.writeText]
  · rw [List.cons_append, List.append_assoc, List.cons_append, expandFrom_string last hraw, hrest]
    cases expandFrom zone text last' rest <;> simp [Except.map]

/-- A word or a number leads on where its value has an end. -/
theorem LeadsTo.literal {c : Char} {signs : List Char} {value : Json} {n : ℕ} (h : LeadsTo zone next front)
    (hspace : Json.isSpace c = false) (hne : front ≠ []) (hends : ∀ rest, EndsValue (front ++ rest))
    (hlength : n - 1 = signs.length)
    (hread : ∀ p rest, StopsAt isBareSign rest → readToken .strict p (c :: (signs ++ rest)) = (.literal value, n))
    (hexpand : ∀ text last rest, EndsValue rest → ∃ last', expandFrom zone text last (c :: (signs ++ rest)) =
      (expandFrom zone text last' rest).map (c :: signs ++ ·))
    (hmove : Moves state (.literal value) next) : LeadsTo zone state (c :: (signs ++ front)) := by
  obtain ⟨ts, final, stack, hruns, hexpects, htokens, hexpands⟩ := h
  -- no word goes on with what is written behind this one, for its first sign is the same
  have hstops (written rest : List Char) (hwritten : written.head? = front.head?) :
      StopsAt isBareSign (written ++ rest) := by
    obtain ⟨d, front, rfl⟩ := List.exists_cons_of_ne_nil hne
    cases written with
    | nil => cases hwritten
    | cons e written =>
      cases hwritten
      exact stopsAt_cons.2 (stopsAt_cons.1 (stopsAt_of_bare (fun _ => isBareChar_of_isBareSign) (hends []).bare))
  refine ⟨_, final, stack, .step hmove hruns, hexpects,
    htokens.token hspace rfl hlength fun p rest => hread p _ (hstops front rest rfl),
    hexpands.token hspace rfl hlength (fun p written hwritten rest => hread p _ (hstops written rest hwritten))
      fun text last rest => hexpand text last (front ++ rest) (hends rest)⟩

/-- No word goes on with an object. -/
theorem bareRun_append_opening (front more : List Char) : bareRun (front ++ opening more) = bareRun front :=
  Text.takeWhile_append_of_stopsAt front (stopsAt_cons.2 rfl)

/-- A string that starts before an object whose first key starts with a dollar sign ends before it. -/
theorem exists_of_string_append_opening {raw chars rest : List Char} (hraw : Literal raw chars)
    (h : front ++ opening more = raw ++ '"' :: rest) (hreads : ReadsFrom next rest data) :
    ∃ front', front = raw ++ '"' :: front' ∧ rest = front' ++ opening more := by
  rcases List.append_eq_append_iff.1 h with ⟨signs, rfl, hopening⟩ | ⟨signs, rfl, hrest⟩
  · -- the brace would stand in the string, and its quote would close it
    cases signs with
    | nil => cases hopening
    | cons c signs =>
      obtain ⟨rfl, hbehind⟩ := List.cons.inj hopening
      have hbehind : '"' :: '$' :: more = signs ++ '"' :: rest := hbehind
      cases signs with
      | nil =>
        obtain rfl : '$' :: more = rest := (List.cons.inj hbehind).2
        obtain ⟨next', hmove, -⟩ := (Json.readsFrom_cons rfl).1 hreads
        obtain ⟨hfirst, -⟩ := Json.literal_of_readToken rfl (Prod.eta _).symm hmove.isLast_eq_false
        exact absurd hfirst (by decide)
      | cons d signs =>
        obtain rfl : '"' = d := (List.cons.inj hbehind).1
        exact absurd rfl (ne_quote_of_literal hraw (by decide))
  · cases signs with
    | nil => cases hrest
    | cons c signs =>
      obtain ⟨rfl, rfl⟩ := List.cons.inj hrest
      exact ⟨signs, rfl, rfl⟩

/-- A word or a number before an object is read and expanded as a whole, up to the end of its value. -/
theorem leadsTo_of_readToken_literal {d : Char} {token : Token} {n : ℕ} (hspace : Json.isSpace d = false)
    (hsign : isSign d = false) (hread : readToken .strict 0 (d :: (front ++ opening more)) = (token, n))
    (hmove : Moves state token next) (hreads : ReadsFrom next ((front ++ opening more).drop (n - 1)) data)
    (h : ∀ front', front' ++ opening more = (front ++ opening more).drop (n - 1) → LeadsTo zone next front') :
    LeadsTo zone state (d :: front) := by
  obtain ⟨-, value, rfl⟩ := Json.literal_of_readToken hsign hread hmove.isLast_eq_false
  obtain ⟨stack, value', rfl⟩ := hmove.exists_after
  have hstop := stopsAt_of_bare (fun _ => isBareChar_of_isBareSign) (endsValue_of_reads hreads).bare
  obtain ⟨hwhole, hlength, hlocal⟩ := Json.readToken_append hsign hread rfl hstop
  rw [bareRun_append_opening] at hwhole hlength hlocal
  -- the run of bare signs stops in front of the object, so it lies in the front
  obtain ⟨rest, hfront⟩ : bareRun front <+: front := List.takeWhile_prefix _
  have hdrop : rest ++ opening more = (front ++ opening more).drop (n - 1) := by
    rw [← List.append_cancel_left_eq (bareRun front), ← hwhole, ← List.append_assoc, hfront]
  rw [← hdrop] at hreads
  obtain ⟨hne, hends⟩ := endsValue_of_readsFrom hreads
  rw [← hfront]
  refine (h rest hdrop).literal hspace hne hends hlength hlocal (fun text last rest hrest => ?_) hmove
  have hexpand : ∃ last', expandFrom zone text last _ = (expandFrom zone text last' rest).map _ :=
    expandFrom_literal last hsign hread hrest
  rwa [bareRun_append_opening] at hexpand

/-- A string before an object is read and expanded as a whole. -/
theorem leadsTo_of_string {raw chars rest : List Char} (hraw : Literal raw chars)
    (hwhole : front ++ opening more = raw ++ '"' :: rest) (hmove : Moves state (.text (String.ofList chars)) next)
    (hreads : ReadsFrom next rest data) (h : ∀ front', front' ++ opening more = rest → LeadsTo zone next front') :
    LeadsTo zone state ('"' :: front) := by
  obtain ⟨front, rfl, rfl⟩ := exists_of_string_append_opening hraw hwhole hreads
  exact (h front rfl).string hraw hmove

/-- Text before an object whose first key starts with a dollar sign leads to where a value may start. -/
theorem leadsTo_of_readsFrom (h : ReadsFrom state (front ++ opening more) data) : LeadsTo zone state front := by
  generalize hcs : front ++ opening more = cs at h
  induction h using ReadsFrom.induction generalizing front with
  | nil => cases front <;> cases hcs
  | @space state c cs hspace _ ih =>
    cases front with
    | nil =>
      cases hcs
      cases hspace
    | cons d front =>
      obtain ⟨rfl, hrest⟩ := List.cons.inj hcs
      exact (ih hrest).space hspace
  | @token state next c cs token n hspace hread hmove hreads ih =>
    cases front with
    | nil =>
      cases hcs
      -- the front is used up: the object's own brace is read, in a state that expects a value
      cases hread
      cases hmove with
      | openBrace hexpects =>
        exact ⟨[], state, _, .refl state, hexpects, Json.tokensTo_nil, expandsTo_nil⟩
    | cons d front =>
      obtain ⟨rfl, hrest⟩ := List.cons.inj hcs
      obtain rfl : front ++ opening more = cs := hrest
      cases Json.tokenText_of_readToken hread hmove.isLast_eq_false with
      | literal hsign => exact leadsTo_of_readToken_literal hspace hsign hread hmove hreads fun _ => ih
      | sign hc hany => exact (ih rfl).sign hc hspace hany hmove
      | string hc hwhole hraw =>
        subst hc
        rw [hwhole, Json.drop_string] at hreads ih
        exact leadsTo_of_string hraw hwhole hmove hreads fun _ => ih

end

end DocBrowser.Shorthand
