import Mathlib
import DocBrowser.Proofs.Json.Respaced
import DocBrowser.Proofs.Text.Lines
/-!
# Texts behind each other

What follows a text changes none of its tokens, unless it goes on with the last word. And the machine never
looks below the arrays and objects that it has opened itself, so what it reads from nothing it reads inside
of an array as well. Texts that are read one by one are read as the items of the array that joins them.
-/

namespace DocBrowser.Json

open Text (StopsAt stopsAt_cons)

/-! ## Runs of the machine -/

/-- The machine gets from a state to another with some tokens. -/
inductive Runs : State → List Token → State → Prop where
  | refl (state : State) : Runs state [] state
  | step {state next final : State} {token : Token} {ts : List Token} (move : Moves state token next)
    (rest : Runs next ts final) : Runs state (token :: ts) final

section

variable {state next final final' : State} {token : Token} {ts more : List Token} {data : Json}

theorem Runs.isLast_eq_false (h : Runs state ts final) : ∀ token ∈ ts, token.isLast = false := by
  induction h with
  | refl => simp
  | step hmove _ ih => exact List.forall_mem_cons.2 ⟨hmove.isLast_eq_false, ih⟩

/-- Data is read where the machine gets behind it. -/
theorem reads_iff_runs : Reads state ts data ↔ Runs state ts (.after [] data) := by
  constructor
  · intro h
    induction h with
    | done data => exact .refl _
    | step hmove _ ih => exact .step hmove ih
  · intro h
    generalize hfinal : State.after [] data = final at h
    induction h with
    | refl =>
      subst hfinal
      exact .done data
    | step hmove _ ih => exact .step hmove (ih hfinal)

theorem Runs.reads (h : Runs state ts next) (hmore : Reads next more data) : Reads state (ts ++ more) data := by
  induction h with
  | refl => exact hmore
  | step hmove _ ih => exact .step hmove (ih hmore)

theorem Moves.unique {next' : State} (h : Moves state token next) (h' : Moves state token next') : next = next' := by
  have hstep : step state 0 token = .ok next := step_eq_ok.2 h
  have hstep' : step state 0 token = .ok next' := step_eq_ok.2 h'
  exact Except.ok.inj (hstep.symm.trans hstep')

theorem Runs.unique (h : Runs state ts final) (h' : Runs state ts final') : final = final' := by
  induction h with
  | refl =>
    cases h'
    rfl
  | step hmove _ ih =>
    cases h' with
    | step hmove' hrest' =>
      cases hmove.unique hmove'
      exact ih hrest'

/-- Where a run is known, the rest is read from where it ends. -/
theorem Runs.reads_of_append (h : Runs state ts next) (h' : Reads state (ts ++ more) data) : Reads next more data := by
  induction h with
  | refl => exact h'
  | step hmove _ ih =>
    cases h' with
    | step hmove' hrest' =>
      cases hmove.unique hmove'
      exact ih hrest'

end

/-! ## Below what is open -/

/-- A state with more open arrays and objects below its own. -/
def State.above (base : List Frame) : State → State
  | .value stack => .value (stack ++ base)
  | .firstItem stack => .firstItem (stack ++ base)
  | .firstKey stack => .firstKey (stack ++ base)
  | .key stack fields => .key (stack ++ base) fields
  | .colon stack fields current => .colon (stack ++ base) fields current
  | .after stack data => .after (stack ++ base) data

section

variable {state next final : State} {stack : List Frame} {token : Token} {ts : List Token} {data : Json}

theorem Expects.above (h : Expects state stack) (base : List Frame) :
    Expects (state.above base) (stack ++ base) := by
  cases h with
  | value => exact .value _
  | first => exact .first _

/-- No move looks below what is open. -/
theorem Moves.above (h : Moves state token next) (base : List Frame) :
    Moves (state.above base) token (next.above base) := by
  -- one case for each move: no move looks below the frames it opens or closes
  cases h with
  | openBrace hstate => exact .openBrace (hstate.above base)
  | openBracket hstate => exact .openBracket (hstate.above base)
  | literal hstate data => exact .literal (hstate.above base) data
  | text hstate value => exact .text (hstate.above base) value
  | emptyArray => exact .emptyArray _
  | emptyObject => exact .emptyObject _
  | firstKey _ key => exact .firstKey _ key
  | key _ fields key => exact .key _ fields key
  | colon _ fields key => exact .colon _ fields key
  | nextItem _ items value => exact .nextItem _ items value
  | closeArray _ items value => exact .closeArray _ items value
  | nextField _ fields key value => exact .nextField _ fields key value
  | closeObject _ fields key value => exact .closeObject _ fields key value

theorem Runs.above (h : Runs state ts final) (base : List Frame) : Runs (state.above base) ts (final.above base) := by
  induction h with
  | refl => exact .refl _
  | step hmove _ ih => exact .step (hmove.above base) ih

/-- What starts a value starts the first item of an array as well. -/
theorem Moves.of_expects (h : Moves (.value stack) token next) (hstate : Expects state stack) :
    Moves state token next := by
  cases h with
  | openBrace h' =>
    cases h'
    exact .openBrace hstate
  | openBracket h' =>
    cases h'
    exact .openBracket hstate
  | literal h' data =>
    cases h'
    exact .literal hstate data
  | text h' value =>
    cases h'
    exact .text hstate value

/-- Data that is read from nothing is read wherever a value may start. -/
theorem Reads.runs (h : Reads (.value []) ts data) (hstate : Expects state stack) :
    Runs state ts (.after stack data) := by
  have habove : Runs (.value stack) ts (.after stack data) := (reads_iff_runs.1 h).above stack
  cases habove with
  | step hmove hrest => exact .step (hmove.of_expects hstate) hrest

end

/-! ## Tokens in front of other text -/

section

variable {p n : ℕ} {c : Char} {cs rest : List Char} {token : Token}

/-- A token stays what it is in front of text that does not go on with a word. -/
theorem readToken_append_of_stopsAt (hread : readToken .strict p (c :: cs) = (token, n)) (hlast : token.isLast = false)
    (hrest : StopsAt isBareSign rest) (p' : ℕ) :
    readToken .strict p' (c :: (cs ++ rest)) = (token, n) ∧ n - 1 ≤ cs.length := by
  cases tokenText_of_readToken hread hlast with
  | literal hsign =>
    -- a bare word or number is settled by its run of bare signs, which `rest` does not lengthen
    have hc := isBareSign_of_readToken hsign hread hlast
    have hle := le_length_bareRun hsign hread hlast
    rw [bareRun_cons hc, List.length_cons] at hle
    have hrun : (bareRun cs).length ≤ cs.length := (List.takeWhile_prefix _).length_le
    refine ⟨?_, by omega⟩
    rw [← hread]
    exact readToken_congr p' p hc (bareRun_append_of_stopsAt cs hrest)
  | sign _ hany => exact ⟨hany p' (cs ++ rest), Nat.zero_le _⟩
  | string hc hcs hraw =>
    -- a string ends at its closing quote, whatever stands behind it
    subst hc hcs
    refine ⟨?_, by simp⟩
    rw [List.append_assoc, List.cons_append]
    exact readToken_string hraw p' _

/-- The tokens of a text that is read through stand in front of the tokens of what follows. -/
theorem tokens_append (hlast : ∀ entry ∈ tokens .strict p cs, entry.2.isLast = false) (hrest : StopsAt isBareSign rest)
    (p' : ℕ) : ∃ q, (tokens .strict p' (cs ++ rest)).map (·.2) =
      (tokens .strict p cs).map (·.2) ++ (tokens .strict q rest).map (·.2) := by
  fun_induction tokens .strict p cs generalizing p' with
  | case1 => exact ⟨p', rfl⟩
  | case2 p c cs hspace ih =>
    obtain ⟨q, hq⟩ := ih hlast (p' + 1)
    refine ⟨q, ?_⟩
    rw [List.cons_append, tokens, if_pos hspace, hq]
  | case3 p c cs hspace token n hread hlast' =>
    rw [List.forall_mem_singleton] at hlast
    -- the reader stops at a last token, and `cs` has none
    rw [hlast] at hlast'
    cases hlast'
  | case4 p c cs hspace token n hread hlast' ih =>
    rw [List.forall_mem_cons] at hlast
    obtain ⟨hread', hle⟩ := readToken_append_of_stopsAt hread hlast.1 hrest p'
    obtain ⟨q, hq⟩ := ih hlast.2 (p' + n)
    refine ⟨q, ?_⟩
    rw [List.cons_append, tokens, if_neg hspace, hread']
    simp only [hlast.1, Bool.false_eq_true, if_false, List.drop_append_of_le_length hle, List.map_cons, hq,
      List.cons_append]

end

/-! ## Arrays of texts -/

theorem parse_eq_ok {cs : List Char} {data : Json} :
    parse cs = .ok data ↔ cs.head? ≠ some '\uFEFF' ∧ Reads (.value []) ((tokens .strict 0 cs).map (·.2)) data := by
  rw [parse, parseWith]
  split_ifs with hmark
  · simp [hmark]
  · simp [hmark, run_eq_ok]

section

variable {state : State} {stack : List Frame} {cs rest : List Char} {item data : Json} (hstate : Expects state stack)
  (hitem : parse cs = .ok item) (hrest : StopsAt isBareSign rest)

include hstate hitem hrest

/-- In front of other text a text has its own tokens, which are read where a value may start. -/
theorem exists_runs_append (p : ℕ) : ∃ ts q, Runs state ts (.after stack item) ∧
    (tokens .strict p (cs ++ rest)).map (·.2) = ts ++ (tokens .strict q rest).map (·.2) := by
  have hruns := (parse_eq_ok.1 hitem).2.runs hstate
  have hlast : ∀ entry ∈ tokens .strict 0 cs, entry.2.isLast = false := fun entry hentry =>
    hruns.isLast_eq_false _ (List.mem_map_of_mem hentry)
  obtain ⟨q, hq⟩ := tokens_append hlast hrest p
  exact ⟨_, q, hruns, hq⟩

theorem reads_append (h : ∀ q, Reads (.after stack item) ((tokens .strict q rest).map (·.2)) data) (p : ℕ) :
    Reads state ((tokens .strict p (cs ++ rest)).map (·.2)) data := by
  obtain ⟨ts, q, hruns, hq⟩ := exists_runs_append hstate hitem hrest p
  rw [hq]
  exact hruns.reads (h q)

theorem reads_of_append {p : ℕ} (h : Reads state ((tokens .strict p (cs ++ rest)).map (·.2)) data) :
    ∃ q, Reads (.after stack item) ((tokens .strict q rest).map (·.2)) data := by
  obtain ⟨ts, q, hruns, hq⟩ := exists_runs_append hstate hitem hrest p
  rw [hq] at h
  exact ⟨q, hruns.reads_of_append h⟩

end

/-- A sign that is a token of its own is the first token. -/
theorem tokens_sign {c : Char} {token : Token} (hspace : isSpace c = false) (hlast : token.isLast = false)
    (hread : ∀ p rest, readToken .strict p (c :: rest) = (token, 1)) (p : ℕ) (cs : List Char) :
    (tokens .strict p (c :: cs)).map (·.2) = token :: (tokens .strict (p + 1) cs).map (·.2) := by
  rw [tokens, if_neg (by simp [hspace]), hread]
  simp [hlast]

theorem tokens_openBracket (p : ℕ) (cs : List Char) :
    (tokens .strict p ('[' :: cs)).map (·.2) = .openBracket :: (tokens .strict (p + 1) cs).map (·.2) :=
  tokens_sign rfl rfl (fun _ _ => rfl) p cs

theorem tokens_comma (p : ℕ) (cs : List Char) :
    (tokens .strict p (',' :: cs)).map (·.2) = .comma :: (tokens .strict (p + 1) cs).map (·.2) :=
  tokens_sign rfl rfl (fun _ _ => rfl) p cs

theorem tokens_closeBracket (p : ℕ) : (tokens .strict p [']']).map (·.2) = [.closeBracket] := by
  rw [tokens_sign rfl rfl (fun _ _ => rfl) p [], tokens]
  rfl

/-- The texts behind the first one are the other items. -/
theorem reads_items {texts : List (List Char)} {datas : List Json}
    (h : List.Forall₂ (fun text data => parse text = .ok data) texts datas) (items : List Json) (value : Json) (p : ℕ) :
    Reads (.after [.array items] value) ((tokens .strict p (texts.flatMap ([','] ++ ·) ++ [']'])).map (·.2))
      (.arr ((value :: items).reverse ++ datas)) := by
  induction h generalizing items value p with
  | nil =>
    rw [List.append_nil, List.flatMap_nil, List.nil_append, tokens_closeBracket]
    exact .step (.closeArray [] items value) (.done _)
  | @cons text data texts datas hfirst _ ih =>
    rw [List.flatMap_cons, List.append_assoc, List.append_assoc, List.singleton_append, tokens_comma]
    refine .step (.nextItem [] items value) (reads_append (.value _) hfirst ?_ (fun q => ?_) _)
    · -- a comma or the closing bracket comes behind the text
      cases texts <;> exact stopsAt_cons.2 (by decide)
    · have hitems := ih (value :: items) data q
      rwa [List.reverse_cons, List.append_assoc, List.singleton_append] at hitems

/-- Texts joined by commas between brackets are read as an array of what they are read as. -/
theorem parse_array {texts : List (List Char)} {datas : List Json}
    (h : List.Forall₂ (fun text data => parse text = .ok data) texts datas) :
    parse ('[' :: (Text.joinWith [','] texts ++ [']'])) = .ok (.arr datas) := by
  refine parse_eq_ok.2 ⟨by simp, ?_⟩
  rw [tokens_openBracket]
  refine .step (.openBracket (.value [])) ?_
  cases h with
  | nil =>
    rw [Text.joinWith, List.nil_append, tokens_closeBracket]
    exact .step (.emptyArray []) (.done _)
  | @cons text data texts datas hfirst hrest =>
    rw [Text.joinWith_cons, List.append_assoc]
    refine reads_append (.first []) hfirst ?_ (reads_items hrest [] data) _
    cases texts <;> exact stopsAt_cons.2 (by decide)

end DocBrowser.Json
