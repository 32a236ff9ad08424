import Mathlib
import DocBrowser.Proofs.Json.Machine
import DocBrowser.Proofs.Json.Tokens
/-!
# Data as it is put together

Data that was read was put together from what single tokens stand for: items were collected, and fields were
set one by one. So a property that holds of the parts and is handed on by these steps holds of whatever was
read. The open arrays and objects on the stack of the machine carry it along.
-/

namespace DocBrowser

namespace Json

/-! ## What one token stands for -/

/--
Data that a single token may stand for: a whole number has no more digits than a conversion accepts, and
strict text has no word for what is no number.
-/
inductive Atomic (strictness : Strictness) : Json → Prop where
  | null : Atomic strictness .null
  | bool (value : Bool) : Atomic strictness (.bool value)
  | int {n : ℤ} (short : n.natAbs < 10 ^ Text.digitLimit) : Atomic strictness (.int n)
  | float {d : Double} (number : strictness = .strict → d ≠ .nan) : Atomic strictness (.float d)
  | str (value : String) : Atomic strictness (.str value)

theorem isDigit_of_mem_wholeDigits {cs : List Char} {c : Char} (h : c ∈ wholeDigits cs) : c.isDigit = true := by
  unfold wholeDigits at h
  split at h
  · rw [List.mem_singleton.1 h]
    rfl
  · exact List.mem_takeWhile_imp h

/-- The whole part of a number is made of digits. -/
theorem isDigit_of_mem_whole {cs : List Char} {n : Numeral} (h : numeral? cs = some n) :
    ∀ c ∈ n.whole, c.isDigit = true := by
  rw [numeral?_eq] at h
  split at h
  · cases h
  · cases h
    exact fun c => isDigit_of_mem_wholeDigits

theorem atomic_of_numeral (strictness : Strictness) {cs : List Char} {number : Numeral} {data : Json}
    (hnumber : numeral? cs = some number) (h : number.token = .literal data) : Atomic strictness data := by
  unfold Numeral.token at h
  split at h
  · split at h
    · rename_i value hvalue
      cases h
      obtain ⟨hlength, rfl⟩ := Text.natOfDigits_eq_ok_iff.1 hvalue
      -- a whole number is accepted up to a count of digits, which bounds its size
      have hdigits : ∀ d ∈ digitValues number.whole, d < 10 := by
        intro d hd
        obtain ⟨c, hc, rfl⟩ := List.mem_map.1 hd
        have := Text.toNat_of_isDigit (isDigit_of_mem_whole hnumber c hc)
        omega
      refine .int ?_
      rw [Text.natAbs_signed]
      exact (Text.ofDigitValues_lt hdigits).trans_le (Nat.pow_le_pow_right (by norm_num) hlength)
    · cases h
  · cases h
    exact .float fun _ => Double.ofDecimal_ne_nan _ _ _

theorem isSign_eq_false_of_literal {strictness : Strictness} {p n : ℕ} {c : Char} {cs : List Char} {data : Json}
    (h : readToken strictness p (c :: cs) = (.literal data, n)) : isSign c = false := by
  by_contra hsign
  simp only [Bool.not_eq_false, isSign, List.contains_eq_mem, decide_eq_true_eq, List.mem_cons, List.not_mem_nil,
    or_false] at hsign
  rcases hsign with rfl | rfl | rfl | rfl | rfl | rfl | rfl <;> rw [readToken] at h
  any_goals cases h
  split at h <;> cases h

theorem atomic_of_readToken {strictness : Strictness} {p n : ℕ} {cs : List Char} {data : Json}
    (h : readToken strictness p cs = (.literal data, n)) : Atomic strictness data := by
  cases cs with
  | nil => cases h
  | cons c cs =>
    rcases readToken_cases (isSign_eq_false_of_literal h) h rfl with ⟨word, hword, -⟩ | ⟨number, hnumber, htoken, -⟩
    · have hmem := List.mem_of_find?_eq_some hword
      simp only [wordTokens, Strictness.constant, List.mem_cons, Prod.mk.injEq, List.not_mem_nil, or_false] at hmem
      rcases hmem with ⟨-, heq⟩ | ⟨-, heq⟩ | ⟨-, heq⟩ | ⟨-, heq⟩ | ⟨-, heq⟩ | ⟨-, heq⟩
      · cases heq
        exact .null
      · cases heq
        exact .bool true
      · cases heq
        exact .bool false
      -- words for doubles are literals in lenient text only
      all_goals
        cases strictness <;> cases heq
        exact .float fun hstrict => absurd hstrict (by decide)
    · exact atomic_of_numeral strictness hnumber htoken.symm

theorem atomic_of_mem_tokens {strictness : Strictness} {p : ℕ} {cs : List Char} {data : Json}
    (h : .literal data ∈ (tokens strictness p cs).map (·.2)) : Atomic strictness data := by
  fun_induction tokens strictness p cs with
  | case1 => cases h
  | case2 p c cs hspace ih => exact ih h
  | case3 p c cs hspace token n hread hlast =>
    rw [List.map_singleton, List.mem_singleton] at h
    subst h
    exact atomic_of_readToken hread
  | case4 p c cs hspace token n hread hlast ih =>
    rcases List.mem_cons.1 h with rfl | h
    · exact atomic_of_readToken hread
    · exact ih h

/-! ## Properties that data has from its parts -/

/-- A property of what tokens stand for that data has as soon as its parts have it. -/
structure Inherited (strictness : Strictness) (Holds : Json → Prop) : Prop where
  atom : ∀ {data : Json}, Atomic strictness data → Holds data
  arr : ∀ {items : List Json}, (∀ item ∈ items, Holds item) → Holds (.arr items)
  empty : Holds (.obj [])
  setField : ∀ {fields : List (String × Json)} {value : Json} (key : String), Holds (.obj fields) → Holds value →
    Holds (.obj (setField fields key value))

section

variable {strictness : Strictness} {Holds : Json → Prop}

/-- What an open array or object holds so far has a property. -/
def Frame.All (Holds : Json → Prop) : Frame → Prop
  | .array items => ∀ item ∈ items, Holds item
  | .object fields _ => Holds (.obj fields)

/-- All that a state holds has a property. -/
def State.All (Holds : Json → Prop) : State → Prop
  | .value stack | .firstItem stack | .firstKey stack => ∀ frame ∈ stack, frame.All Holds
  | .key stack fields | .colon stack fields _ => (∀ frame ∈ stack, frame.All Holds) ∧ Holds (.obj fields)
  | .after stack data => (∀ frame ∈ stack, frame.All Holds) ∧ Holds data

theorem Expects.all {state : State} {stack : List Frame} (hstate : Expects state stack) (h : state.All Holds) :
    ∀ frame ∈ stack, frame.All Holds := by
  cases hstate with
  | value => exact h
  | first => exact List.forall_mem_cons.2 ⟨List.forall_mem_nil _, h⟩

variable (hinherited : Inherited strictness Holds)

include hinherited

/-- Every move hands the property on. -/
theorem Moves.all {state next : State} {token : Token} (hmove : Moves state token next)
    (htoken : ∀ data, token = .literal data → Atomic strictness data) (h : state.All Holds) : next.All Holds := by
  cases hmove with
  | openBrace hstate | openBracket hstate => exact hstate.all h
  | literal hstate data => exact ⟨hstate.all h, hinherited.atom (htoken data rfl)⟩
  | text hstate value => exact ⟨hstate.all h, hinherited.atom (.str value)⟩
  | emptyArray stack => exact ⟨h, hinherited.arr (List.forall_mem_nil _)⟩
  | emptyObject stack | firstKey stack => exact ⟨h, hinherited.empty⟩
  | key stack fields key => exact h
  | colon stack fields key => exact List.forall_mem_cons.2 ⟨h.2, h.1⟩
  | nextItem stack items value =>
    obtain ⟨hitems, hstack⟩ := List.forall_mem_cons.1 h.1
    exact List.forall_mem_cons.2 ⟨List.forall_mem_cons.2 ⟨h.2, hitems⟩, hstack⟩
  | closeArray stack items value =>
    -- items are kept last first while the array is open
    obtain ⟨hitems, hstack⟩ := List.forall_mem_cons.1 h.1
    refine ⟨hstack, hinherited.arr fun item hitem => ?_⟩
    exact List.forall_mem_cons.2 ⟨h.2, hitems⟩ item (List.mem_reverse.1 hitem)
  | nextField stack fields key value | closeObject stack fields key value =>
    obtain ⟨hfields, hstack⟩ := List.forall_mem_cons.1 h.1
    exact ⟨hstack, hinherited.setField key hfields h.2⟩

theorem Reads.all {state : State} {ts : List Token} {data : Json} (hreads : Reads state ts data)
    (htokens : ∀ token ∈ ts, ∀ data, token = .literal data → Atomic strictness data) (h : state.All Holds) :
    Holds data := by
  induction hreads with
  | done data => exact h.2
  | step hmove _ ih =>
    obtain ⟨hfirst, hrest⟩ := List.forall_mem_cons.1 htokens
    exact ih hrest (hmove.all hinherited hfirst h)

/-- Whatever was read has the property. -/
theorem Inherited.of_parseWith {cs : List Char} {data : Json} (h : parseWith strictness cs = .ok data) :
    Holds data := by
  rw [parseWith] at h
  split at h
  · cases h
  · refine (run_eq_ok.1 h).all hinherited ?_ (List.forall_mem_nil _)
    rintro token hmem literal rfl
    exact atomic_of_mem_tokens hmem

end

end Json

end DocBrowser
