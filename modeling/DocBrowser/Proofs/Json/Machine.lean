import Mathlib
import DocBrowser.Proofs.Failure
import DocBrowser.Proofs.Json.Reading
/-!
# The moves of the machine

What the machine that reads JSON can do with a token, and what it reads from tokens in the end. Where
the tokens stand plays no part: positions only tell where a fault is.
-/

namespace DocBrowser.Json

/-- What a token does to a state that expects it. -/
inductive Moves : State → Token → State → Prop where
  | openBrace {state : State} {stack : List Frame} (h : Expects state stack) :
    Moves state .openBrace (.firstKey stack)
  | openBracket {state : State} {stack : List Frame} (h : Expects state stack) :
    Moves state .openBracket (.firstItem stack)
  | literal {state : State} {stack : List Frame} (h : Expects state stack) (data : Json) :
    Moves state (.literal data) (.after stack data)
  | text {state : State} {stack : List Frame} (h : Expects state stack) (value : String) :
    Moves state (.text value) (.after stack (.str value))
  | emptyArray (stack : List Frame) : Moves (.firstItem stack) .closeBracket (.after stack (.arr []))
  | emptyObject (stack : List Frame) : Moves (.firstKey stack) .closeBrace (.after stack (.obj []))
  | firstKey (stack : List Frame) (key : String) : Moves (.firstKey stack) (.text key) (.colon stack [] key)
  | key (stack : List Frame) (fields : List (String × Json)) (key : String) :
    Moves (.key stack fields) (.text key) (.colon stack fields key)
  | colon (stack : List Frame) (fields : List (String × Json)) (key : String) :
    Moves (.colon stack fields key) .colon (.value (.object fields key :: stack))
  | nextItem (stack : List Frame) (items : List Json) (value : Json) :
    Moves (.after (.array items :: stack) value) .comma (.value (.array (value :: items) :: stack))
  | closeArray (stack : List Frame) (items : List Json) (value : Json) :
    Moves (.after (.array items :: stack) value) .closeBracket (.after stack (.arr (value :: items).reverse))
  | nextField (stack : List Frame) (fields : List (String × Json)) (key : String) (value : Json) :
    Moves (.after (.object fields key :: stack) value) .comma (.key stack (setField fields key value))
  | closeObject (stack : List Frame) (fields : List (String × Json)) (key : String) (value : Json) :
    Moves (.after (.object fields key :: stack) value) .closeBrace (.after stack (.obj (setField fields key value)))

section

variable {state next : State} {position : ℕ} {token : Token}

theorem moves_of_stepValue {stack : List Frame} (hstate : Expects state stack)
    (h : stepValue stack position token = .ok next) : Moves state token next := by
  unfold stepValue at h
  split at h <;> cases h
  · exact .openBrace hstate
  · exact .openBracket hstate
  · exact .literal hstate _
  · exact .text hstate _

theorem colon_of_stepKey {stack : List Frame} {fields : List (String × Json)}
    (h : stepKey stack fields position token = .ok next) :
    ∃ key, token = .text key ∧ next = .colon stack fields key := by
  unfold stepKey at h
  split at h <;> cases h
  exact ⟨_, rfl, rfl⟩

/-- A step is one of the moves. -/
theorem step_eq_ok : step state position token = .ok next ↔ Moves state token next := by
  constructor
  · intro h
    -- each state accepts few tokens; the states that expect a value share `stepValue`
    unfold step at h
    cases state with
    | value stack => exact moves_of_stepValue (.value stack) h
    | firstItem stack =>
      dsimp only at h
      split at h
      · cases h
        exact .emptyArray stack
      · exact moves_of_stepValue (.first stack) h
    | firstKey stack =>
      dsimp only at h
      split at h
      · cases h
        exact .emptyObject stack
      · obtain ⟨key, rfl, rfl⟩ := colon_of_stepKey h
        exact .firstKey stack key
    | key stack fields =>
      obtain ⟨key, rfl, rfl⟩ := colon_of_stepKey h
      exact .key stack fields key
    | colon stack fields key =>
      dsimp only at h
      split at h <;> cases h
      exact .colon stack fields key
    | after stack value =>
      dsimp only at h
      unfold stepAfter at h
      split at h <;> cases h
      · exact .nextItem _ _ value
      · exact .closeArray _ _ value
      · exact .nextField _ _ _ value
      · exact .closeObject _ _ _ value
  · intro h
    cases h with
    | openBrace h | openBracket h | literal h | text h =>
      rw [h.step position (by simp)]
      rfl
    | _ => rfl

/-- A token that ends the reading is never expected. -/
theorem Moves.isLast_eq_false (h : Moves state token next) : token.isLast = false := by
  cases h <;> rfl

/-- Behind a literal a value is complete. -/
theorem Moves.exists_after {data : Json} (h : Moves state (.literal data) next) :
    ∃ stack value, next = .after stack value := by
  cases h
  exact ⟨_, _, rfl⟩

/-- Behind a complete value only a comma or a closing sign is expected. -/
theorem Moves.closes {stack : List Frame} {value : Json} (h : Moves (.after stack value) token next) :
    token = .comma ∨ token = .closeBracket ∨ token = .closeBrace := by
  cases h with
  | openBrace h | openBracket h | literal h | text h => cases h
  | _ => simp

end

/-- What the machine reads from tokens. -/
inductive Reads : State → List Token → Json → Prop where
  | done (data : Json) : Reads (.after [] data) [] data
  | step {state next : State} {token : Token} {tokens : List Token} {data : Json} (move : Moves state token next)
    (rest : Reads next tokens data) : Reads state (token :: tokens) data

theorem finish_eq_ok {end_ : ℕ} {state : State} {data : Json} :
    state.finish end_ = .ok data ↔ state = .after [] data := by
  constructor
  · intro h
    unfold State.finish at h
    split at h <;> cases h
    rfl
  · rintro rfl
    rfl

/-- Running the machine reads the tokens, wherever they stand. -/
theorem run_eq_ok {end_ : ℕ} {state : State} {entries : List (ℕ × Token)} {data : Json} :
    run end_ state entries = .ok data ↔ Reads state (entries.map (·.2)) data := by
  induction entries generalizing state with
  | nil =>
    rw [run, finish_eq_ok, List.map_nil]
    constructor
    · rintro rfl
      exact .done data
    · intro h
      cases h
      rfl
  | cons entry entries ih =>
    obtain ⟨position, token⟩ := entry
    rw [run, List.map_cons]
    constructor
    · intro h
      obtain ⟨next, hstep, hrest⟩ := bind_eq_ok.1 h
      exact .step (step_eq_ok.1 hstep) (ih.1 hrest)
    · intro h
      cases h with
      | step hmove hrest => exact bind_eq_ok.2 ⟨_, step_eq_ok.2 hmove, ih.2 hrest⟩

end DocBrowser.Json
