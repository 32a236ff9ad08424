import Mathlib
import DocBrowser.Proofs.Json.Joined
/-!
# Data that differ in one place

The machine that reads JSON does not look at the data that it has read. So where one piece of data is put for
another behind the same text, the data that is read in the end differs in that one place only. A key that comes
again would throw the data away that it had before, which is why no object may have a key twice.
-/

namespace DocBrowser.Json

/-! ## Keys that come once -/

/-- Whether an object does not have the key yet whose value is complete. -/
def State.isFresh : State → Bool
  | .after (.object fields current :: _) _ => decide (current ∉ keysOf fields)
  | _ => true

/-- Whether no object gets a key again while tokens are read. -/
def keysOnceFrom (state : State) : List Token → Bool
  | [] => true
  | token :: ts =>
    state.isFresh && match step state 0 token with
      | .ok next => keysOnceFrom next ts
      | .error _ => true

/-- Whether no object of a text has a key again. -/
def keysOnce (cs : List Char) : Bool := keysOnceFrom (.value []) ((tokens .strict 0 cs).map (·.2))

theorem keysOnceFrom_of_moves {state next : State} {token : Token} {ts : List Token}
    (h : keysOnceFrom state (token :: ts) = true) (hmove : Moves state token next) :
    state.isFresh = true ∧ keysOnceFrom next ts = true := by
  rw [keysOnceFrom, Bool.and_eq_true, step_eq_ok.2 hmove] at h
  exact h

theorem keysOnceFrom_of_runs {state next : State} {ts more : List Token} (h : keysOnceFrom state (ts ++ more) = true)
    (hruns : Runs state ts next) : keysOnceFrom next more = true := by
  induction hruns with
  | refl => exact h
  | step hmove _ ih => exact ih (keysOnceFrom_of_moves h hmove).2

/-! ## Data, frames and states -/

section

variable {w w' : Json}

/-- Data that differ in one place, where one has `w` and the other has `w'`. -/
inductive Swapped (w w' : Json) : Json → Json → Prop where
  | here : Swapped w w' w w'
  | item {data data' : Json} (before after : List Json) (h : Swapped w w' data data') :
    Swapped w w' (.arr (before ++ data :: after)) (.arr (before ++ data' :: after))
  | field {data data' : Json} (before after : List (String × Json)) (key : String) (h : Swapped w w' data data') :
    Swapped w w' (.obj (before ++ (key, data) :: after)) (.obj (before ++ (key, data') :: after))

theorem Swapped.symm {data data' : Json} (h : Swapped w w' data data') : Swapped w' w data' data := by
  induction h with
  | here => exact .here
  | item before after _ ih => exact .item before after ih
  | field before after key _ ih => exact .field before after key ih

/-- Open arrays and objects that differ in one place. -/
inductive SwappedFrame (w w' : Json) : Frame → Frame → Prop where
  | array {data data' : Json} (before after : List Json) (h : Swapped w w' data data') :
    SwappedFrame w w' (.array (before ++ data :: after)) (.array (before ++ data' :: after))
  | object {data data' : Json} (before after : List (String × Json)) (key current : String)
    (h : Swapped w w' data data') :
    SwappedFrame w w' (.object (before ++ (key, data) :: after) current)
      (.object (before ++ (key, data') :: after) current)

/-- Stacks that differ in one place. -/
inductive SwappedStack (w w' : Json) : List Frame → List Frame → Prop where
  | top {frame frame' : Frame} (stack : List Frame) (h : SwappedFrame w w' frame frame') :
    SwappedStack w w' (frame :: stack) (frame' :: stack)
  | under {stack stack' : List Frame} (frame : Frame) (h : SwappedStack w w' stack stack') :
    SwappedStack w w' (frame :: stack) (frame :: stack')

/-- States that differ in one place: in the value or the fields at hand, or in the stack. -/
inductive SwappedState (w w' : Json) : State → State → Prop where
  | value {stack stack' : List Frame} (h : SwappedStack w w' stack stack') :
    SwappedState w w' (.value stack) (.value stack')
  | firstItem {stack stack' : List Frame} (h : SwappedStack w w' stack stack') :
    SwappedState w w' (.firstItem stack) (.firstItem stack')
  | firstKey {stack stack' : List Frame} (h : SwappedStack w w' stack stack') :
    SwappedState w w' (.firstKey stack) (.firstKey stack')
  | key {stack stack' : List Frame} (fields : List (String × Json)) (h : SwappedStack w w' stack stack') :
    SwappedState w w' (.key stack fields) (.key stack' fields)
  | colon {stack stack' : List Frame} (fields : List (String × Json)) (current : String)
    (h : SwappedStack w w' stack stack') : SwappedState w w' (.colon stack fields current) (.colon stack' fields current)
  | after {stack stack' : List Frame} (data : Json) (h : SwappedStack w w' stack stack') :
    SwappedState w w' (.after stack data) (.after stack' data)
  | keyHere {data data' : Json} (stack : List Frame) (before after : List (String × Json)) (key : String)
    (h : Swapped w w' data data') :
    SwappedState w w' (.key stack (before ++ (key, data) :: after)) (.key stack (before ++ (key, data') :: after))
  | colonHere {data data' : Json} (stack : List Frame) (before after : List (String × Json)) (key current : String)
    (h : Swapped w w' data data') :
    SwappedState w w' (.colon stack (before ++ (key, data) :: after) current)
      (.colon stack (before ++ (key, data') :: after) current)
  | afterHere {data data' : Json} (stack : List Frame) (h : Swapped w w' data data') :
    SwappedState w w' (.after stack data) (.after stack data')

/-- A new key is set behind the others, whatever data one of them has. -/
theorem setField_behind {before after : List (String × Json)} {key current : String} {data : Json}
    (hfresh : current ∉ keysOf (before ++ (key, data) :: after)) (data' value : Json) :
    setField (before ++ (key, data') :: after) current value =
      before ++ (key, data') :: (after ++ [(current, value)]) := by
  have hkeys : keysOf (before ++ (key, data') :: after) = keysOf (before ++ (key, data) :: after) := by
    simp [keysOf]
  rw [setField_of_not_mem value (hkeys ▸ hfresh), List.append_assoc, List.cons_append]

section

variable {state state' next : State} {token : Token}

/-- Where a value is expected on stacks that differ, the next token leads to states that differ. -/
theorem SwappedStack.exists_moves {stack stack' : List Frame} (h : SwappedStack w w' stack stack')
    (hstate' : Expects state' stack') (hmove : Moves (.value stack) token next) :
    ∃ next', Moves state' token next' ∧ SwappedState w w' next next' := by
  -- the swapped value stays below: the new value is opened or placed above it on both sides
  cases hmove with
  | openBrace hexpects =>
    cases hexpects
    exact ⟨_, .openBrace hstate', .firstKey h⟩
  | openBracket hexpects =>
    cases hexpects
    exact ⟨_, .openBracket hstate', .firstItem h⟩
  | literal hexpects data =>
    cases hexpects
    exact ⟨_, .literal hstate' data, .after data h⟩
  | text hexpects value =>
    cases hexpects
    exact ⟨_, .text hstate' value, .after _ h⟩

/-- Behind a value that differs, the next token leads to states that differ. -/
theorem Swapped.exists_moves {stack : List Frame} {data data' : Json} (h : Swapped w w' data data')
    (hfresh : (State.after stack data).isFresh = true) (hmove : Moves (.after stack data) token next) :
    ∃ next', Moves (.after stack data') token next' ∧ SwappedState w w' next next' := by
  cases hmove with
  | openBrace hexpects | openBracket hexpects | literal hexpects | text hexpects => cases hexpects
  -- the swapped value goes into the frame above which it was read
  | nextItem stack items => exact ⟨_, .nextItem stack items data', .value (.top _ (.array [] items h))⟩
  | closeArray stack items =>
    refine ⟨_, .closeArray stack items data', .afterHere stack ?_⟩
    rw [List.reverse_cons, List.reverse_cons]
    exact .item items.reverse [] h
  | nextField stack fields key =>
    refine ⟨_, .nextField stack fields key data', ?_⟩
    rw [setField_of_not_mem _ (of_decide_eq_true hfresh), setField_of_not_mem _ (of_decide_eq_true hfresh)]
    exact .keyHere stack fields [] key h
  | closeObject stack fields key =>
    refine ⟨_, .closeObject stack fields key data', .afterHere stack ?_⟩
    rw [setField_of_not_mem _ (of_decide_eq_true hfresh), setField_of_not_mem _ (of_decide_eq_true hfresh)]
    exact .field fields [] key h

/-- Behind a value on stacks that differ, the next token leads to states that differ. -/
theorem SwappedStack.exists_moves_after {stack stack' : List Frame} {data : Json} (h : SwappedStack w w' stack stack')
    (hfresh : (State.after stack data).isFresh = true) (hmove : Moves (.after stack data) token next) :
    ∃ next', Moves (.after stack' data) token next' ∧ SwappedState w w' next next' := by
  -- the frame that takes the value may be the one that holds the swapped value, or it stands above it
  cases hmove with
  | openBrace hexpects | openBracket hexpects | literal hexpects | text hexpects => cases hexpects
  | nextItem stack items =>
    cases h with
    | top _ hframe =>
      cases hframe with
      | array before after h => exact ⟨_, .nextItem stack _ data, .value (.top _ (.array (data :: before) after h))⟩
    | under _ h => exact ⟨_, .nextItem _ items data, .value (.under _ h)⟩
  | closeArray stack items =>
    cases h with
    | top _ hframe =>
      cases hframe with
      | array before after h =>
        refine ⟨_, .closeArray stack _ data, .afterHere stack ?_⟩
        simp only [List.reverse_cons, List.reverse_append, List.append_assoc, List.singleton_append]
        exact .item after.reverse (before.reverse ++ [data]) h
    | under _ h => exact ⟨_, .closeArray _ items data, .after _ h⟩
  | nextField stack fields key =>
    cases h with
    | top _ hframe =>
      cases hframe with
      | object before after other _ h =>
        refine ⟨_, .nextField stack _ key data, ?_⟩
        rw [setField_behind (of_decide_eq_true hfresh), setField_behind (of_decide_eq_true hfresh)]
        exact .keyHere stack before _ other h
    | under _ h => exact ⟨_, .nextField _ fields key data, .key _ h⟩
  | closeObject stack fields key =>
    cases h with
    | top _ hframe =>
      cases hframe with
      | object before after other _ h =>
        refine ⟨_, .closeObject stack _ key data, .afterHere stack ?_⟩
        rw [setField_behind (of_decide_eq_true hfresh), setField_behind (of_decide_eq_true hfresh)]
        exact .field before _ other h
    | under _ h => exact ⟨_, .closeObject _ fields key data, .after _ h⟩

/-- One token leads from states that differ in one place to states that differ in one place. -/
theorem SwappedState.exists_moves (h : SwappedState w w' state state') (hfresh : state.isFresh = true)
    (hmove : Moves state token next) : ∃ next', Moves state' token next' ∧ SwappedState w w' next next' := by
  -- where the swapped value is: in a frame below, in the field that is being read, or just read
  cases h with
  | value h => exact h.exists_moves (.value _) hmove
  | @firstItem stack stack' h =>
    cases hmove with
    | emptyArray => exact ⟨_, .emptyArray stack', .after _ h⟩
    | openBrace hexpects =>
      cases hexpects
      exact (h.under (.array [])).exists_moves (.first stack') (.openBrace (.value _))
    | openBracket hexpects =>
      cases hexpects
      exact (h.under (.array [])).exists_moves (.first stack') (.openBracket (.value _))
    | literal hexpects data =>
      cases hexpects
      exact (h.under (.array [])).exists_moves (.first stack') (.literal (.value _) data)
    | text hexpects value =>
      cases hexpects
      exact (h.under (.array [])).exists_moves (.first stack') (.text (.value _) value)
  | @firstKey stack stack' h =>
    cases hmove with
    | openBrace hexpects | openBracket hexpects | literal hexpects | text hexpects => cases hexpects
    | emptyObject => exact ⟨_, .emptyObject stack', .after _ h⟩
    | firstKey _ key => exact ⟨_, .firstKey stack' key, .colon [] key h⟩
  | @key stack stack' fields h =>
    cases hmove with
    | openBrace hexpects | openBracket hexpects | literal hexpects | text hexpects => cases hexpects
    | key _ _ key => exact ⟨_, .key stack' fields key, .colon fields key h⟩
  | @colon stack stack' fields current h =>
    cases hmove with
    | openBrace hexpects | openBracket hexpects | literal hexpects | text hexpects => cases hexpects
    | colon => exact ⟨_, .colon stack' fields current, .value (.under _ h)⟩
  | after data h => exact h.exists_moves_after hfresh hmove
  | keyHere stack before after key h =>
    cases hmove with
    | openBrace hexpects | openBracket hexpects | literal hexpects | text hexpects => cases hexpects
    | key _ _ current => exact ⟨_, .key stack _ current, .colonHere stack before after key current h⟩
  | colonHere stack before after key current h =>
    cases hmove with
    | openBrace hexpects | openBracket hexpects | literal hexpects | text hexpects => cases hexpects
    | colon => exact ⟨_, .colon stack _ current, .value (.top stack (.object before after key current h))⟩
  | afterHere stack h => exact h.exists_moves hfresh hmove

/-- From states that differ in one place the same tokens are read as data that differ in one place. -/
theorem SwappedState.exists_reads {ts : List Token} {data : Json} (h : SwappedState w w' state state')
    (honce : keysOnceFrom state ts = true) (hreads : Reads state ts data) :
    ∃ data', Reads state' ts data' ∧ Swapped w w' data data' := by
  induction hreads generalizing state' with
  | done data =>
    cases h with
    | after _ h => cases h
    | afterHere _ h => exact ⟨_, .done _, h⟩
  | step hmove _ ih =>
    obtain ⟨hfresh, hothers⟩ := keysOnceFrom_of_moves honce hmove
    obtain ⟨next', hmove', hnext⟩ := h.exists_moves hfresh hmove
    obtain ⟨data', hreads', hdata⟩ := ih hnext hothers
    exact ⟨data', .step hmove' hreads', hdata⟩

end

end

end DocBrowser.Json
