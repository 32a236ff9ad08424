import DocBrowser.Pattern.Compile
import DocBrowser.Pattern.Match
import DocBrowser.Store.Order
import DocBrowser.Store.Path
/-!
# Filters

A filter asks for values at paths. A value may be compared with another one or be tested by
operators, and filters combine by `$and`, `$or` and `$nor`. An array satisfies a condition as a
whole or through one of its items. Conditions are tried in order and the first that decides ends
the trial, so a fault behind it is never noticed.
-/

namespace DocBrowser

namespace Filter

/-- The values that a condition is tried on: an array stands for itself and for its items. -/
def candidates : Option Value → List Value
  | none => []
  | some (.array items) => .array items :: items
  | some value => [value]

/-! ## Regular expressions -/

/-- A fault of a pattern as a failure. -/
def patternFailure (pattern : String) (fault : Pattern.Fault) : Failure :=
  match fault with
  | .longNumber _ | .bothAlphabets => .conversion (fault.message pattern.toList)
  | .largeNumber => .outOfRange
  | _ => .report (.query ("Invalid regular expression: " ++ fault.message pattern.toList) "$regex")

/-- The modes that options choose; letters without a meaning are passed over. -/
def patternModes (options : String) : Pattern.Modes where
  ignoreCase := options.toList.contains 'i'
  multiline := options.toList.contains 'm'
  dotAll := options.toList.contains 's'
  verbose := options.toList.contains 'x'

/-- Whether a pattern matches in a value; only strings are searched. -/
def patternMatches (pattern options : String) : Value → Except Failure Bool
  | .string text =>
    match Pattern.compile (patternModes options) pattern.toList with
    | .ok compiled => .ok (compiled.matchesIn text.toList)
    | .error fault => .error (patternFailure pattern fault)
  | _ => .ok false

/-! ## Comparisons -/

/-- Whether a value is, or holds as an item, something equal to the expected value. -/
def equals (value : Option Value) (expected : Value) : Except Failure Bool :=
  match expected, value with
  | .regex pattern options, _ => (candidates value).anyM (patternMatches pattern options)
  | .null, none => .ok true
  | _, _ => (candidates value).anyM (Value.equal · expected)

/-- Whether a value is of the expected rank and its order to the expected value passes a test. -/
def compares (value : Option Value) (expected : Value) (test : Ordering → Bool) : Except Failure Bool := do
  let bound ← expected.sortKey
  (candidates value).anyM fun candidate => do
    let key ← candidate.sortKey
    return key.rank = bound.rank && test (key.compare bound)

/-- Whether the operand of `$exists` asks for a value that is there. -/
def asksForPresence : Value → Except Failure Bool
  | .null => .ok false
  | .bool value => .ok value
  | .int32 n => .ok (n.value ≠ 0)
  | .int64 n => .ok (n.value ≠ 0)
  | .double d => .ok (!d.isZero)
  | .decimal d => if d.isSignaling then .error .signaling else .ok (!d.isZero)
  | _ => .ok true

/-! ## Operators -/

/-- Fails with a report about an operator. -/
def refuse {α : Type} (message operator : String) : Except Failure α :=
  .error (.report (.query message operator))

/-- The pattern and the options of `$regex`. -/
def patternOf (operand : Value) (options : Option Value) : Except Failure (String × String) :=
  match operand, options with
  | .regex pattern own, _ => .ok (pattern, own)
  | .string pattern, none => .ok (pattern, "")
  | .string pattern, some (.string options) => .ok (pattern, options)
  | _, _ => refuse "$regex needs a string pattern" "$regex"

/-- Applies an operator other than `$not`; the options of a sibling are given along. -/
def applyOperator (value options : Option Value) (operator : String) (operand : Value) :
    Except Failure Bool :=
  match operator with
  | "$eq" => equals value operand
  | "$ne" => (equals value operand).map (!·)
  | "$gt" => compares value operand (· = .gt)
  | "$gte" => compares value operand (· ≠ .lt)
  | "$lt" => compares value operand (· = .lt)
  | "$lte" => compares value operand (· ≠ .gt)
  | "$in" =>
    match operand with
    | .array items => items.anyM (equals value)
    | _ => refuse "$in needs an array" "$in"
  | "$nin" =>
    match operand with
    | .array items => (items.anyM (equals value)).map (!·)
    | _ => refuse "$nin needs an array" "$nin"
  | "$exists" => (asksForPresence operand).map fun asked => value.isSome = asked
  | "$regex" => do
    let (pattern, options) ← patternOf operand options
    (candidates value).anyM (patternMatches pattern options)
  | "$options" => .ok true
  | other => refuse ("Unsupported operator " ++ other) other

mutual

/-- Whether a value passes all operators of a document. -/
def applyOperators (value options : Option Value) : List (String × Value) → Except Failure Bool
  | [] => .ok true
  | (operator, operand) :: rest => do
    if ← applyNamed value options operator operand then applyOperators value options rest
    else return false

/-- Whether a value passes one operator; `$not` turns the answer of its operand around. -/
def applyNamed (value options : Option Value) (operator : String) : Value → Except Failure Bool
  | .document fields =>
    if operator = "$not" then (applyOperators value (field? fields "$options") fields).map (!·)
    else applyOperator value options operator (.document fields)
  | operand =>
    if operator = "$not" then (equals value operand).map (!·)
    else applyOperator value options operator operand

end

/-- Whether a condition is a document of operators. -/
def isOperators : Value → Bool
  | .document fields => !fields.isEmpty && fields.all (·.1.startsWith "$")
  | _ => false

/-- Whether a value meets a condition. -/
def meets (value : Option Value) (condition : Value) : Except Failure Bool :=
  match condition with
  | .document fields =>
    if isOperators condition then applyOperators value (field? fields "$options") fields
    else equals value condition
  | _ => equals value condition

/-! ## Whole filters -/

/-- The operators that combine filters. -/
def isCombination (key : String) : Bool := key = "$and" || key = "$or" || key = "$nor"

/-- Whether a value is a document. -/
def isDocument : Value → Bool
  | .document _ => true
  | _ => false

/-- Whether the value at a path meets a condition. -/
def matchesValue (doc : Document) (key : String) (condition : Value) : Except Failure Bool :=
  if key.startsWith "$" then refuse ("Unsupported top-level operator " ++ key) key
  else do meets (← doc.resolve key) condition

mutual

/-- Whether a document meets all conditions of a filter. -/
def matchesFields (doc : Document) : List (String × Value) → Except Failure Bool
  | [] => .ok true
  | (key, condition) :: rest => do
    if ← matchesField doc key condition then matchesFields doc rest else return false

/-- Whether a document meets the condition of one key. -/
def matchesField (doc : Document) (key : String) : Value → Except Failure Bool
  | .array items =>
    if isCombination key then
      if items.all isDocument then
        if key = "$and" then matchesEvery doc items
        else if key = "$or" then matchesSome doc items
        else (matchesSome doc items).map (!·)
      else refuse (key ++ " needs an array of documents") key
    else matchesValue doc key (.array items)
  | condition =>
    if isCombination key then refuse (key ++ " needs an array of documents") key
    else matchesValue doc key condition

/-- Whether a document matches every one of some filters. -/
def matchesEvery (doc : Document) : List Value → Except Failure Bool
  | [] => .ok true
  | filter :: rest => do
    if ← matchesDocument doc filter then matchesEvery doc rest else return false

/-- Whether a document matches one of some filters. -/
def matchesSome (doc : Document) : List Value → Except Failure Bool
  | [] => .ok false
  | filter :: rest => do
    if ← matchesDocument doc filter then return true else matchesSome doc rest

/-- Whether a document matches a filter inside a combination. -/
def matchesDocument (doc : Document) : Value → Except Failure Bool
  | .document fields => matchesFields doc fields
  | _ => .ok true

end

end Filter

/-- Whether a document matches a filter. -/
def Document.matchesFilter (doc filter : Document) : Except Failure Bool :=
  Filter.matchesFields doc filter

end DocBrowser
