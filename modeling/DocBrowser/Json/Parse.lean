import DocBrowser.Json.Token
import DocBrowser.Text.Lines
/-!
# Reading JSON

The tokens of a text drive a machine whose stack holds the arrays and objects that are still open.
Each token is either what the state expects or tells what is wrong, so the text is read in one pass
and the first fault from the left is the one reported.
-/

namespace DocBrowser.Json

/-- An open array with its items, last first, or an open object with its fields and the current key. -/
inductive Frame where
  | array (items : List Json)
  | object (fields : List (String × Json)) (key : String)

/-- What has been read and what must follow. -/
inductive State where
  /-- A value. -/
  | value (stack : List Frame)
  /-- The first item of an array, or its end. -/
  | firstItem (stack : List Frame)
  /-- The first key of an object, or its end. -/
  | firstKey (stack : List Frame)
  /-- A key. -/
  | key (stack : List Frame) (fields : List (String × Json))
  /-- The colon behind a key. -/
  | colon (stack : List Frame) (fields : List (String × Json)) (key : String)
  /-- Whatever may follow a complete value. -/
  | after (stack : List Frame) (value : Json)

/-- A fault that the token itself brings along, or else the given one at its position. -/
def Token.fault (position : Nat) (otherwise : SyntaxFault) : Token → Fault
  | .faulty fault => fault
  | _ => .syntaxAt otherwise position

/-- Reads a token where a value is expected. -/
def stepValue (stack : List Frame) (position : Nat) : Token → Except Fault State
  | .openBrace => .ok (.firstKey stack)
  | .openBracket => .ok (.firstItem stack)
  | .literal value => .ok (.after stack value)
  | .text value => .ok (.after stack (.str value))
  | token => .error (token.fault position .value)

/-- Reads a token where a key is expected. -/
def stepKey (stack : List Frame) (fields : List (String × Json)) (position : Nat) :
    Token → Except Fault State
  | .text key => .ok (.colon stack fields key)
  | .faulty (.syntaxAt fault at_) => .error (.syntaxAt fault at_)
  | _ => .error (.syntaxAt .propertyName position)

/-- Reads a token behind a complete value. -/
def stepAfter (stack : List Frame) (value : Json) (position : Nat) (token : Token) :
    Except Fault State :=
  match stack, token with
  | [], _ => .error (.syntaxAt .extraData position)
  | .array items :: rest, .comma => .ok (.value (.array (value :: items) :: rest))
  | .array items :: rest, .closeBracket => .ok (.after rest (.arr (value :: items).reverse))
  | .object fields key :: rest, .comma => .ok (.key rest (setField fields key value))
  | .object fields key :: rest, .closeBrace => .ok (.after rest (.obj (setField fields key value)))
  | _, _ => .error (.syntaxAt .comma position)

/-- Reads one token. -/
def step (state : State) (position : Nat) (token : Token) : Except Fault State :=
  match state with
  | .value stack => stepValue stack position token
  | .firstItem stack =>
    match token with
    | .closeBracket => .ok (.after stack (.arr []))
    | _ => stepValue (.array [] :: stack) position token
  | .firstKey stack =>
    match token with
    | .closeBrace => .ok (.after stack (.obj []))
    | _ => stepKey stack [] position token
  | .key stack fields => stepKey stack fields position token
  | .colon stack fields key =>
    match token with
    | .colon => .ok (.value (.object fields key :: stack))
    | _ => .error (.syntaxAt .colon position)
  | .after stack value => stepAfter stack value position token

/-- What is read when the text ends. -/
def State.finish (end_ : Nat) : State → Except Fault Json
  | .value .. | .firstItem .. => .error (.syntaxAt .value end_)
  | .firstKey .. | .key .. => .error (.syntaxAt .propertyName end_)
  | .colon .. => .error (.syntaxAt .colon end_)
  | .after [] data => .ok data
  | .after (_ :: _) _ => .error (.syntaxAt .comma end_)

/-- Runs the machine over tokens. -/
def run (end_ : Nat) : State → List (Nat × Token) → Except Fault Json
  | state, [] => state.finish end_
  | state, (position, token) :: rest => (step state position token).bind fun next => run end_ next rest

/-- Reads JSON text with some strictness. -/
def parseWith (strictness : Strictness) (cs : List Char) : Except Fault Json :=
  if cs.head? = some '\uFEFF' then .error (.syntaxAt .byteOrderMark 0)
  else run cs.length (.value []) (tokens strictness 0 cs)

/-- Reads strict JSON text. -/
def parse (cs : List Char) : Except Fault Json := parseWith .strict cs

/-- Reads JSON text that may hold words for doubles that are not finite. -/
def parseLenient (cs : List Char) : Except Fault Json := parseWith .lenient cs

/-! ## Faults in words -/

/-- A fault in words, with its place in the text where it has one. -/
def Fault.message (cs : List Char) : Fault → String
  | .syntaxAt fault position =>
    let (line, column) := Text.lineAndColumn cs position
    s!"{fault.message}: line {line} column {column} (char {position})"
  | .constant name =>
    s!"{name} is not valid JSON; use \x7b\"$numberDouble\": \"" ++ name ++ "\"\x7d"
  | .longInteger digits => Text.tooManyDigitsMessage digits

end DocBrowser.Json
