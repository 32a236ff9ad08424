import DocBrowser.Query.Shorthand
/-!
# Compiling query text

Query text is expanded from shell style, read as strict JSON and resolved into a document. Text
that is blank, or an empty pair of braces, asks for nothing and compiles to the empty document.
-/

namespace DocBrowser

namespace Query

/-- Why query text does not compile. -/
inductive Fault where
  /-- A piece of the text cannot be expanded. -/
  | expansion (cause : Shorthand.Cause) (fragment : String)
  /-- The expanded text is not JSON; the fragment is the text around the fault. -/
  | invalid (fault : Json.SyntaxFault) (fragment : String)
  /-- The expanded text holds a constant or a number that JSON readers refuse; the text is shown. -/
  | refused (message : String) (text : String)
  /-- A wrapper is malformed. -/
  | wrapper (cause : ExtendedJson.Cause) (fragment : String)
  /-- A number is out of range; the text is shown. -/
  | number (message : String) (text : String)
  /-- The text stands for something other than a document. -/
  | notADocument (text : String)
  /-- A whole number inside a call has more digits than a conversion accepts. -/
  | longInteger (digits : Nat)
  deriving DecidableEq, Repr

/-- A fault in words. -/
def Fault.message : Fault → String
  | .expansion cause _ => cause.message
  | .invalid fault _ => "Invalid query syntax: " ++ fault.message
  | .refused message _ => "Invalid query syntax: " ++ message
  | .wrapper cause _ => cause.message
  | .number message _ => message
  | .notADocument _ => "Query must be a document"
  | .longInteger digits => Text.tooManyDigitsMessage digits

/-- The piece of text that a fault is about; a number that is too long to convert shows none. -/
def Fault.fragment? : Fault → Option String
  | .expansion _ fragment | .invalid _ fragment | .refused _ fragment | .wrapper _ fragment
  | .number _ fragment | .notADocument fragment => some fragment
  | .longInteger _ => none

/-- Whether a text asks for nothing. -/
def isBlank (text : List Char) : Bool :=
  let squeezed := Text.squeeze text
  squeezed = [] || squeezed = ['\x7b', '\x7d']

/-- The text around a position. -/
def excerpt (text : List Char) (position : Nat) : List Char :=
  let start := position - Shorthand.excerptLength
  (text.take (position + Shorthand.excerptLength)).drop start

/-- The document that expanded text stands for. -/
def resolve (zone : Zone) (text : String) (expanded : List Char) : Except Fault Document :=
  match Json.parse expanded with
  | .error (.syntaxAt fault position) =>
    .error (.invalid fault (String.ofList (excerpt expanded position)))
  | .error fault => .error (.refused (fault.message expanded) text)
  | .ok (.obj fields) =>
    match ExtendedJson.decode zone (.obj fields) with
    | .error (.wrapper cause fragment) => .error (.wrapper cause fragment)
    | .error fault => .error (.number fault.message text)
    | .ok (.document doc) => .ok doc
    | .ok _ => .error (.notADocument text)
  | .ok _ => .error (.notADocument text)

/-- Compiles query text; dates without an offset are placed in the zone. -/
def compile (zone : Zone) (text : String) : Except Fault Document :=
  if isBlank text.toList then .ok []
  else
    match Shorthand.expand zone text.toList with
    | .error (.piece cause fragment) => .error (.expansion cause (String.ofList fragment))
    | .error (.longInteger digits) => .error (.longInteger digits)
    | .ok expanded => resolve zone text expanded

/-- Compiles query text that may be missing altogether. -/
def compile? (zone : Zone) (text : Option String) : Except Fault Document :=
  match text with
  | none => .ok []
  | some text => compile zone text

/-! ## Regular expressions as members of arrays -/

/-- The operators whose arrays hold regular expressions themselves and not their operator form. -/
def isMembership (key : String) : Bool := key = "$in" || key = "$nin"

/-- The regular expression that a document in operator form stands for. -/
def regexOfOperator (value : Value) : Value :=
  match value with
  | .document fields =>
    if fields.all fun (key, _) => key = "$regex" || key = "$options" then
      match field? fields "$regex", field? fields "$options" with
      | some (.string pattern), none => .regex pattern ""
      | some (.string pattern), some (.string options) => .regex pattern options
      | _, _ => value
    else value
  | _ => value

mutual

/-- Replaces regular expressions in operator form inside the arrays of membership operators. -/
def nativeRegexIn : Value → Value
  | .array items => .array (nativeRegexInItems items)
  | .document fields => .document (nativeRegexInFields fields)
  | value => value

/-- Replaces them in every item. -/
def nativeRegexInItems : List Value → List Value
  | [] => []
  | item :: rest => nativeRegexIn item :: nativeRegexInItems rest

/-- Replaces them in every field. -/
def nativeRegexInFields : List (String × Value) → List (String × Value)
  | [] => []
  | (key, value) :: rest => (key, nativeRegexInField key value) :: nativeRegexInFields rest

/-- Replaces them in the value of a key. -/
def nativeRegexInField (key : String) : Value → Value
  | .array items =>
    if isMembership key then .array ((nativeRegexInItems items).map regexOfOperator)
    else .array (nativeRegexInItems items)
  | .document fields => .document (nativeRegexInFields fields)
  | value => value

end

/-- A filter whose membership arrays hold regular expressions themselves. -/
def nativeRegex (filter : Document) : Document := nativeRegexInFields filter

end Query

end DocBrowser
