import DocBrowser.Text.Digits
import DocBrowser.Text.Quoted
import DocBrowser.Text.Lines
/-!
# Faults of patterns

Why a text is not a pattern, and in which words. Most faults name the position at which they were
noticed, and its line and column in patterns of many lines.
-/

namespace DocBrowser.Pattern

/-- What is wrong at a position of a pattern. -/
inductive Cause where
  /-- The pattern ends in a lone backslash. -/
  | danglingEscape
  | incompleteEscape (text : List Char)
  | badEscape (text : List Char)
  /-- An octal escape stands for more than a byte. -/
  | wideOctal (text : List Char)
  | missing (what : String)
  | unterminatedName (terminator : Char)
  | undefinedCharacter (name : List Char)
  | openGroup
  /-- A group is referred to in the look-behind that defines it. -/
  | groupOfLookBehind
  | invalidReference (group : Int)
  | unterminatedSet
  | badRange (first last : List Char)
  | leastAboveMost
  | nothingToRepeat
  | multipleRepeat
  | unexpectedEnd
  | badName (name : List Char)
  | unknownName (name : List Char)
  | unknownExtension (text : List Char)
  | unterminatedComment
  | unterminatedGroup
  | zeroGroup
  | tooManyBranches
  | lateModes
  | redefinedName (name : List Char) (group earlier : Nat)
  | localeMode
  | incompatibleModes
  | unknownMode
  | alphabetOff
  | wholeModeOn
  | wholeModeOff
  | modeBothWays
  | unbalanced
  deriving DecidableEq, Repr

/-- A cause in words. -/
def Cause.message : Cause → String
  | .danglingEscape => "bad escape (end of pattern)"
  | .incompleteEscape text => "incomplete escape " ++ String.ofList text
  | .badEscape text => "bad escape " ++ String.ofList text
  | .wideOctal text => "octal escape value " ++ String.ofList text ++ " outside of range 0-0o377"
  | .missing what => "missing " ++ what
  | .unterminatedName terminator => "missing " ++ terminator.toString ++ ", unterminated name"
  | .undefinedCharacter name => "undefined character name " ++ String.ofList (Text.quoted name)
  | .openGroup => "cannot refer to an open group"
  | .groupOfLookBehind => "cannot refer to group defined in the same lookbehind subpattern"
  | .invalidReference group => s!"invalid group reference {group}"
  | .unterminatedSet => "unterminated character set"
  | .badRange first last =>
    "bad character range " ++ String.ofList first ++ "-" ++ String.ofList last
  | .leastAboveMost => "min repeat greater than max repeat"
  | .nothingToRepeat => "nothing to repeat"
  | .multipleRepeat => "multiple repeat"
  | .unexpectedEnd => "unexpected end of pattern"
  | .badName name => "bad character in group name " ++ String.ofList (Text.quoted name)
  | .unknownName name => "unknown group name " ++ String.ofList (Text.quoted name)
  | .unknownExtension text => "unknown extension ?" ++ String.ofList text
  | .unterminatedComment => "missing ), unterminated comment"
  | .unterminatedGroup => "missing ), unterminated subpattern"
  | .zeroGroup => "bad group number"
  | .tooManyBranches => "conditional backref with more than two branches"
  | .lateModes => "global flags not at the start of the expression"
  | .redefinedName name group earlier =>
    "redefinition of group name " ++ String.ofList (Text.quoted name) ++
      s!" as group {group}; was group {earlier}"
  | .localeMode => "bad inline flags: cannot use 'L' flag with a str pattern"
  | .incompatibleModes => "bad inline flags: flags 'a', 'u' and 'L' are incompatible"
  | .unknownMode => "unknown flag"
  | .alphabetOff => "bad inline flags: cannot turn off flags 'a', 'u' and 'L'"
  | .wholeModeOn => "bad inline flags: cannot turn on global flag"
  | .wholeModeOff => "bad inline flags: cannot turn off global flag"
  | .modeBothWays => "bad inline flags: flag turned on and off"
  | .unbalanced => "unbalanced parenthesis"

/-- Why a text is not a pattern. -/
inductive Fault where
  | at (cause : Cause) (position : Nat)
  /-- What a look-behind has to match is of no fixed width. -/
  | lookBehindWidth
  /-- What a look-behind has to match is too wide. -/
  | lookBehindTooWide
  /-- Repetitions are not supported in template mode. -/
  | templateRepetition (kind : String)
  /-- A bound of a repetition has too many digits to be read. -/
  | longNumber (digits : Nat)
  /-- A bound of a repetition is too large. -/
  | largeNumber
  /-- Both alphabets are chosen for the whole pattern. -/
  | bothAlphabets
  deriving DecidableEq, Repr

/-- A fault in words, for the pattern in which it was found. -/
def Fault.message (pattern : List Char) : Fault → String
  | .at cause position =>
    let text := s!"{cause.message} at position {position}"
    if pattern.contains '\n' then
      let (line, column) := Text.lineAndColumn pattern position
      text ++ s!" (line {line}, column {column})"
    else text
  | .lookBehindWidth => "look-behind requires fixed-width pattern"
  | .lookBehindTooWide => "looks too much behind"
  | .templateRepetition kind => "internal: unsupported template operator " ++ kind
  | .longNumber digits => Text.tooManyDigitsMessage digits
  | .largeNumber => "the repetition number is too large"
  | .bothAlphabets => "ASCII and UNICODE flags are incompatible"

end DocBrowser.Pattern
