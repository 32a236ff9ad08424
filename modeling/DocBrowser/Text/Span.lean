/-!
# Spans of code points

A class of characters is written as an ascending list of closed spans of code points.
-/

namespace DocBrowser.Text

/-- The first and the last code point of a run of characters. -/
abbrev Span := Nat × Nat

/-- Whether a character lies in one of the spans, which ascend. -/
def inSpans : List Span → Char → Bool
  | [], _ => false
  | (first, last) :: rest, c =>
    if c.toNat < first then false else c.toNat ≤ last || inSpans rest c

end DocBrowser.Text
