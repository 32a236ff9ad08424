import DocBrowser.Text.Blank
/-!
# Keys at the start of lines

A line may start with a quoted key and a colon. Quotes and backslashes inside the key are escaped.
-/

namespace DocBrowser

/-- A line that starts with a key. -/
structure KeyStart where
  /-- The white space in front. -/
  indent : List Char
  /-- The key with its quotes. -/
  quoted : List Char
  /-- The colon with the white space in front of it. -/
  colon : List Char
  rest : List Char

namespace KeyStart

/-- The rest of a quoted text up to its closing quote, and what follows. -/
def closeQuote? : List Char → Option (List Char × List Char)
  | [] => none
  | '"' :: rest => some (['"'], rest)
  | '\\' :: c :: rest =>
    if c = '\n' then none
    else (closeQuote? rest).map fun (quoted, after) => ('\\' :: c :: quoted, after)
  | ['\\'] => none
  | c :: rest => (closeQuote? rest).map fun (quoted, after) => (c :: quoted, after)

/-- Splits the key off a line that starts with one. -/
def ofLine? (line : List Char) : Option KeyStart :=
  match line.dropWhile Text.isBlank with
  | '"' :: body =>
    (closeQuote? body).bind fun (quoted, after) =>
      match after.dropWhile Text.isBlank with
      | ':' :: rest => some
          { indent := line.takeWhile Text.isBlank, quoted := '"' :: quoted
            colon := after.takeWhile Text.isBlank ++ [':'], rest }
      | _ => none
  | _ => none

end KeyStart

end DocBrowser
