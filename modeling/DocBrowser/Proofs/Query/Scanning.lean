import Mathlib
import DocBrowser.Query.Shorthand
/-!
# Quoted literals in one pass

Between single quotes a double quote needs no backslash. Whether it has one is only judged when the whole literal
has been cut off, from the number of backslashes in front of the quote. That number is even wherever an escape or a
character of the literal ends, and odd behind the backslash of an escape, so the quotes that get a backslash are
those that can be given it on the way: a literal is scanned in one pass.
-/

namespace DocBrowser.Shorthand

/--
Scans a quoted literal from behind its opening quote: the literal as the inside of a JSON string,
and its length with the closing quote. Inside single quotes a double quote needs no backslash and
a single quote takes one.
-/
def scanString (quote : Char) : List Char → Option (List Char × ℕ)
  | [] => none
  | '\\' :: c :: rest =>
    let piece := if quote = '\'' ∧ c = '\'' then ['\''] else ['\\', c]
    (scanString quote rest).map fun (raw, length) => (piece ++ raw, length + 2)
  | c :: rest =>
    if c = quote then some ([], 1)
    else
      let piece := if quote = '\'' ∧ c = '"' then ['\\', '"'] else [c]
      (scanString quote rest).map fun (raw, length) => (piece ++ raw, length + 1)

/-! ## Backslashes in front of a quote -/

/-- Of the backslashes in front of a text it only counts whether their number is even. -/
theorem escapeQuotes_congr {slashes slashes' : ℕ} (h : slashes % 2 = slashes' % 2) (cs : List Char) :
    escapeQuotes slashes cs = escapeQuotes slashes' cs := by
  induction cs generalizing slashes slashes' with
  | nil => rfl
  | cons c rest ih =>
    rw [escapeQuotes, escapeQuotes, h]
    split_ifs with hquote hslash
    · rfl
    · rw [ih (show (slashes + 1) % 2 = (slashes' + 1) % 2 by omega)]
    · rfl

/-- A bare double quote gets its backslash, and any other character but a backslash stays as it is. -/
theorem escapeQuotes_cons {c : Char} (hc : c ≠ '\\') (rest : List Char) :
    escapeQuotes 0 (c :: rest) = (if c = '"' then ['\\', '"'] else [c]) ++ escapeQuotes 0 rest := by
  rw [escapeQuotes, if_neg hc]
  by_cases hquote : c = '"' <;> simp [hquote]

/-- An escape stays as it is, also that of a double quote or of a backslash. -/
theorem escapeQuotes_escape (c : Char) (rest : List Char) :
    escapeQuotes 0 ('\\' :: c :: rest) = '\\' :: c :: escapeQuotes 0 rest := by
  rw [escapeQuotes, if_neg (by decide), if_pos rfl, escapeQuotes, if_neg (by simp)]
  split_ifs
  · rw [escapeQuotes_congr (show (0 + 1 + 1) % 2 = 0 % 2 by decide)]
  · rfl

/-! ## Literals -/

theorem scanString_of_ne {quote c : Char} (hc : c ≠ '\\') (rest : List Char) :
    scanString quote (c :: rest) =
      if c = quote then some ([], 1)
      else (scanString quote rest).map fun (raw, length) =>
        ((if quote = '\'' ∧ c = '"' then ['\\', '"'] else [c]) ++ raw, length + 1) := by
  rw [scanString]
  rintro _ _ rfl
  exact absurd rfl hc

theorem scanString_plain {c : Char} (hquote : c ≠ '"') (hbackslash : c ≠ '\\') (rest : List Char) :
    scanString '"' (c :: rest) = (scanString '"' rest).map fun (raw, length) => (c :: raw, length + 1) := by
  rw [scanString_of_ne hbackslash, if_neg hquote]
  rfl

theorem scanString_backslash (c : Char) (rest : List Char) :
    scanString '"' ('\\' :: c :: rest) =
      (scanString '"' rest).map fun (raw, length) => ('\\' :: c :: raw, length + 2) := by
  rw [scanString]
  simp

/-- What is escaped when a literal has been cut off is what scanning the literal escapes on the way. -/
theorem map_cutLiteral (quote : Char) (cs : List Char) :
    (cutLiteral quote cs).map (fun (literal, length) =>
      (if quote = '\'' then escapeQuotes 0 literal else literal, length)) = scanString quote cs := by
  induction cs using scanString.induct quote with
  | case1 => rfl
  | case2 c rest ih =>
    rw [cutLiteral, scanString, ← ih]
    by_cases hsingle : quote = '\''
    · by_cases hc : c = '\''
      · simp [hsingle, hc, Function.comp_def, escapeQuotes_cons]
      · simp [hsingle, hc, Function.comp_def, escapeQuotes_escape]
    · simp [hsingle, Function.comp_def]
  | case3 rest hescape =>
    rw [cutLiteral.eq_3 _ _ _ hescape, scanString.eq_3 _ _ _ hescape, if_pos rfl, if_pos rfl]
    simp [escapeQuotes]
  | case4 c rest hescape hne ih =>
    rw [cutLiteral.eq_3 _ _ _ hescape, scanString.eq_3 _ _ _ hescape, if_neg hne, if_neg hne, ← ih]
    by_cases hc : c = '\\'
    · -- a backslash that escapes nothing is the last sign of the text, and the literal never ends
      have hrest : rest = [] := by
        cases rest with
        | nil => rfl
        | cons d rest => exact (hescape d rest hc rfl).elim
      simp [hrest, cutLiteral]
    · by_cases hsingle : quote = '\''
      · simp [hsingle, Function.comp_def, escapeQuotes_cons hc]
      · simp [hsingle, Function.comp_def]

/-- A quoted literal is read as what it is scanned as. -/
theorem readString_eq (quote : Char) (rest : List Char) :
    readString quote rest =
      match scanString quote rest with
      | none => .error (.piece .openString (quote :: rest))
      | some (raw, length) =>
        match Json.readString 0 1 (raw ++ ['"']) with
        | .ok (value, _) => .ok (value, length + 1)
        | .error (.syntaxAt fault _) => .error (.piece (.badString fault) (quote :: rest.take length))
        | .error _ => .error (.piece .openString (quote :: rest)) := by
  rw [readString, ← map_cutLiteral]
  cases cutLiteral quote rest <;> rfl

end DocBrowser.Shorthand
