import DocBrowser.Console.Emoji
import DocBrowser.Console.Markup
import DocBrowser.Text.Blank
import DocBrowser.Text.Case
import DocBrowser.Text.Width
/-!
# Lines on the console

A line is shown with emoji in place of their names, without the control characters that move the
cursor, and with tabs widened to the next multiple of eight columns.
-/

namespace DocBrowser.Console

/-- The name between a colon and the next one, and what follows; no name holds white space. -/
def nameBehindColon? : List Char → Option (List Char × List Char)
  | [] => none
  | c :: rest =>
    if c = ':' then some ([], rest)
    else if Text.isBlank c then none
    else (nameBehindColon? rest).map fun (name, behind) => (c :: name, behind)

/-- What follows a name is shorter than the text in front of it. -/
theorem length_behind_nameBehindColon? {text name behind : List Char}
    (h : nameBehindColon? text = some (name, behind)) : behind.length < text.length := by
  induction text generalizing name behind with
  | nil => simp [nameBehindColon?] at h
  | cons c rest ih =>
    unfold nameBehindColon? at h
    split at h
    · simp at h; simp [← h.2]
    · split at h
      · simp at h
      · simp only [Option.map_eq_some_iff, Prod.mk.injEq] at h
        obtain ⟨⟨t, b⟩, found, -, rfl⟩ := h
        have := ih found
        simp; omega

/-- The ends of names that ask for a variant of an emoji, and the characters that choose it. -/
def variants : List (List Char × Char) := [("-text".toList, '\uFE0E'), ("-emoji".toList, '\uFE0F')]

/-- A name without the end that asks for a variant, and the variant. -/
def splitVariant (name : List Char) : List Char × List Char :=
  match variants.find? fun (ending, _) => ending.isSuffixOf name with
  | some (ending, variant) => (name.take (name.length - ending.length), [variant])
  | none => (name, [])

/-- The emoji that is shown for a name, whose case does not matter. -/
def shownEmoji? (name : List Char) : Option (List Char) :=
  let (name, variant) := splitVariant name
  (emoji? (name.map fun c => Char.ofNat (Text.lowerCode c.toNat))).map (· ++ variant)

/-- Puts emoji in place of their names. -/
def withEmoji (text : List Char) : List Char :=
  match text with
  | [] => []
  | c :: rest =>
    if c = ':' then
      match h : nameBehindColon? rest with
      | some (name, behind) =>
        have : behind.length < (c :: rest).length :=
          Nat.lt_succ_of_lt (length_behind_nameBehindColon? h)
        (shownEmoji? name).getD (':' :: name ++ [':']) ++ withEmoji behind
      | none => c :: withEmoji rest
    else c :: withEmoji rest
termination_by text.length
decreasing_by all_goals (simp only [List.length_cons] at *; omega)

/-- The distance of tab stops. -/
def tabWidth : Nat := 8

/-- Widens the tabs of a text that goes on at a column. -/
def expandTabsFrom (column : Nat) : List Char → List Char
  | [] => []
  | c :: rest =>
    if c = '\n' then c :: expandTabsFrom 0 rest
    else if c = '\t' then
      let width := tabWidth - column % tabWidth
      List.replicate width ' ' ++ expandTabsFrom (column + width) rest
    else c :: expandTabsFrom (column + Text.columns c) rest

/-- The line that pieces of text make on the console. -/
def lineOf (pieces : List (List Char)) : List Char :=
  let text := (pieces.map withEmoji).flatten
  expandTabsFrom 0 (text.filter (!Text.isDropped ·)) ++ ['\n']

/-- The line that marked-up text makes. -/
def line (markup : List Char) : List Char := lineOf (Markup.pieces markup)

/-- The line that text without markup makes. -/
def plainLine (text : List Char) : List Char := lineOf [text]

end DocBrowser.Console
