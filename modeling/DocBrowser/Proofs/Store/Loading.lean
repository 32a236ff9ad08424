import Mathlib
import DocBrowser.Proofs.Query.Closed
import DocBrowser.Proofs.Text.Lines
import DocBrowser.Store.File
/-!
# Failures of loading

Loading a file goes through several readers, and what any of them finds wrong becomes a report of the store.
Two things do not: bytes that are no UTF-8 text, and a whole number inside a call that is too long to be
converted, where the text as a whole or one of its lines can be read up to that call.
-/

namespace DocBrowser.DocumentFile

open Shorthand (MeetsOverlong)

/-! ## Readers -/

/-- Whether reading gives documents or a report of the store. -/
def Closed (result : Except Failure (List Document)) : Prop :=
  (∃ docs, result = .ok docs) ∨ ∃ message context, result = .error (.report (.store message context))

@[simp] theorem closed_ok (docs : List Document) : Closed (.ok docs) := .inl ⟨docs, rfl⟩

@[simp] theorem closed_store (message : String) (context : List (String × Json)) :
    Closed (.error (.report (.store message context))) := .inr ⟨message, context, rfl⟩

@[simp] theorem not_closed_conversion (message : String) : ¬ Closed (.error (.conversion message)) := by
  simp [Closed]

@[simp] theorem not_closed_encoding : ¬ Closed (.error .encoding) := by
  simp [Closed]

theorem closed_map {result : Except Failure (List Document)} {f : List Document → List Document} :
    Closed (result.map f) ↔ Closed result := by
  cases result <;> simp [Closed, Except.map]

/-- An array is read or reported, whatever is in it. -/
theorem closed_readArray (path : String) (text : List Char) : Closed (readArray path text) := by
  unfold readArray
  split
  · exact closed_store _ _
  · split
    · exact closed_store _ _
    · split
      · exact closed_ok _
      · exact closed_store _ _
    · exact closed_store _ _

/-! ## Lines -/

/-- Whether a line is passed over or read. -/
def Reads (line : List Char) : Prop :=
  Text.trim line = [] ∨ ∃ doc, Query.compile .utc (String.ofList line) = .ok doc

/-- Whether lines are read one by one up to a line with a number that is too long. -/
def LinesMeetOverlong (lines : List (List Char)) : Prop :=
  ∃ front line back, lines = front ++ line :: back ∧ (∀ other ∈ front, Reads other) ∧ MeetsOverlong .utc line

theorem not_linesMeetOverlong_nil : ¬ LinesMeetOverlong [] := by
  rintro ⟨front, line, back, h, -⟩
  simp at h

/-- A line with a number that is too long is the first line, or the first one is read and it is one behind. -/
theorem linesMeetOverlong_cons {line : List Char} {lines : List (List Char)} :
    LinesMeetOverlong (line :: lines) ↔ MeetsOverlong .utc line ∨ Reads line ∧ LinesMeetOverlong lines := by
  constructor
  · rintro ⟨front, other, back, h, hfront, hmeets⟩
    cases front with
    | nil =>
      cases h
      exact .inl hmeets
    | cons first front =>
      cases h
      rw [List.forall_mem_cons] at hfront
      exact .inr ⟨hfront.1, front, other, back, rfl, hfront.2, hmeets⟩
  · rintro (hmeets | ⟨hreads, front, other, back, rfl, hfront, hmeets⟩)
    · exact ⟨[], line, lines, rfl, by simp, hmeets⟩
    · exact ⟨line :: front, other, back, rfl, List.forall_mem_cons.2 ⟨hreads, hfront⟩, hmeets⟩

/-- A blank line holds no number. -/
theorem not_meetsOverlong_of_trim {line : List Char} (h : Text.trim line = []) : ¬ MeetsOverlong .utc line := by
  intro hmeets
  have hall : ∀ c ∈ line, Text.isBlank c = true := by
    intro c hc
    by_contra hvisible
    have hmem := Text.mem_trim hc (by simpa using hvisible)
    rw [h] at hmem
    cases hmem
  have hsqueeze : Text.squeeze line = [] := by simpa [Text.squeeze] using hall
  have hblank := hmeets.not_blank
  simp [Query.isBlank, hsqueeze] at hblank

theorem closed_readLines_iff (path : String) (number : ℕ) (lines : List (List Char)) :
    Closed (readLines path number lines) ↔ ¬ LinesMeetOverlong lines := by
  induction lines generalizing number with
  | nil => simp [readLines, not_linesMeetOverlong_nil]
  | cons line lines ih =>
    rw [readLines, linesMeetOverlong_cons]
    by_cases htrim : Text.trim line = []
    · rw [if_pos htrim, ih]
      simp [not_meetsOverlong_of_trim htrim, Reads, htrim]
    · rw [if_neg htrim]
      have hcases := Query.compile_cases .utc (String.ofList line)
      rw [String.toList_ofList] at hcases
      rcases hcases with ⟨hmeets, ⟨doc, hdoc⟩ | ⟨fault, fragment, hfault, hfragment⟩⟩ | ⟨hmeets, digits, hfault⟩
      · simp [hdoc, closed_map, ih, hmeets, Reads]
      · -- the line is reported
        simp [hfault, Query.Fault.failure, hfragment, hmeets, Reads, htrim]
      · simp [hfault, Query.Fault.failure, Query.Fault.fragment?, hmeets]

/-! ## Whole files -/

/-- Whether the text of a file is read up to a number that is too long, as one document or line by line. -/
def TextMeetsOverlong (text : List Char) : Prop :=
  (Text.trim text).head? ≠ some '[' ∧ (MeetsOverlong .utc (Text.trim text) ∨
    (∀ doc, Query.compile .utc (String.ofList (Text.trim text)) ≠ .ok doc) ∧ LinesMeetOverlong (Text.splitLines text))

theorem closed_read_iff (path : String) (text : List Char) : Closed (read path text) ↔ ¬ TextMeetsOverlong text := by
  have hcases := Query.compile_cases .utc (String.ofList (Text.trim text))
  rw [String.toList_ofList] at hcases
  rw [read, layoutOf, TextMeetsOverlong]
  split
  · -- nothing is read of a blank file, and there is no number in it
    rename_i htrim
    have hblank : Query.compile .utc (String.ofList []) = .ok [] := by rfl
    have hmeets : ¬ MeetsOverlong .utc [] := not_meetsOverlong_of_trim rfl
    simp [htrim, readAs, bind, Except.bind, hmeets, hblank]
  · rename_i htrim
    simp [htrim, readAs, bind, Except.bind, closed_readArray]
  · rename_i hblank harray
    have hhead : (Text.trim text).head? ≠ some '[' := by
      intro hhead
      obtain ⟨rest, hrest⟩ := List.head?_eq_some_iff.1 hhead
      exact harray rest hrest
    rcases hcases with ⟨hmeets, ⟨doc, hdoc⟩ | ⟨fault, fragment, hfault, hfragment⟩⟩ | ⟨hmeets, digits, hfault⟩
    · simp [hdoc, readAs, bind, Except.bind, hmeets]
    · simp [hfault, hfragment, readAs, bind, Except.bind, hmeets, hhead, closed_readLines_iff]
    · simp [hfault, Query.Fault.failure, Query.Fault.fragment?, bind, Except.bind, hmeets, hhead]

/--
A file, which may be missing, is loaded or reported, exactly unless its bytes are no UTF-8 text or its text
is read up to a whole number in a call that is too long to be converted.
-/
theorem load_closed_iff (path : String) (file : Option (List UInt8)) :
    ((∃ docs, load path file = .ok docs) ∨
      ∃ message context, load path file = .error (.report (.store message context))) ↔
      ∀ bytes ∈ file, ∃ cs, Text.decodeUtf8? bytes = some cs ∧ ¬ TextMeetsOverlong (Text.universalNewlines cs) := by
  show Closed (load path file) ↔ _
  cases file with
  | none => simp [load, unreadable]
  | some bytes =>
    rw [load, decode]
    cases htext : Text.decodeUtf8? bytes with
    | none => simp [htext, bind, Except.bind]
    | some cs => simp [htext, bind, Except.bind, closed_read_iff]

/-- A byte that starts no character is not reported. -/
theorem load_byte : ¬ ((∃ docs, load "docs.json" (some [0xFF]) = .ok docs) ∨
    ∃ message context, load "docs.json" (some [0xFF]) = .error (.report (.store message context))) := by
  have hbytes : Text.decodeUtf8? [0xFF] = none := by
    simp [Text.decodeUtf8?, Text.decodePieces, Text.decodeHead]
  have hload : load "docs.json" (some [0xFF]) = .error .encoding := by
    rw [load, decode, hbytes]
    rfl
  rw [hload]
  exact not_closed_encoding

end DocBrowser.DocumentFile
