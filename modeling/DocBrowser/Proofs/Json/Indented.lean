import Mathlib
import DocBrowser.ExtendedJson.Encode
import DocBrowser.Proofs.Json.Scalars
/-!
# Text that is laid out again

Whatever text is read can be laid out over many lines. That text gives the same data and is laid out as itself
unless a number in it was too large for a double: such a number is written by a name, and strict text has no names
for doubles, so that reading stops at the first of them.
-/

namespace DocBrowser.Json

open Text (StopsAt)

/-! ## The first infinite double -/

/-- The sign of an infinite double. -/
def infinite? : Json → Option Bool
  | .float (.infinite negative) => some negative
  | _ => none

/-- The sign of the first infinite double in data. -/
def firstInfinite? (data : Json) : Option Bool := data.scalars.findSome? infinite?

theorem infinite?_eq_some {data : Json} {negative : Bool} (h : data.infinite? = some negative) :
    data = .float (.infinite negative) := by
  unfold infinite? at h
  split at h <;> cases h
  rfl

theorem firstInfinite?_eq_none_iff {data : Json} :
    data.firstInfinite? = none ↔ ∀ negative, .float (.infinite negative) ∉ data.scalars := by
  rw [firstInfinite?, List.findSome?_eq_none_iff]
  constructor
  · intro h negative hmem
    cases h _ hmem
  · intro h scalar hmem
    refine Option.eq_none_iff_forall_ne_some.2 fun negative hinfinite => h negative ?_
    rwa [← infinite?_eq_some hinfinite]

theorem Strict.readable_of_firstInfinite? {data : Json} (h : data.Strict) (hfirst : data.firstInfinite? = none) :
    data.Readable := h.readable_iff.2 (firstInfinite?_eq_none_iff.1 hfirst)

/-! ## Reading that stops -/

/-- Whether the machine stops with a fault somewhere in a text. -/
def Stops (fault : Fault) (front : State × List Char) : Prop :=
  ∀ end_ p, run end_ front.1 (tokens .strict p front.2) = .error fault

theorem Reaches.stops {a b : State × List Char} {fault : Fault} (h : Reaches .strict a b) (hb : Stops fault b) :
    Stops fault a := by
  intro end_ p
  obtain ⟨q, hq⟩ := h end_ p
  rw [hq, hb]

/-- The name that an infinite double is written by. -/
def infinityName (negative : Bool) : String := if negative then "-Infinity" else "Infinity"

theorem readToken_infinite (negative : Bool) (p : ℕ) (rest : List Char) :
    (readToken .strict p (writeDouble (.infinite negative) ++ rest)).1 =
      .faulty (.constant (infinityName negative)) := by
  cases negative
  · simp [writeDouble, readToken, wordTokens, List.isPrefixOf, Strictness.constant, infinityName]
  · simp [writeDouble, readToken, wordTokens, List.isPrefixOf, Strictness.constant, infinityName]

/-- Where a value is expected, the name of an infinite double is refused. -/
theorem stops_infinite {state : State} {stack : List Frame} (hstate : Expects state stack) (negative : Bool)
    (rest : List Char) :
    Stops (.constant (infinityName negative)) (state, writeDouble (.infinite negative) ++ rest) := by
  intro end_ p
  -- the name starts with a sign that is no white space, so it is the next token
  obtain ⟨c, cs, hcons, hspace⟩ : ∃ c cs, writeDouble (.infinite negative) ++ rest = c :: cs ∧ isSpace c = false := by
    cases negative <;> exact ⟨_, _, rfl, rfl⟩
  have hread := readToken_infinite negative p rest
  simp only [hcons] at hread ⊢
  rw [tokens, if_neg (by simp [hspace]), show readToken .strict p (c :: cs) = (_, _) from Prod.ext hread rfl]
  simp only [Token.isLast, if_true, run, hstate.step p (show Token.faulty _ ≠ .closeBracket by simp)]
  rfl

section

variable {layout : Layout} (hlayout : layout.Blank) {ascii negative : Bool}

include hlayout

/-- Reading stops in data or, if nothing in it is infinite, somewhere behind it. -/
theorem stops_append {state : State} {stack : List Frame} (hstate : Expects state stack) (depth : ℕ) {data : Json}
    (h : data.Strict) {behind : Option Bool} (hfirst : data.firstInfinite?.or behind = some negative) {fault : Fault}
    {rest : List Char} (hrest : StopsAt continuesNumber rest)
    (hinside : data.firstInfinite? = some negative → Stops fault (state, writeAt ⟨layout, ascii⟩ depth data ++ rest))
    (hbehind : behind = some negative → Stops fault (.after stack data, rest)) :
    Stops fault (state, writeAt ⟨layout, ascii⟩ depth data ++ rest) := by
  cases hdata : data.firstInfinite? with
  | some sign =>
    rw [hdata, Option.some_or] at hfirst
    exact hinside (hdata.trans hfirst)
  | none =>
    rw [hdata, Option.none_or] at hfirst
    exact (reaches_writeAt hlayout hstate depth data (h.readable_of_firstInfinite? hdata) hrest).stops (hbehind hfirst)

mutual

/-- Written data is read up to the first infinite double in it. -/
theorem stops_writeAt {state : State} {stack : List Frame} (hstate : Expects state stack) (depth : ℕ) (data : Json)
    (h : data.Strict) (hfirst : data.firstInfinite? = some negative) (rest : List Char) :
    Stops (.constant (infinityName negative)) (state, writeAt ⟨layout, ascii⟩ depth data ++ rest) := by
  match data, h, hfirst with
  | .float (.infinite sign), _, hfirst =>
    obtain rfl : sign = negative := by simpa [firstInfinite?, scalars, infinite?] using hfirst
    rw [writeAt]
    exact stops_infinite hstate sign rest
  | .arr (item :: items), h, hfirst =>
    -- what is infinite stands in the first item, or behind it
    rw [firstInfinite?, scalars, scalarsItems, List.findSome?_append] at hfirst
    obtain ⟨hitem, hitems⟩ := List.forall_mem_cons.1 h.item
    rw [writeAt]
    simp only [List.cons_append, List.append_assoc]
    refine (reaches_openArray hlayout hstate (depth + 1) _).stops ?_
    have hgap := stopsAt_gap rest (hlayout.gap depth) (show continuesNumber ']' = false by decide)
    refine stops_append hlayout (.first stack) (depth + 1) hitem hfirst (stopsAt_writeItems _ _ hgap)
      (fun hinside => ?_) fun hbehind => ?_
    · exact stops_writeAt (.first stack) (depth + 1) item hitem hinside _
    · exact stops_writeItems [] item (depth + 1) items hitems hbehind (hlayout.gap depth) rest
  | .obj ((key, value) :: fields), h, hfirst =>
    rw [firstInfinite?, scalars, scalarsFields, List.findSome?_append] at hfirst
    obtain ⟨hvalue, hfields⟩ := List.forall_mem_cons.1 h.field
    rw [writeAt]
    simp only [List.cons_append, List.append_assoc]
    refine (reaches_openObject hlayout hstate key (depth + 1) _).stops ?_
    have hgap := stopsAt_gap rest (hlayout.gap depth) (show continuesNumber '\x7d' = false by decide)
    refine stops_append hlayout (.value _) (depth + 1) hvalue hfirst (stopsAt_writeFields _ _ hgap)
      (fun hinside => ?_) fun hbehind => ?_
    · exact stops_writeAt (.value _) (depth + 1) value hvalue hinside _
    · exact stops_writeFields [] key value (depth + 1) fields hfields hbehind (hlayout.gap depth) rest

/-- Items behind a first one are read up to the first infinite double in them. -/
theorem stops_writeItems {stack : List Frame} (before : List Json) (last : Json) (depth : ℕ) (items : List Json)
    (h : ∀ item ∈ items, item.Strict) (hfirst : (scalarsItems items).findSome? infinite? = some negative)
    {gap : List Char} (hgap : ∀ c ∈ gap, isSpace c = true) (rest : List Char) :
    Stops (.constant (infinityName negative))
      (.after (.array before :: stack) last, writeItems ⟨layout, ascii⟩ depth items ++ (gap ++ ']' :: rest)) := by
  match items, h, hfirst with
  | item :: items, h, hfirst =>
    rw [scalarsItems, List.findSome?_append] at hfirst
    obtain ⟨hitem, hitems⟩ := List.forall_mem_cons.1 h
    rw [writeItems]
    simp only [List.cons_append, List.append_assoc]
    refine (reaches_nextItem hlayout before last depth _).stops ?_
    have hstop := stopsAt_gap rest hgap (show continuesNumber ']' = false by decide)
    -- the reading stops inside this item or, when it is finite throughout, in one of those behind it
    refine stops_append hlayout (.value _) depth hitem hfirst (stopsAt_writeItems _ _ hstop)
      (fun hinside => ?_) fun hbehind => ?_
    · exact stops_writeAt (.value _) depth item hitem hinside _
    · exact stops_writeItems (last :: before) item depth items hitems hbehind hgap rest

/-- Fields behind a first one are read up to the first infinite double in them. -/
theorem stops_writeFields {stack : List Frame} (before : List (String × Json)) (key : String) (last : Json)
    (depth : ℕ) (fields : List (String × Json)) (h : ∀ field ∈ fields, field.2.Strict)
    (hfirst : (scalarsFields fields).findSome? infinite? = some negative) {gap : List Char}
    (hgap : ∀ c ∈ gap, isSpace c = true) (rest : List Char) :
    Stops (.constant (infinityName negative))
      (.after (.object before key :: stack) last,
        writeFields ⟨layout, ascii⟩ depth fields ++ (gap ++ '\x7d' :: rest)) := by
  match fields, h, hfirst with
  | (next, value) :: fields, h, hfirst =>
    rw [scalarsFields, List.findSome?_append] at hfirst
    obtain ⟨hvalue, hfields⟩ := List.forall_mem_cons.1 h
    rw [writeFields]
    simp only [List.cons_append, List.append_assoc]
    refine (reaches_nextField hlayout before key next last depth _).stops ?_
    have hstop := stopsAt_gap rest hgap (show continuesNumber '\x7d' = false by decide)
    refine stops_append hlayout (.value _) depth hvalue hfirst (stopsAt_writeFields _ _ hstop)
      (fun hinside => ?_) fun hbehind => ?_
    · exact stops_writeAt (.value _) depth value hvalue hinside _
    · exact stops_writeFields _ next value depth fields hfields hbehind hgap rest

end

end

/-! ## Indented text -/

/-- Data that holds something infinite is written as text that is refused. -/
theorem parse_write_of_firstInfinite? {layout : Layout} (hlayout : layout.Blank) {data : Json} (h : data.Strict)
    {ascii negative : Bool} (hfirst : data.firstInfinite? = some negative) :
    parse (write ⟨layout, ascii⟩ data) = .error (.constant (infinityName negative)) := by
  rw [write, parse, parseWith, if_neg (head?_writeAt_ne _ 0 data)]
  have hstops : Stops _ (.value [], writeAt ⟨layout, ascii⟩ 0 data ++ []) :=
    stops_writeAt hlayout (.value []) 0 data h hfirst []
  rw [List.append_nil] at hstops
  exact hstops _ 0

/--
Text that can be read is laid out over many lines. Laid out, it gives the same data, and itself when it is laid out
once more, exactly if the data holds nothing infinite; otherwise the name of the first infinite double is refused.
-/
theorem indent_preserves_iff {text : List Char} {data : Json} (h : parse text = .ok data) :
    indent text = .ok data.indentedText ∧
      (parse data.indentedText = .ok data ∧ indent data.indentedText = .ok data.indentedText ↔
        ∀ negative, .float (.infinite negative) ∉ data.scalars) ∧
      ∀ negative, data.firstInfinite? = some negative →
        parse data.indentedText = .error (.constant (infinityName negative)) := by
  have hindent {cs : List Char} (hparse : parse cs = .ok data) : indent cs = .ok data.indentedText := by
    rw [indent, hparse]
  have hstrict := strict_of_parse h
  have hstops (negative : Bool) (hfirst : data.firstInfinite? = some negative) :
      parse data.indentedText = .error (.constant (infinityName negative)) :=
    parse_write_of_firstInfinite? Layout.indented_blank hstrict hfirst
  refine ⟨hindent h, ⟨fun hback => ?_, fun hfinite => ?_⟩, hstops⟩
  · -- an infinity among the scalars would have stopped the reading at its name
    refine firstInfinite?_eq_none_iff.1 (Option.eq_none_iff_forall_ne_some.2 fun negative hfirst => ?_)
    exact absurd (hback.1.symm.trans (hstops negative hfirst)) nofun
  · have hback : parse data.indentedText = .ok data :=
      parseWith_write Layout.indented_blank (hstrict.readable_iff.2 hfinite)
    exact ⟨hback, hindent hback⟩

/-- A repeated key, an escape and a number in another spelling, laid out and read back. -/
theorem indent_preserves_respelled :
    parse "\x7b\"a\": 1, \"b\": [250, \"\\u00e9\\n\"], \"a\": -0e5\x7d".toList =
        .ok (.obj [("a", .float (.finite true 0)), ("b", .arr [.int 250, .str "é\n"])]) ∧
      parse "\x7b\n  \"a\": -0.0,\n  \"b\": [\n    250,\n    \"é\\n\"\n  ]\n\x7d".toList =
        .ok (.obj [("a", .float (.finite true 0)), ("b", .arr [.int 250, .str "é\n"])]) := by
  have h : parse "\x7b\"a\": 1, \"b\": [250, \"\\u00e9\\n\"], \"a\": -0e5\x7d".toList =
      .ok (.obj [("a", .float (.finite true 0)), ("b", .arr [.int 250, .str "é\n"])]) := by cbv
  have htext : indentedText (.obj [("a", .float (.finite true 0)), ("b", .arr [.int 250, .str "é\n"])]) =
      "\x7b\n  \"a\": -0.0,\n  \"b\": [\n    250,\n    \"é\\n\"\n  ]\n\x7d".toList := by cbv
  have hback := ((indent_preserves_iff h).2.1.2 (by simp [scalars, scalarsFields, scalarsItems])).1
  rw [htext] at hback
  exact ⟨h, hback⟩

/-- A number that is too large for a double is written by a name, which is no JSON. -/
theorem not_indent_preserves_overflow :
    parse "1e999".toList = .ok (.float (.infinite false)) ∧ indent "1e999".toList = .ok "Infinity".toList ∧
      parse "Infinity".toList = .error (.constant "Infinity") ∧
      indent "Infinity".toList = .error (.invalidJson
        "Infinity is not valid JSON; use \x7b\"$numberDouble\": \"Infinity\"\x7d") := by
  refine ⟨by cbv, by cbv, by cbv, by cbv⟩

end DocBrowser.Json
