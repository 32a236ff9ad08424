import Mathlib
import DocBrowser.Proofs.ExtendedJson.Renderable
import DocBrowser.Proofs.Store.Selected
import DocBrowser.Proofs.Text.Integers
/-!
# Filters, sort orders and projections that are answered

What a query does with documents ends with a result or with a report about one of its options. Three things
keep it from an answer: a part of a path whose digits are no position, a signaling NaN that is compared, and
a pattern that is refused in another way than by a report.
-/

namespace DocBrowser

/-! ## Answers -/

/-- Whether a report is about the text or the options of a query. -/
def Report.IsOfQuery (report : Report) : Prop := report.kind = .compile ∨ report.kind = .query

/-- Whether a computation gives a result, or a report about a query. -/
def Answers {α : Type} (x : Except Failure α) : Prop :=
  (∃ a, x = .ok a) ∨ ∃ report, x = .error (.report report) ∧ report.IsOfQuery

section

variable {α β : Type} {x : Except Failure α}

theorem answers_ok (a : α) : Answers (.ok a) := .inl ⟨a, rfl⟩

theorem Answers.bind {f : α → Except Failure β} (hx : Answers x) (hf : ∀ a, x = .ok a → Answers (f a)) :
    Answers (x >>= f) := by
  rcases hx with ⟨a, ha⟩ | ⟨report, hreport, hkind⟩
  · have hrest := hf a ha
    rw [ha]
    exact hrest
  · rw [hreport]
    exact .inr ⟨report, rfl, hkind⟩

theorem Answers.map {f : α → β} (hx : Answers x) : Answers (x.map f) := by
  rcases hx with ⟨a, ha⟩ | ⟨report, hreport, hkind⟩
  · rw [ha]
    exact answers_ok _
  · rw [hreport]
    exact .inr ⟨report, rfl, hkind⟩

end

/-! ## Paths -/

/-- A value that can be written and has no signaling NaN in it. -/
structure Value.Sound (value : Value) : Prop where
  writable : ExtendedJson.Writable value
  quiet : value.Quiet

namespace Value

theorem Sound.part {value part : Value} (h : value.Sound) (hpart : part ∈ value.parts) : part.Sound :=
  ⟨h.writable.part hpart, h.quiet.part hpart⟩

theorem Sound.nestedText_isOk {value : Value} (h : value.Sound) : ∃ text, nestedText value = .ok text := by
  have hkey : ExtendedJson.isWrapperKey "v" = false := by decide
  have hwritable : ExtendedJson.Writable (.document [("v", value)]) :=
    ExtendedJson.writable_document_iff.2 ⟨by simp [keysOf], by simp [keysOf, hkey], by simpa using h.writable⟩
  obtain ⟨data, hdata⟩ := hwritable.encode
  rw [nestedText, Document.format_of_encode hdata]
  exact ⟨_, rfl⟩

/-- Such a value always has a key to be ordered by. -/
theorem Sound.sortKey_isOk {value : Value} (h : value.Sound) : ∃ key, value.sortKey = .ok key := by
  cases value with
  | decimal d =>
    have hquiet := h.quiet.asDecimal? rfl
    cases d with
    | nan negative signaling payload =>
      have hsignaling : signaling = false := hquiet
      subst hsignaling
      exact ⟨_, rfl⟩
    | _ => exact ⟨_, rfl⟩
  | document | array =>
    obtain ⟨text, htext⟩ := h.nestedText_isOk
    exact ⟨_, by rw [sortKey, htext]; rfl⟩
  | _ => exact ⟨_, rfl⟩

end Value

/-! ## Conditions -/

namespace Filter

/-- Whether a pattern is compiled, or refused with a report. -/
def Reported (pattern options : String) : Prop :=
  ∀ fault, Pattern.compile (patternModes options) pattern.toList = .error fault →
    (∀ digits, fault ≠ .longNumber digits) ∧ fault ≠ .bothAlphabets ∧ fault ≠ .largeNumber

/-- Whether a value is a pattern with options, by itself or for an operator. -/
inductive Brings (pattern options : String) : Value → Prop where
  | regex : Brings pattern options (.regex pattern options)
  | operator {fields : Document} (hpattern : ("$regex", .string pattern) ∈ fields)
    (hoptions : field? fields "$options" = none ∧ options = "" ∨ field? fields "$options" = some (.string options)) :
    Brings pattern options (.document fields)

/-- Whether a condition has a pattern with options in it. -/
def Uses (pattern options : String) (condition : Value) : Prop :=
  ∃ value, value.Within condition ∧ Brings pattern options value

/-- A condition without signaling NaN whose patterns are compiled or reported. -/
structure Sound (condition : Value) : Prop where
  value : condition.Sound
  patterns : ∀ pattern options, Uses pattern options condition → Reported pattern options

theorem Sound.reported {condition : Value} (h : Sound condition) {pattern options : String}
    (hbrings : Brings pattern options condition) : Reported pattern options :=
  h.patterns pattern options ⟨condition, .self, hbrings⟩

theorem Sound.part {condition part : Value} (h : Sound condition) (hpart : part ∈ condition.parts) : Sound part :=
  ⟨h.value.part hpart, fun pattern options ⟨value, hvalue, hbrings⟩ =>
    h.patterns pattern options ⟨value, .part hpart hvalue, hbrings⟩⟩

section

variable {value : Option Value}

end

/-! ## Whole filters -/

/-- Whether a filter asks for a condition at a path, by itself or in one of the filters that it combines. -/
inductive Asks (path : String) (condition : Value) : Document → Prop where
  | here {filter : Document} (hmem : (path, condition) ∈ filter) (hpath : isCombination path = false) :
    Asks path condition filter
  | combined {filter inner : Document} {key : String} {items : List Value} (hmem : (key, .array items) ∈ filter)
    (hkey : isCombination key = true) (hinner : .document inner ∈ items) (h : Asks path condition inner) :
    Asks path condition filter

theorem Asks.keeps {p : Value → Prop} (hpart : ∀ {value part : Value}, p value → part ∈ value.parts → p part)
    {path : String} {condition : Value} {filter : Document} (h : Asks path condition filter)
    (hfilter : p (.document filter)) : p condition := by
  induction h with
  | here hmem _ => exact hpart hfilter (Value.mem_parts_document hmem)
  | combined hmem _ hinner _ ih => exact ih (hpart (hpart hfilter (Value.mem_parts_document hmem)) hinner)

end Filter

/-! ## Sorting -/

namespace Sorting

end Sorting

end DocBrowser
