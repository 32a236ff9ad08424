import Mathlib
import DocBrowser.Failure
import DocBrowser.Proofs.Failure
import DocBrowser.Proofs.Query.Arguments
import DocBrowser.Proofs.Query.Shorthand
import DocBrowser.Proofs.Text.Integers
/-!
# Faults of query text

Whatever is wrong with query text is reported with a piece of it, from whichever stage it comes: scanning,
calls, JSON or wrappers. There is one exception, a whole number inside a call that has more digits than a
conversion accepts. It is met exactly where the text can be read piece by piece up to such a call.
-/

namespace DocBrowser.Shorthand

/-! ## Numbers that are too long -/

/-- Whether a text is a whole number with more digits than a conversion accepts. -/
def Overlong (raw : List Char) : Prop :=
  Text.isIntegerText raw = true ∧ Text.digitLimit < (raw.filter Text.isDecimalDigit).length

/-- The text that a call converts to a whole number. -/
def Call.integerText? : Call → List Argument → Option (List Char)
  | .int, [.text value] | .int, [.number value] => some (Text.trim value)
  | .long, [.text value] | .long, [.number value] => some (Text.trim value)
  | .binary, [.number subtype, .text _] => some subtype
  | _, _ => none

/-- Whether a text starts with a call in which a whole number is too long. -/
def StartsOverlong (text cs : List Char) : Prop :=
  ∃ call behind arguments after raw, callAt? cs = some (call, behind) ∧
    readArguments text (behind.length + 1) true behind = .ok (arguments, after) ∧
    call.integerText? arguments = some raw ∧ Overlong raw

/--
From behind one sign of structure to behind another, the text in between is read piece by piece. A place is
the sign written last together with the rest of the text.
-/
inductive Passes (zone : Zone) (text : List Char) : Option Char × List Char → Option Char × List Char → Prop where
  | refl (place : Option Char × List Char) : Passes zone text place place
  | blank {last : Option Char} {c : Char} {rest : List Char} {place : Option Char × List Char}
    (hblank : Text.isBlank c = true) (h : Passes zone text (last, rest) place) :
    Passes zone text (last, c :: rest) place
  | piece {last : Option Char} {c : Char} {rest : List Char} {place : Option Char × List Char} {piece : Piece}
    (hblank : Text.isBlank c = false) (hpiece : readPiece zone text last c rest = .ok piece)
    (h : Passes zone text (some piece.last, rest.drop (piece.length - 1)) place) :
    Passes zone text (last, c :: rest) place

/-- Whether reading a text piece by piece meets a call in which a whole number is too long. -/
def MeetsOverlong (zone : Zone) (text : List Char) : Prop :=
  ∃ last rest, Passes zone text (none, text) (last, rest) ∧ StartsOverlong text rest

/-! ## Faults without a piece of text -/

/-- Whether a number is too long to be converted. -/
def IsLong {α : Type} (result : Except Fault α) : Prop := ∃ digits, result = .error (.longInteger digits)

section

variable {α β : Type}

@[simp] theorem isLong_ok (a : α) : ¬ IsLong (.ok a : Except Fault α) := by simp [IsLong]

@[simp] theorem isLong_piece (cause : Cause) (fragment : List Char) :
    ¬ IsLong (.error (.piece cause fragment) : Except Fault α) := by simp [IsLong]

@[simp] theorem isLong_longInteger (digits : ℕ) : IsLong (.error (.longInteger digits) : Except Fault α) :=
  ⟨digits, rfl⟩

theorem isLong_bind {x : Except Fault α} {f : α → Except Fault β} :
    IsLong (x >>= f) ↔ IsLong x ∨ ∃ a, x = .ok a ∧ IsLong (f a) := by
  cases x with
  | error fault => simp [IsLong, Bind.bind, Except.bind]
  | ok a => simp [Bind.bind, Except.bind]

theorem isLong_bind_left {x : Except Fault α} {f : α → Except Fault β} (hf : ∀ a, ¬ IsLong (f a)) :
    IsLong (x >>= f) ↔ IsLong x := by
  simp [isLong_bind, hf]

theorem isLong_map {x : Except Fault α} {f : α → β} : IsLong (x.map f) ↔ IsLong x := by
  cases x with
  | error fault => simp [IsLong, Except.map]
  | ok a => simp [Except.map]

end

@[simp] theorem not_isLong_readString (quote : Char) (rest : List Char) : ¬ IsLong (readString quote rest) := by
  rw [readString_eq]
  split
  · simp
  · split <;> simp

@[simp] theorem not_isLong_readArgument (cs : List Char) : ¬ IsLong (readArgument cs) := by
  have hnumber : ¬ IsLong (if numberLength cs = 0 then .error (.piece .argument (cs.take excerptLength))
      else .ok (Argument.number (cs.take (numberLength cs)), numberLength cs)) := by
    split_ifs <;> simp
  unfold readArgument
  cases cs with
  | nil => exact hnumber
  | cons c rest =>
    dsimp only
    split_ifs
    · simp [isLong_map]
    · exact isLong_piece _ _
    · exact isLong_ok _

@[simp] theorem not_isLong_readArguments (text : List Char) (fuel : ℕ) (isFirst : Bool) (cs : List Char) :
    ¬ IsLong (readArguments text fuel isFirst cs) := by
  induction fuel generalizing isFirst cs with
  | zero => simp [readArguments]
  | succ fuel ih =>
    rw [readArguments]
    split
    · simp
    · -- the closing bracket, an argument that fails, and what stands behind one that does not
      split_ifs
      · simp
      · rw [isLong_bind]
        rintro (h | ⟨⟨argument, length⟩, -, h⟩)
        · exact not_isLong_readArgument _ h
        · dsimp only at h
          split at h
          · rw [isLong_bind] at h
            rcases h with h | ⟨⟨others, behind⟩, -, h⟩
            · exact ih _ _ h
            · exact isLong_ok _ h
          · exact isLong_ok _ h
          · exact isLong_piece _ _ h

@[simp] theorem not_isLong_readRegex (rest : List Char) : ¬ IsLong (readRegex rest) := by
  unfold readRegex
  dsimp only
  split_ifs <;> simp

/-! ## Calls -/

/-- A whole number of some kind is read from its text, and refused as too long exactly where it is. -/
theorem isLong_readInt {α : Type} {raw : List Char} {cause : Cause} {fragment : List Char} {next : ℤ → Except Fault α}
    (hnext : ∀ n, ¬ IsLong (next n)) :
    IsLong (if Text.isIntegerText raw then
      match Text.readInt raw with
      | .error (.tooManyDigits count) => .error (.longInteger count)
      | .error .notANumber => .error (.piece cause fragment)
      | .ok n => next n
    else .error (.piece cause fragment)) ↔ Overlong raw := by
  rw [Overlong]
  by_cases hinteger : Text.isIntegerText raw = true
  · rw [if_pos hinteger, ← Text.readInt_eq_tooManyDigits_iff hinteger]
    rcases Text.readInt raw with (_ | count) | n
    · simp
    · simp [hinteger]
    · simp [hnext]
  · rw [if_neg hinteger]
    simp [hinteger]

theorem isLong_readBits (call : Call) (bits : ℕ) (fragment raw : List Char) :
    IsLong (readBits call bits fragment raw) ↔ Overlong raw := by
  refine isLong_readInt fun n => ?_
  split_ifs <;> simp

theorem isLong_readSubtype (fragment raw : List Char) : IsLong (readSubtype fragment raw) ↔ Overlong raw := by
  refine isLong_readInt fun n => ?_
  split <;> simp

@[simp] theorem not_isLong_onlyArgument (call : Call) (numbers : Bool) (fragment : List Char)
    (arguments : List Argument) : ¬ IsLong (onlyArgument call numbers fragment arguments) := by
  unfold onlyArgument
  split
  · simp
  · split_ifs <;> simp
  · simp

/-- A call that converts its only argument to a whole number. -/
theorem onlyArgument_true_eq_ok {call : Call} (hcall : call = .int ∨ call = .long) (fragment : List Char)
    {arguments : List Argument} {raw : List Char} :
    (∃ value, onlyArgument call true fragment arguments = .ok value ∧ Text.trim value = raw) ↔
      call.integerText? arguments = some raw := by
  match arguments with
  | [.text value] | [.number value] => rcases hcall with rfl | rfl <;> simp [onlyArgument, Call.integerText?]
  | [] | [.text _, _] | [.number _, _] | .text _ :: _ :: _ :: _ | .number _ :: _ :: _ :: _ =>
    rcases hcall with rfl | rfl <;> simp [onlyArgument, Call.integerText?]

theorem isLong_integerCall {call : Call} (hcall : call = .int ∨ call = .long) (bits : ℕ) (arguments : List Argument)
    (fragment : List Char) {next : ℤ → List Char} :
    IsLong (do
      let value ← onlyArgument call true fragment arguments
      let n ← readBits call bits fragment (Text.trim value)
      .ok (next n)) ↔ ∃ raw, call.integerText? arguments = some raw ∧ Overlong raw := by
  simp only [isLong_bind, not_isLong_onlyArgument, false_or, isLong_readBits, isLong_ok, and_false, exists_false,
    or_false, ← onlyArgument_true_eq_ok hcall fragment]
  constructor
  · rintro ⟨value, h, hlong⟩
    exact ⟨_, ⟨value, h, rfl⟩, hlong⟩
  · rintro ⟨raw, ⟨value, h, rfl⟩, hlong⟩
    exact ⟨value, h, hlong⟩

theorem isLong_expandCall (zone : Zone) (call : Call) (arguments : List Argument) (fragment : List Char) :
    IsLong (expandCall zone call arguments fragment) ↔
      ∃ raw, call.integerText? arguments = some raw ∧ Overlong raw := by
  cases call with
  | objectId capital => simp [expandCall, isLong_bind, Call.integerText?]
  | date =>
    rw [expandCall, isLong_bind_left]
    · simp [Call.integerText?]
    · intro value
      split <;> simp
  | int => exact isLong_integerCall (.inl rfl) 32 arguments fragment
  | long => exact isLong_integerCall (.inr rfl) 64 arguments fragment
  | decimal =>
    rw [expandCall, isLong_bind_left]
    · simp [Call.integerText?]
    · intro value
      dsimp only
      split_ifs <;> simp
  | binary =>
    match arguments with
    | [.number subtype, .text payload] => simp [expandCall, isLong_bind, isLong_readSubtype, Call.integerText?]
    | [] | [_] | [.text _, _] | [.number _, .number _] | _ :: _ :: _ :: _ => simp [expandCall, Call.integerText?]
  | minKey | maxKey =>
    rw [expandCall]
    split_ifs <;> simp [Call.integerText?]

/-! ## Pieces -/

theorem isPrefixOf_of_callAt? {cs behind : List Char} {call : Call} (h : callAt? cs = some (call, behind)) :
    call.name.toList.isPrefixOf cs = true := by
  obtain ⟨other, -, hother⟩ := List.exists_of_findSome?_eq_some h
  dsimp only at hother
  split_ifs at hother with hlead
  split at hother
  · cases hother
    exact hlead
  · cases hother

/-- The letters that the names of calls start with. -/
def initials : List Char := ['O', 'I', 'N', 'B', 'M']

/-- An initial is neither white space nor a sign that something else starts with. -/
theorem sign_of_mem_initials {c : Char} (h : c ∈ initials) :
    Text.isBlank c = false ∧ isStructural c = false ∧ c ≠ '"' ∧ c ≠ '\'' ∧ c ≠ '/' := by
  revert c
  simp [initials, Text.isBlank, isStructural]

theorem name_eq_cons (call : Call) : ∃ c ∈ initials, ∃ rest, call.name.toList = c :: rest := by
  cases call with
  | objectId capital => cases capital <;> exact ⟨'O', by decide, _, rfl⟩
  | date => exact ⟨'I', by decide, _, rfl⟩
  | int | long | decimal => exact ⟨'N', by decide, _, rfl⟩
  | binary => exact ⟨'B', by decide, _, rfl⟩
  | minKey | maxKey => exact ⟨'M', by decide, _, rfl⟩

theorem eq_cons_of_callAt? {cs behind : List Char} {call : Call} (h : callAt? cs = some (call, behind)) :
    ∃ c ∈ initials, ∃ rest, cs = c :: rest := by
  have hlead := isPrefixOf_of_callAt? h
  obtain ⟨c, hc, name, hname⟩ := name_eq_cons call
  rw [hname] at hlead
  cases cs with
  | nil => cases hlead
  | cons first rest =>
    rw [List.isPrefixOf, Bool.and_eq_true, beq_iff_eq] at hlead
    exact ⟨c, hc, rest, by rw [hlead.1]⟩

theorem isLong_readBare (zone : Zone) (text : List Char) (last : Option Char) (cs : List Char) :
    IsLong (readBare zone text last cs) ↔ StartsOverlong text cs := by
  rw [readBare, StartsOverlong]
  cases hcall : callAt? cs with
  | some found =>
    obtain ⟨call, behind⟩ := found
    simp only [isLong_bind, not_isLong_readArguments, false_or, isLong_expandCall, isLong_ok, and_false, exists_false,
      or_false, Option.some.injEq, Prod.mk.injEq]
    constructor
    · rintro ⟨⟨arguments, after⟩, harguments, raw, hraw, hlong⟩
      exact ⟨call, behind, arguments, after, raw, ⟨rfl, rfl⟩, harguments, hraw, hlong⟩
    · rintro ⟨_, _, arguments, after, raw, ⟨rfl, rfl⟩, harguments, hraw, hlong⟩
      exact ⟨(arguments, after), harguments, raw, hraw, hlong⟩
  | none =>
    simp only [reduceCtorEq, false_and, exists_false, iff_false]
    -- bounds without parentheses convert nothing, and words and keys stand as they are
    split
    · rename_i call length hbound
      rw [isLong_bind, isLong_expandCall]
      rintro (⟨raw, hraw, -⟩ | ⟨written, -, h⟩)
      · cases call <;> simp [Call.integerText?] at hraw
      · exact isLong_ok _ h
    · split
      · exact isLong_piece _ _
      · split_ifs <;> exact isLong_ok _

/-- A piece of text is refused for a number exactly where an overlong call starts. -/
theorem isLong_readPiece (zone : Zone) (text : List Char) (last : Option Char) (c : Char) (rest : List Char) :
    IsLong (readPiece zone text last c rest) ↔ StartsOverlong text (c :: rest) := by
  have hinitial : StartsOverlong text (c :: rest) → c ∈ initials := by
    rintro ⟨call, behind, arguments, after, raw, hcall, -⟩
    obtain ⟨c', hc', rest', heq⟩ := eq_cons_of_callAt? hcall
    cases heq
    exact hc'
  rw [readPiece]
  -- strings, patterns and signs start with characters that start no call
  split_ifs with hquote hslash hstructural
  · simp only [isLong_map, not_isLong_readString, false_iff]
    intro hstarts
    simp [sign_of_mem_initials (hinitial hstarts)] at hquote
  · simp only [not_isLong_readRegex, false_iff]
    intro hstarts
    simp [sign_of_mem_initials (hinitial hstarts)] at hslash
  · simp only [isLong_ok, false_iff]
    intro hstarts
    simp [sign_of_mem_initials (hinitial hstarts)] at hstructural
  · exact isLong_readBare zone text last (c :: rest)

/-! ## Whole texts -/

/-- Expanding meets an overlong call exactly where such a call starts behind pieces that can be read. -/
theorem isLong_expandFrom (zone : Zone) (text : List Char) (last : Option Char) (cs : List Char) :
    IsLong (expandFrom zone text last cs) ↔
      ∃ last' rest, Passes zone text (last, cs) (last', rest) ∧ StartsOverlong text rest := by
  constructor
  · -- the recursion of expanding: what is passed in front is put before the place that is met behind
    intro h
    induction last, cs using expandFrom.induct with
    | case1 last =>
      rw [expandFrom] at h
      exact absurd h (isLong_ok _)
    | case2 last c rest hblank ih =>
      rw [expandFrom, if_pos hblank, isLong_bind] at h
      rcases h with h | ⟨written, -, h⟩
      · obtain ⟨last', rest', hpasses, hstarts⟩ := ih h
        exact ⟨last', rest', .blank hblank hpasses, hstarts⟩
      · exact absurd h (isLong_ok _)
    | case3 last c rest hblank ih =>
      rw [expandFrom, if_neg hblank, isLong_bind] at h
      rcases h with h | ⟨piece, hpiece, h⟩
      · exact ⟨last, c :: rest, .refl _, (isLong_readPiece zone text last c rest).1 h⟩
      · rw [isLong_bind] at h
        rcases h with h | ⟨written, -, h⟩
        · obtain ⟨last', rest', hpasses, hstarts⟩ := ih piece h
          exact ⟨last', rest', .piece (Bool.eq_false_of_not_eq_true hblank) hpiece hpasses, hstarts⟩
        · exact absurd h (isLong_ok _)
  · -- a fault at the place that is met goes through all pieces in front of it
    rintro ⟨last', rest', hpasses, hstarts⟩
    generalize hplace : (last, cs) = place at hpasses
    generalize hplace' : (last', rest') = place' at hpasses
    induction hpasses generalizing last cs with
    | refl place =>
      cases hplace.trans hplace'.symm
      obtain ⟨c, hc, rest, rfl⟩ : ∃ c ∈ initials, ∃ rest, rest' = c :: rest := by
        obtain ⟨call, behind, arguments, after, raw, hcall, -⟩ := hstarts
        exact eq_cons_of_callAt? hcall
      rw [expandFrom, if_neg (by simp [sign_of_mem_initials hc]), isLong_bind]
      exact .inl ((isLong_readPiece zone text last' c rest).2 hstarts)
    | blank hblank _ ih =>
      cases hplace
      rw [expandFrom, if_pos hblank, isLong_bind]
      exact .inl (ih _ _ rfl hplace')
    | @piece last c rest _ piece hblank hpiece _ ih =>
      cases hplace
      rw [expandFrom, if_neg (by simp [hblank]), isLong_bind]
      exact .inr ⟨piece, hpiece, isLong_bind.2 (.inl (ih _ _ rfl hplace'))⟩

theorem Passes.suffix {zone : Zone} {text : List Char} {place place' : Option Char × List Char}
    (h : Passes zone text place place') : place'.2 <:+ place.2 := by
  induction h with
  | refl => exact List.suffix_rfl
  | blank _ _ ih => exact ih.trans (List.suffix_cons _ _)
  | piece _ _ _ ih => exact (ih.trans (List.drop_suffix _ _)).trans (List.suffix_cons _ _)

/-- A text with a call in it is not blank. -/
theorem MeetsOverlong.not_blank {zone : Zone} {text : List Char} (h : MeetsOverlong zone text) :
    Query.isBlank text = false := by
  obtain ⟨last, rest, hpasses, call, behind, arguments, after, raw, hcall, -⟩ := h
  obtain ⟨c, hc, rest', rfl⟩ := eq_cons_of_callAt? hcall
  have hmem : c ∈ Text.squeeze text := by
    rw [Text.squeeze, List.mem_filter]
    exact ⟨hpasses.suffix.mem (by simp), by simp [sign_of_mem_initials hc]⟩
  simp only [Query.isBlank, Bool.or_eq_false_iff, decide_eq_false_iff_not]
  constructor <;> intro hsqueeze <;> rw [hsqueeze] at hmem
  · cases hmem
  · have hbraces : ∀ c ∈ ['\x7b', '\x7d'], isStructural c = true := by simp [isStructural]
    simpa [sign_of_mem_initials hc] using hbraces c hmem

/-! ## A number with too many digits -/

/-- A number with too many digits is met in the call of a field's value. -/
theorem meetsOverlong_int (zone : Zone) (run : List Char) (hrun : ∀ c ∈ run, c.isDigit = true)
    (hlimit : Text.digitLimit < run.length) :
    MeetsOverlong zone ("\x7ba: NumberInt(".toList ++ (run ++ ")\x7d".toList)) := by
  have hne : run ≠ [] := by
    rintro rfl
    simp at hlimit
  have hdigit : ∀ c ∈ run, Text.isDecimalDigit c = true := fun c hc => Text.isDecimalDigit_of_isDigit (hrun c hc)
  have harguments : Arguments true (run ++ ")\x7d".toList) [.number run] ['\x7d'] :=
    arguments_integer (.inl rfl) hne hdigit true ['\x7d']
  refine ⟨some ':', "NumberInt(".toList ++ (run ++ ")\x7d".toList), ?_, .int, run ++ ")\x7d".toList, [.number run],
    ['\x7d'], run, rfl, harguments.readArguments _ (Nat.lt_succ_self _), ?_, ?_, ?_⟩
  · -- the pieces in front of the call are the brace, the key and the colon
    have hbrace (text rest : List Char) : readPiece zone text none '\x7b' rest = .ok ⟨['\x7b'], '\x7b', 1⟩ := by rfl
    have hkey (text rest : List Char) :
        readPiece zone text (some '\x7b') 'a' (':' :: rest) = .ok ⟨Json.writeText true ['a'], '"', 1⟩ := by rfl
    have hcolon (text rest : List Char) : readPiece zone text (some '"') ':' rest = .ok ⟨[':'], ':', 1⟩ := by rfl
    exact .piece (by decide) (hbrace _ _) (.piece (by decide) (hkey _ _) (.piece (by decide) (hcolon _ _)
      (.blank (by decide) (.refl _))))
  · rw [Call.integerText?, Text.trim_eq_self fun c hc => Text.isBlank_of_isDigit (hrun c hc)]
  · exact Text.isIntegerText_integer (.inl rfl) hne hdigit
  · rwa [List.filter_eq_self.2 hdigit]

end DocBrowser.Shorthand

namespace DocBrowser.Query

open Shorthand (IsLong MeetsOverlong isLong_expandFrom)

/-- Text that has been expanded is resolved or refused with a piece of text. -/
theorem resolve_cases (zone : Zone) (text : String) (expanded : List Char) :
    (∃ doc, resolve zone text expanded = .ok doc) ∨
      ∃ fault fragment, resolve zone text expanded = .error fault ∧ fault.fragment? = some fragment := by
  unfold resolve
  split
  · exact .inr ⟨_, _, rfl, rfl⟩
  · exact .inr ⟨_, _, rfl, rfl⟩
  · split
    · exact .inr ⟨_, _, rfl, rfl⟩
    · exact .inr ⟨_, _, rfl, rfl⟩
    · exact .inl ⟨_, rfl⟩
    · exact .inr ⟨_, _, rfl, rfl⟩
  · exact .inr ⟨_, _, rfl, rfl⟩

/-- Compiling gives a document or a fault with a piece of text, unless an overlong call is met. -/
theorem compile_cases (zone : Zone) (text : String) :
    (¬ MeetsOverlong zone text.toList ∧ ((∃ doc, compile zone text = .ok doc) ∨
      ∃ fault fragment, compile zone text = .error fault ∧ fault.fragment? = some fragment)) ∨
    (MeetsOverlong zone text.toList ∧ ∃ digits, compile zone text = .error (.longInteger digits)) := by
  have hlong : IsLong (Shorthand.expand zone text.toList) ↔ MeetsOverlong zone text.toList :=
    isLong_expandFrom zone text.toList none text.toList
  rw [compile]
  split_ifs with hblank
  · refine .inl ⟨fun hmeets => ?_, .inl ⟨[], rfl⟩⟩
    simp [hmeets.not_blank] at hblank
  · rcases hexpand : Shorthand.expand zone text.toList with (⟨cause, fragment⟩ | digits) | expanded
    · exact .inl ⟨fun hmeets => by simpa [hexpand] using hlong.2 hmeets, .inr ⟨_, _, rfl, rfl⟩⟩
    · exact .inr ⟨hlong.1 ⟨digits, hexpand⟩, digits, rfl⟩
    · exact .inl ⟨fun hmeets => by simpa [hexpand] using hlong.2 hmeets, resolve_cases zone text expanded⟩

/--
Query text, which may be missing, compiles to a document or fails with a report that holds the offending
piece of text, exactly unless it can be read up to a call in which a whole number is too long.
-/
theorem compile_closed_iff (zone : Zone) (text : Option String) :
    ((∃ doc, compile? zone text = .ok doc) ∨ ∃ fault fragment, compile? zone text = .error fault ∧
      fault.failure = .report (.compile fault.message fragment)) ↔
    ∀ given ∈ text, ¬ MeetsOverlong zone given.toList := by
  cases text with
  | none => simp [compile?]
  | some text =>
    -- a report carries the fault's own fragment, so it is closed exactly if there is one
    have hfailure (fault : Fault) (fragment : String) : fault.failure = .report (.compile fault.message fragment) ↔
        fault.fragment? = some fragment := by
      rw [Fault.failure]
      cases hfragment : fault.fragment? with
      | none => simp
      | some own =>
        simp only [Failure.report.injEq, Option.some.injEq]
        constructor
        · intro h
          simpa [Report.compile] using congrArg Report.fragment h
        · rintro rfl
          rfl
    simp only [compile?, hfailure, Option.mem_def, Option.some.injEq, forall_eq']
    rcases compile_cases zone text with ⟨hmeets, h⟩ | ⟨hmeets, digits, h⟩
    · exact iff_of_true h hmeets
    · simp [h, hmeets, Fault.fragment?]

/-- A number of 4301 digits in a call fails without a piece of text. -/
theorem compile_overlong_int :
    ∃ digits message, compile? .utc (some (String.ofList
      ("\x7ba: NumberInt(".toList ++ (List.replicate 4301 '1' ++ ")\x7d".toList)))) = .error (.longInteger digits) ∧
      (Fault.longInteger digits).failure = .conversion message := by
  have hmeets := Shorthand.meetsOverlong_int .utc (List.replicate 4301 '1')
    (fun c hc => by rw [List.eq_of_mem_replicate hc]; decide) (by rw [List.length_replicate]; decide)
  rw [← String.toList_ofList (l := "\x7ba: NumberInt(".toList ++ _)] at hmeets
  rcases compile_cases .utc _ with ⟨h, -⟩ | ⟨-, digits, h⟩
  · exact absurd hmeets h
  · exact ⟨digits, _, h, rfl⟩

end DocBrowser.Query
