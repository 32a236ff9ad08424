import Mathlib
import DocBrowser.External.Editor
import DocBrowser.Proofs.Failure
import DocBrowser.Proofs.Fields
import DocBrowser.Proofs.Text.CodePoint
/-!
# What an editor leaves behind

Once the text is in the temporary file, the file is removed however the attempt ends. Text is read back from it
exactly if the editor ended with code zero and left text there, and what goes wrong with finding, starting or ending
the editor is reported as its failure. Some of what can go wrong is not: arguments that cannot be passed, and a file
that is gone or no text behind an editor that ended well. A text that cannot be encoded fails before all of that,
and its empty file stays behind.
-/

namespace DocBrowser

namespace ExternalEditor

/-- What is reported of an editor. -/
inductive Reported : Failure → Prop where
  | failed (message about : String) (exitCode : Option ℤ) : Reported (failed message about exitCode)

/-- Runs behind which an attempt fails without a report. -/
inductive Run.Unreported : Run → Prop where
  | notPassed (message : String) : Run.Unreported (.notPassed message)
  | gone : Run.Unreported (.ended 0 none)
  | garbled (bytes : List UInt8) (odd : Text.decodeUtf8? bytes = none) : Run.Unreported (.garbled 0 bytes odd)

/-- Whether the editor that a command names is found, while the text cannot be put into its file. -/
def Unwritten (surroundings : Surroundings) (command : String) (text : RawText) : Prop :=
  (∃ argv, arguments surroundings command = .ok argv) ∧ text.chars? = none

/-- Whether the editor that a command names is found and has a run on a file with the text. -/
def Runs (surroundings : Surroundings) (command : String) (text : RawText) (run : Run) : Prop :=
  ∃ program rest contents, arguments surroundings command = .ok (program, rest) ∧ text = RawText.ofChars contents ∧
    surroundings.start (program :: rest) contents = run

variable {surroundings : Surroundings} {command : String} {text : RawText}

/-! ## The ways of an attempt -/

/-- An attempt ends before it has a file, or with an empty file, or with a run. -/
theorem attempt_cases (surroundings : Surroundings) (command : String) (text : RawText) :
    (∃ failure, arguments surroundings command = .error failure) ∨ Unwritten surroundings command text ∨
      ∃ run, Runs surroundings command text run := by
  cases harguments : arguments surroundings command with
  | error failure => exact .inl ⟨failure, rfl⟩
  | ok argv =>
    obtain ⟨program, rest⟩ := argv
    refine .inr ?_
    rcases RawText.eq_ofChars_or_surrogate text with ⟨contents, rfl⟩ | ⟨hnone, -⟩
    · exact .inr ⟨_, program, rest, contents, harguments, rfl, rfl⟩
    · exact .inl ⟨⟨_, harguments⟩, hnone⟩

theorem attempt_of_error {failure : Failure} (h : arguments surroundings command = .error failure) :
    attempt surroundings command text = { result := .error failure, files := surroundings.files } := by
  unfold attempt
  rw [h]

theorem attempt_of_unwritten (h : Unwritten surroundings command text) :
    (attempt surroundings command text).result = .error (.conversion text.refusal) ∧
      (attempt surroundings command text).files = setField surroundings.files surroundings.fileName [] := by
  obtain ⟨⟨⟨program, rest⟩, harguments⟩, hnone⟩ := h
  simp [attempt, harguments, RawText.encoded, hnone]

theorem Runs.attempt_eq {run : Run} (h : Runs surroundings command text run) : ∃ program contents,
    (attempt surroundings command text).result = readBack program run ∧
      (attempt surroundings command text).files = eraseField (run.files surroundings.fileName
        (setField surroundings.files surroundings.fileName (Text.encodeUtf8 contents))) surroundings.fileName := by
  obtain ⟨program, rest, contents, harguments, rfl, rfl⟩ := h
  refine ⟨program, contents, ?_, ?_⟩ <;> simp [attempt, harguments, RawText.encoded_ofChars]

theorem Runs.unique {run run' : Run} (h : Runs surroundings command text run)
    (h' : Runs surroundings command text run') : run = run' := by
  obtain ⟨program, rest, contents, harguments, rfl, rfl⟩ := h
  obtain ⟨program', rest', contents', harguments', htext, rfl⟩ := h'
  rw [harguments] at harguments'
  cases harguments'
  rw [RawText.ofChars_injective htext]

theorem Runs.not_unwritten {run : Run} (h : Runs surroundings command text run) :
    ¬ Unwritten surroundings command text := by
  obtain ⟨program, rest, contents, -, rfl, -⟩ := h
  simp [Unwritten]

/-! ## The temporary file -/

/-- A run changes no file but the one it is given. -/
theorem eraseField_files (name : String) (files : Files) (run : Run) :
    eraseField (run.files name files) name = eraseField files name := by
  cases run with
  | notPassed message => rfl
  | notStarted reason => rfl
  | garbled code bytes odd => exact eraseField_setField files name bytes
  | ended code file =>
    cases file with
    | none => exact eraseField_eraseField files name
    | some text => exact eraseField_setField files name _

theorem files_of_error {failure : Failure} (h : arguments surroundings command = .error failure) :
    (attempt surroundings command text).files = surroundings.files := by
  rw [attempt_of_error h]

/-- A file whose name is new is removed again behind a run. -/
theorem Runs.files_attempt (hfresh : surroundings.fileName ∉ keysOf surroundings.files) {run : Run}
    (h : Runs surroundings command text run) : (attempt surroundings command text).files = surroundings.files := by
  obtain ⟨program, contents, -, hfiles⟩ := h.attempt_eq
  rw [hfiles, eraseField_files, eraseField_setField, eraseField_of_not_mem hfresh]

theorem files_of_unwritten (hfresh : surroundings.fileName ∉ keysOf surroundings.files)
    (h : Unwritten surroundings command text) :
    (attempt surroundings command text).files = surroundings.files ++ [(surroundings.fileName, [])] := by
  rw [(attempt_of_unwritten h).2, setField_of_not_mem [] hfresh]

/-- The files are as they were exactly if no text had to be given up in front of its file. -/
theorem files_attempt_iff (hfresh : surroundings.fileName ∉ keysOf surroundings.files) :
    (attempt surroundings command text).files = surroundings.files ↔ ¬ Unwritten surroundings command text := by
  rcases attempt_cases surroundings command text with ⟨failure, h⟩ | h | ⟨run, h⟩
  · have hnot : ¬ Unwritten surroundings command text := by simp [Unwritten, h]
    exact iff_of_true (files_of_error h) hnot
  · exact iff_of_false (by simp [files_of_unwritten hfresh h]) (not_not_intro h)
  · exact iff_of_true (h.files_attempt hfresh) h.not_unwritten

/-! ## The result -/

theorem reported_of_arguments {failure : Failure} (h : arguments surroundings command = .error failure) :
    Reported failure := by
  unfold arguments at h
  split at h
  · cases h
    exact .failed _ command none
  · cases h
    exact .failed _ "" none
  · split at h <;> cases h
    exact .failed _ _ none

theorem readFile_eq_ok_iff {program : String} {code : ℤ} {file : Except Failure (List Char)} {contents : List Char} :
    readFile program code file = .ok contents ↔
      code = 0 ∧ ∃ text, file = .ok text ∧ contents = Text.universalNewlines text := by
  by_cases hcode : code = 0
  · cases file <;> simp [readFile, hcode, Except.map, eq_comm]
  · simp [readFile, hcode]

theorem readBack_eq_ok_iff {program : String} {run : Run} {contents : List Char} :
    readBack program run = .ok contents ↔
      ∃ file, run = .ended 0 (some file) ∧ contents = Text.universalNewlines file := by
  cases run with
  | ended code file => cases file <;> simp [readBack, readFile_eq_ok_iff, and_assoc]
  | _ => simp [readBack, readFile_eq_ok_iff]

/-- What keeps a file from being read is reported where the exit code says so in the first place. -/
theorem reported_or_of_readFile {program : String} {code : ℤ} {file : Except Failure (List Char)} {failure : Failure}
    (h : readFile program code file = .error failure) : Reported failure ∨ code = 0 ∧ file = .error failure := by
  by_cases hcode : code = 0
  · rw [readFile, if_neg (not_not_intro hcode)] at h
    cases file with
    | ok text => cases h
    | error fault =>
      cases h
      exact .inr ⟨hcode, rfl⟩
  · simp only [readFile, ne_eq, hcode, not_false_eq_true, if_true, Except.error.injEq] at h
    exact .inl (h ▸ .failed _ program (some code))

/-- What is wrong with a run is reported, or the run is one of those that are not. -/
theorem reported_or_unreported {program : String} {run : Run} {failure : Failure}
    (h : readBack program run = .error failure) : Reported failure ∨ run.Unreported := by
  cases run with
  | notPassed message => exact .inr (.notPassed message)
  | notStarted reason =>
    cases h
    exact .inl (.failed _ program none)
  | garbled code bytes odd =>
    refine (reported_or_of_readFile h).imp_right fun ⟨hcode, _⟩ => ?_
    subst hcode
    exact .garbled bytes odd
  | ended code file =>
    cases file with
    | some text =>
      obtain hreported | ⟨-, hfile⟩ := reported_or_of_readFile h
      · exact .inl hreported
      · cases hfile
    | none =>
      refine (reported_or_of_readFile h).imp_right fun ⟨hcode, _⟩ => ?_
      subst hcode
      exact .gone

/-- Behind such a run an attempt fails with what is no report. -/
theorem Run.Unreported.readBack_eq {run : Run} (h : run.Unreported) (program : String) :
    ∃ failure, readBack program run = .error failure ∧ ¬ Reported failure := by
  cases h with
  | notPassed message => exact ⟨_, rfl, nofun⟩
  | gone => exact ⟨_, rfl, nofun⟩
  | garbled bytes odd => exact ⟨_, rfl, nofun⟩

/-- Text is read back if the editor ends well and leaves its file, line endings made alike. -/
theorem result_eq_ok_iff {contents : List Char} : (attempt surroundings command text).result = .ok contents ↔
    ∃ file, Runs surroundings command text (.ended 0 (some file)) ∧ contents = Text.universalNewlines file := by
  rcases attempt_cases surroundings command text with ⟨failure, h⟩ | h | ⟨run, h⟩
  · simp [attempt_of_error h, Runs, h]
  · rw [(attempt_of_unwritten h).1]
    exact iff_of_false nofun fun ⟨_, hruns, _⟩ => hruns.not_unwritten h
  · obtain ⟨program, _, hresult, -⟩ := h.attempt_eq
    rw [hresult, readBack_eq_ok_iff]
    exact exists_congr fun file => and_congr_left fun _ => ⟨fun hrun => hrun ▸ h, h.unique⟩

/-- All failures are reports exactly if the text could be written and the run is none of those that are not reported. -/
theorem reported_iff : (∀ failure, (attempt surroundings command text).result = .error failure → Reported failure) ↔
    ¬ Unwritten surroundings command text ∧ ∀ run, Runs surroundings command text run → ¬ run.Unreported := by
  rcases attempt_cases surroundings command text with ⟨failure, h⟩ | h | ⟨run, h⟩
  · rw [attempt_of_error h]
    refine iff_of_true (fun _ hfailure => ?_) ⟨by simp [Unwritten, h], by simp [Runs, h]⟩
    cases hfailure
    exact reported_of_arguments h
  · refine iff_of_false (fun hreported => ?_) fun hnot => hnot.1 h
    cases hreported _ (attempt_of_unwritten h).1
  · obtain ⟨program, _, hresult, -⟩ := h.attempt_eq
    rw [hresult]
    constructor
    · refine fun hreported => ⟨h.not_unwritten, fun run' hruns hunreported => ?_⟩
      obtain ⟨failure, hfailure, hnot⟩ := hunreported.readBack_eq program
      rw [hruns.unique h] at hfailure
      exact hnot (hreported failure hfailure)
    · exact fun hnot failure hfailure => (reported_or_unreported hfailure).resolve_right (hnot.2 run h)

/--
An attempt leaves the temporary files as they were, unless the editor is found and the text cannot be encoded, when
an empty file is left. It gives the contents of its file exactly if the editor ended with code zero and left a file of
text. All its failures are reports exactly if the text can be encoded, or the editor is not found, and neither were
there arguments that could not be passed nor did the editor end with code zero behind a file that was deleted or
given bytes that are no text.
-/
theorem attempt_reports_iff (hfresh : surroundings.fileName ∉ keysOf surroundings.files) :
    ((attempt surroundings command text).files = surroundings.files ↔ ¬ Unwritten surroundings command text) ∧
      (Unwritten surroundings command text →
        (attempt surroundings command text).files = surroundings.files ++ [(surroundings.fileName, [])]) ∧
      (∀ contents, (attempt surroundings command text).result = .ok contents ↔
        ∃ file, Runs surroundings command text (.ended 0 (some file)) ∧ contents = Text.universalNewlines file) ∧
      ((∀ failure, (attempt surroundings command text).result = .error failure → Reported failure) ↔
        ¬ Unwritten surroundings command text ∧ ∀ run, Runs surroundings command text run → ¬ run.Unreported) :=
  ⟨files_attempt_iff hfresh, files_of_unwritten hfresh, fun _ => result_eq_ok_iff, reported_iff⟩

/-- An editor that writes a line ending of its own, next to a file that was there before. -/
theorem attempt_reports_rewritten :
    let surroundings : Surroundings :=
      { locate := fun name => if name = "vi" then some "/bin/vi" else none
        start := fun _ _ => .ended 0 (some "a\r\nb".toList)
        files := [("other.json", [])] }
    (attempt surroundings "vi -n" "\x7b\x7d".toList).files = [("other.json", [])] ∧
      (attempt surroundings "vi -n" "\x7b\x7d".toList).result = .ok "a\nb".toList := by
  intro surroundings
  have hruns : Runs surroundings "vi -n" "\x7b\x7d".toList (.ended 0 (some "a\r\nb".toList)) :=
    ⟨"/bin/vi", ["-n"], "\x7b\x7d".toList, by cbv, rfl, rfl⟩
  obtain ⟨hfiles, -, hresult, -⟩ :=
    @attempt_reports_iff surroundings "vi -n" (RawText.ofChars "\x7b\x7d".toList) (by decide)
  exact ⟨hfiles.2 hruns.not_unwritten, (hresult _).2 ⟨_, hruns, by cbv⟩⟩

/-- An editor that ends well and has deleted the file makes the attempt fail without a report. -/
theorem not_attempt_reports_deleted :
    let surroundings : Surroundings :=
      { locate := fun name => if name = "vi" then some "/bin/vi" else none
        start := fun _ _ => .ended 0 none }
    (attempt surroundings "vi" "\x7b\x7d".toList).result = .error .missingFile ∧ ¬ Reported .missingFile :=
  ⟨by cbv, nofun⟩

end ExternalEditor

end DocBrowser
