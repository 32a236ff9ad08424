import Mathlib
import DocBrowser.Program.Run
import DocBrowser.Proofs.Files
import DocBrowser.Proofs.Json.Characters
import DocBrowser.Proofs.Json.Scalars
import DocBrowser.Proofs.Text.Bytes
import DocBrowser.Proofs.Text.Lines
import DocBrowser.Proofs.Value.Equality
/-!
# Saved settings

Loading gives each setting one form, whatever stood in the file: what counts for nothing becomes an empty text or
false, and the level of the log is written in capitals. That form is what is saved, so a saved file gives the same
settings. All it takes is that the number of saved queries can be read back and that the zone data knows the time zone.
-/

namespace DocBrowser

namespace Settings

open Json (Atomic)

variable {settings : Settings} {zones : ZoneData}

/-! ## The text of the file -/

theorem readable_toJson (hshort : settings.historySize.natAbs < 10 ^ Text.digitLimit) : settings.toJson.Readable := by
  refine ⟨by simp [keysOf], ⟨⟨?_, trivial, trivial, trivial⟩, trivial, hshort, trivial, trivial, trivial⟩⟩
  simp [keysOf]

theorem ne_return_of_mem_lineStart {depth : ℕ} : ∀ c ∈ Json.lineStart depth, c ≠ '\r' := by
  intro c hc
  rcases List.mem_cons.1 hc with rfl | hc
  · decide
  · rw [List.eq_of_mem_replicate hc]
    decide

theorem indented_only : Json.Layout.indented.Only (· ≠ '\r') :=
  ⟨fun _ => ne_return_of_mem_lineStart, fun _ => ne_return_of_mem_lineStart, by simp [Json.Layout.indented]⟩

/-- Control characters are escaped and lines end with a line feed, so no line ending changes when the file is read. -/
theorem return_not_mem_fileOf (settings : Settings) : '\r' ∉ settings.fileOf := by
  have hvisible : ∀ c : Char, 32 ≤ c.toNat → c ≠ '\r' := by
    rintro c hc rfl
    exact absurd hc (by decide)
  have hwritten : ∀ c ∈ Json.writeAt ⟨.indented, true⟩ 0 settings.toJson, c ≠ '\r' :=
    Json.forall_mem_writeAt hvisible indented_only 0 settings.toJson
  intro hmem
  rcases List.mem_append.1 hmem with hmem | hmem
  · exact hwritten _ hmem rfl
  · cases List.mem_singleton.1 hmem

theorem contentsOf_fileOf (hshort : settings.historySize.natAbs < 10 ^ Text.digitLimit) :
    contentsOf (some settings.fileOf) = .ok (.object settings.toJson.fields) := by
  have hread : Json.parseLenient settings.fileOf = .ok settings.toJson :=
    Json.parseWith_writeAt_append Json.Layout.indented_blank 0 (readable_toJson hshort) (by simp [Json.isSpace])
  simp only [contentsOf, Text.universalNewlines_of_not_mem (return_not_mem_fileOf settings), hread]
  rfl

/-! ## The settings in the file -/

theorem textField_str {fields : List (String × Json)} {key text : String} (h : field? fields key = some (.str text)) :
    textField fields key = text := by
  by_cases hempty : text = ""
  · simp [textField, h, Json.counts, hempty]
  · simp [textField, h, Json.counts, hempty, Json.plainText]

theorem readEditor_toJson (settings : Settings) : readEditor settings.toJson.fields = .ok settings.editor := by
  have hcommand (fields : List (String × Json)) :
      textField (("command", .str settings.editor.command) :: fields) "command" = settings.editor.command :=
    textField_str (if_pos rfl)
  have hname (command : Json) :
      textField [("command", command), ("env", .str settings.editor.variableName)] "env" =
        settings.editor.variableName := textField_str (by simp [field?])
  simp only [readEditor, toJson, Json.fields, field?, if_true, Json.counts, Bool.not_true, Bool.false_eq_true, if_false,
    hcommand, hname]

/-- The name of a level is in capitals already. -/
theorem ofName?_map_upperCase (level : Log.Level) :
    Log.Level.ofName? (String.ofList (level.name.toList.map upperCase)) = some level := by
  cases level <;> decide

theorem readLogLevel_toJson (settings : Settings) : readLogLevel settings.toJson.fields = .ok settings.logLevel := by
  have hfield : field? settings.toJson.fields "log_level" = some (.str settings.logLevel.name) := by
    simp [toJson, Json.fields, field?]
  simp only [readLogLevel, hfield, Json.plainText, ofName?_map_upperCase]

theorem readHistorySize_toJson (hpositive : 1 ≤ settings.historySize) :
    readHistorySize settings.toJson.fields = .ok settings.historySize := by
  have hfield : field? settings.toJson.fields "history_size" = some (.int settings.historySize) := by
    simp [toJson, Json.fields, field?]
  simp only [readHistorySize, hfield, Option.getD_some, if_pos hpositive]

theorem readTimezone_toJson (settings : Settings) : readTimezone settings.toJson.fields = settings.timezone := by
  simp [readTimezone, toJson, Json.fields, field?, Json.plainText]

theorem readSortKeys_toJson (settings : Settings) : readSortKeys settings.toJson.fields = settings.sortKeys := by
  cases h : settings.sortKeys <;> simp [readSortKeys, toJson, Json.fields, field?, Json.counts, h]

theorem ofFields_toJson (hpositive : 1 ≤ settings.historySize) {zone : Zone} (hzone : settings.zone zones = .ok zone) :
    ofFields settings.toJson.fields zones = .ok settings := by
  rw [ofFields, readEditor_toJson, readHistorySize_toJson hpositive, readLogLevel_toJson, readTimezone_toJson,
    readSortKeys_toJson]
  refine bind_eq_ok.2 ⟨_, rfl, bind_eq_ok.2 ⟨_, rfl, bind_eq_ok.2 ⟨_, rfl, ?_⟩⟩⟩
  exact bind_eq_ok.2 ⟨zone, hzone, rfl⟩

/-! ## Settings that were loaded -/

/-- What holds of all settings that can be loaded. -/
structure Sound (settings : Settings) (zones : ZoneData) : Prop where
  positive : 1 ≤ settings.historySize
  /-- The number of saved queries has no more digits than can be read. -/
  short : settings.historySize.natAbs < 10 ^ Text.digitLimit
  zone : ∃ zone, settings.zone zones = .ok zone

/-- A file sets nothing that was not read from JSON. -/
theorem atomic_of_contentsOf {file : Option (List Char)} {contents : Contents} (h : contentsOf file = .ok contents) :
    ∀ scalar ∈ (Json.obj contents.given).scalars, Atomic .lenient scalar := by
  cases contents with
  | object fields =>
    unfold contentsOf at h
    split at h
    · cases h
    · dsimp only at h
      split at h <;> cases h
      exact Json.atomic_of_parseWith ‹_›
  | _ => exact List.forall_mem_nil _

theorem readHistorySize_eq_ok {fields : List (String × Json)} {n : ℤ} (h : readHistorySize fields = .ok n) :
    1 ≤ n ∧ (field? fields "history_size").getD (.int 10) = .int n := by
  unfold readHistorySize at h
  split at h
  · split_ifs at h with hpositive
    cases h
    exact ⟨hpositive, ‹_›⟩
  · cases h

theorem sound_of_load {file : Option (List Char)} (h : load file zones = .ok settings) :
    settings.Sound zones := by
  obtain ⟨contents, hcontents, h⟩ := bind_eq_ok.1 h
  obtain ⟨editor, -, h⟩ := bind_eq_ok.1 h
  obtain ⟨size, hsize, h⟩ := bind_eq_ok.1 h
  obtain ⟨level, -, h⟩ := bind_eq_ok.1 h
  obtain ⟨zone, hzone, h⟩ := bind_eq_ok.1 h
  cases h
  obtain ⟨hpositive, hgiven⟩ := readHistorySize_eq_ok hsize
  refine ⟨hpositive, ?_, zone, hzone⟩
  -- the number is the default, or a scalar of the file and so no longer than what can be read
  cases hfield : field? contents.given "history_size" with
  | none =>
    rw [hfield] at hgiven
    cases hgiven
    show (10 : ℤ).natAbs < _
    exact lt_of_lt_of_le (by decide) (Nat.pow_le_pow_right (by decide) (show 2 ≤ Text.digitLimit by decide))
  | some value =>
    rw [hfield] at hgiven
    obtain rfl : value = .int size := hgiven
    have hmem : .int size ∈ (Json.obj contents.given).scalars :=
      Json.mem_scalarsFields.2 ⟨_, mem_of_field?_eq_some hfield, List.mem_singleton_self _⟩
    cases atomic_of_contentsOf hcontents _ hmem with
    | int hshort => exact hshort

/-- Settings are read back from the text that they are saved as exactly if they can be loaded at all. -/
theorem load_fileOf_iff : load (some settings.fileOf) zones = .ok settings ↔ settings.Sound zones := by
  constructor
  · exact sound_of_load
  · intro h
    obtain ⟨zone, hzone⟩ := h.zone
    rw [load, contentsOf_fileOf h.short]
    exact ofFields_toJson h.positive hzone

/-- A file that settings are saved to is never passed over. -/
theorem warnings_fileOf (path : Path) (h : settings.Sound zones) : warnings path (some settings.fileOf) = [] := by
  simp only [warnings, contentsOf_fileOf h.short]

end Settings

namespace Program

variable {folder saved : Folder} {directory path : Path} {settings : Settings} {entries : List Log.Entry}
  {zones : ZoneData}

/-! ## Saving -/

theorem sound_of_settingsIn (h : settingsIn folder path zones = .ok (settings, entries)) : settings.Sound zones := by
  have hload {file : Option (List Char)} {entries' : List Log.Entry}
      (h : (do return (← Settings.load file zones, entries')) = Except.ok (settings, entries)) :
      settings.Sound zones := by
    obtain ⟨loaded, hloaded, h⟩ := bind_eq_ok.1 h
    cases h
    exact Settings.sound_of_load hloaded
  unfold settingsIn at h
  split at h
  · obtain ⟨cs, -, h⟩ := bind_eq_ok.1 h
    exact hload h
  · exact hload h
  · exact hload h
  · exact hload h

theorem settingsIn_fileOf (hsound : settings.Sound zones)
    (h : folder.find path = .file (Text.encodeUtf8 settings.fileOf)) :
    settingsIn folder path zones = .ok (settings, []) := by
  have hdecode : DocumentFile.decode (Text.encodeUtf8 settings.fileOf) = .ok settings.fileOf := by
    simp only [DocumentFile.decode, Text.decodeUtf8?_encodeUtf8,
      Text.universalNewlines_of_not_mem (Settings.return_not_mem_fileOf settings)]
  simp only [settingsIn, h]
  refine bind_eq_ok.2 ⟨_, hdecode, bind_eq_ok.2 ⟨_, Settings.load_fileOf_iff.2 hsound, ?_⟩⟩
  rw [Settings.warnings_fileOf path hsound]
  rfl

theorem saveSettings_eq_some_iff : saveSettings folder directory settings = some saved ↔
    ∃ way, folder.makeDirectories directory = some way ∧
      ((∃ bytes, way.find (Settings.fileIn directory) = .file bytes) ∨
        way.find (Settings.fileIn directory) = .missing) ∧
      saved = way.write (Settings.fileIn directory) (Text.encodeUtf8 settings.fileOf) := by
  simp only [saveSettings, Option.bind_eq_bind, Option.bind_eq_some_iff]
  refine exists_congr fun way => and_congr_right fun _ => ?_
  cases way.find (Settings.fileIn directory) <;> simp [eq_comm]

/-- What has been saved is found at its place. -/
theorem find_of_saveSettings (h : saveSettings folder directory settings = some saved) :
    saved.find (Settings.fileIn directory) = .file (Text.encodeUtf8 settings.fileOf) := by
  obtain ⟨way, hway, hplace, rfl⟩ := saveSettings_eq_some_iff.1 h
  have hleads := (Folder.grows_and_leads_of_makeWay hway (folder.placeAt_start directory)).2
  refine Folder.find_write (by decide) hleads fun hdirectory => ?_
  change way.find (Settings.fileIn directory) = .directory at hdirectory
  rcases hplace with ⟨bytes, hplace⟩ | hplace <;> rw [hdirectory] at hplace <;> cases hplace

/--
Whether there is room for settings in a directory: their file is there, or it is missing in a directory that is there
or can be reached without a step upwards.
-/
inductive Room (folder : Folder) (directory : Path) : Prop where
  | file (bytes : List UInt8) (there : folder.find (Settings.fileIn directory) = .file bytes)
  | missing (free : folder.find (Settings.fileIn directory) = .missing)
      (reached : folder.find directory = .directory ∨ directory.Plain)

/-- Where there is room settings can be saved. -/
theorem Room.exists_saveSettings (h : Room folder directory) (settings : Settings) :
    ∃ saved, saveSettings folder directory settings = some saved := by
  suffices hway : ∃ way, folder.makeDirectories directory = some way ∧
      ((∃ bytes, way.find (Settings.fileIn directory) = .file bytes) ∨
        way.find (Settings.fileIn directory) = .missing) by
    obtain ⟨way, hmake, hplace⟩ := hway
    exact ⟨_, saveSettings_eq_some_iff.2 ⟨way, hmake, hplace, rfl⟩⟩
  cases h with
  | file bytes there =>
    have hleads : folder.Leads directory.start directory.names := Folder.leads_of_walk_eq_file there
    exact ⟨folder, Folder.makeWay_of_leads hleads, .inl ⟨bytes, there⟩⟩
  | missing free reached =>
    rcases reached with hdirectory | hplain
    · exact ⟨folder, Folder.makeWay_of_leads (Folder.leads_of_walk_eq_directory hdirectory), .inr free⟩
    · obtain ⟨way, hmake, hfree⟩ := Folder.exists_makeWay_of_missing directory.plain_start
        (folder.placeAt_start directory) hplain (by decide) free
      have hleads := (Folder.grows_and_leads_of_makeWay hmake (folder.placeAt_start directory)).2
      have hfind : way.find (Settings.fileIn directory) = way.placeAt
        ((directory.names ++ ["config.json".toList]).foldl Path.enter directory.start) := hleads.walk_concat _
      refine ⟨way, hmake, ?_⟩
      cases hplace : way.placeAt ((directory.names ++ ["config.json".toList]).foldl Path.enter directory.start) with
      | file bytes => exact .inl ⟨bytes, hfind.trans hplace⟩
      | missing => exact .inr (hfind.trans hplace)
      | directory => exact absurd hplace hfree
      | throughFile => exact absurd hplace (way.placeAt_ne_throughFile _)

/--
Whatever the zone data and whatever the path of the settings leads to, a file with any bytes, a directory or nothing,
the settings that are loaded there are loaded again once they are saved, and the log has nothing to say about the
file. Where the file is there or there is room for it, they can be saved.
-/
theorem settingsIn_saved (h : settingsIn folder (Settings.fileIn directory) zones = .ok (settings, entries)) :
    (∀ saved, saveSettings folder directory settings = some saved →
      settingsIn saved (Settings.fileIn directory) zones = .ok (settings, [])) ∧
    (Room folder directory → ∃ saved, saveSettings folder directory settings = some saved) :=
  ⟨fun _ hsaved => settingsIn_fileOf (sound_of_settingsIn h) (find_of_saveSettings hsaved),
    fun hroom => hroom.exists_saveSettings settings⟩

/-- A region that brings its own data, an editor that counts for nothing, a level with a dotless letter and a list in
place of a truth value. -/
theorem settingsIn_saved_dotless :
    let zones : ZoneData := fun name =>
      if name = "Etc/GMT-1" then some { key := name, first := 3600, changes := [], seasons := none } else ZoneData.own name
    let folder : Folder := { files := [("conf/config.json", Text.encodeUtf8
      "\x7b\"timezone\":\"Etc/GMT-1\",\"log_level\":\"warn\u0131ng\",\"editor\":0,\"sort_keys\":[0]\x7d".toList)] }
    let directory : Path := ⟨[], ["conf".toList]⟩
    let settings : Settings := ⟨⟨"", ""⟩, "Etc/GMT-1", 10, .warning, true⟩
    settingsIn folder (Settings.fileIn directory) zones = .ok (settings, []) ∧
    ∃ saved, saveSettings folder directory settings = some saved ∧
      settingsIn saved (Settings.fileIn directory) zones = .ok (settings, []) := by
  intro zones folder directory settings
  have hloaded : settingsIn folder (Settings.fileIn directory) zones = .ok (settings, []) := by cbv
  obtain ⟨bytes, hfile⟩ : ∃ bytes, folder.find (Settings.fileIn directory) = .file bytes := ⟨_, by cbv⟩
  obtain ⟨hread, hroom⟩ := settingsIn_saved hloaded
  obtain ⟨saved, hsaved⟩ := hroom (.file bytes hfile)
  exact ⟨hloaded, saved, hsaved, hread saved hsaved⟩

end Program

end DocBrowser
