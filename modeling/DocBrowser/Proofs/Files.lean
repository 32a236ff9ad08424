import Mathlib
import DocBrowser.Files.Folder
import DocBrowser.Proofs.Fields
import DocBrowser.Proofs.Text.Lines
/-!
# Directories that are made and files that are written

Making directories changes no file, and whatever was a directory stays one. So once the way to a file has been made
the file can be written at its end, and it is found there again. The way can be made unless it leads through a file.
-/

namespace DocBrowser

namespace Path

/-- Whether a path leads nowhere but down, by names that are not empty. -/
def Plain (path : Path) : Prop := ∀ name ∈ path.names, name ≠ [] ∧ name ≠ upwards

theorem plain_start (path : Path) : path.start.Plain := List.forall_mem_nil _

theorem enter_eq {path : Path} {name : List Char} (h : name ≠ upwards) :
    path.enter name = { path with names := path.names ++ [name] } := if_neg h

theorem Plain.enter {path : Path} {name : List Char} (h : path.Plain) (hname : name ≠ [] ∧ name ≠ upwards) :
    (path.enter name).Plain := by
  rw [enter_eq hname.2]
  intro other hother
  rcases List.mem_append.1 hother with hother | hother
  · exact h other hother
  · exact List.mem_singleton.1 hother ▸ hname

theorem names_enter_ne_nil {path : Path} {name : List Char} (h : name ≠ upwards) : (path.enter name).names ≠ [] := by
  rw [enter_eq h]
  exact List.append_ne_nil_of_right_ne_nil _ (List.cons_ne_nil _ _)

theorem goesUpOnly_enter {path : Path} {name : List Char} (h : name ≠ upwards) :
    (path.enter name).goesUpOnly = false := by
  simp [enter_eq h, goesUpOnly, h]

theorem toList_text {path : Path} (h : path.Plain) (hnames : path.names ≠ []) :
    path.text.toList = path.root ++ Text.joinWith ['/'] path.names := by
  obtain ⟨first, rest, hcons⟩ := List.exists_cons_of_ne_nil hnames
  have hfirst : first ≠ [] := (h first (hcons ▸ List.mem_cons_self)).1
  have hjoined : path.root ++ Text.joinWith ['/'] path.names ≠ [] := by
    rw [hcons, Text.joinWith_cons]
    exact List.append_ne_nil_of_right_ne_nil _ (List.append_ne_nil_of_left_ne_nil hfirst _)
  rw [text]
  split
  · exact absurd ‹_› hjoined
  · rw [String.toList_ofList]

/-- The text of a path goes on with a slash where it enters a name. -/
theorem toList_text_enter {path : Path} (h : path.Plain) (hnames : path.names ≠ []) {name : List Char}
    (hname : name ≠ [] ∧ name ≠ upwards) : (path.enter name).text.toList = path.text.toList ++ '/' :: name := by
  rw [toList_text (h.enter hname) (names_enter_ne_nil hname.2), toList_text h hnames, enter_eq hname.2]
  obtain ⟨first, rest, hcons⟩ := List.exists_cons_of_ne_nil hnames
  simp [hcons, Text.joinWith_cons]

end Path

namespace Folder

variable {folder later way : Folder} {path target : Path} {name : List Char} {names : List (List Char)}
  {bytes : List UInt8}

/-! ## Names of directories and what is in them -/

theorem holds_iff {directory key : String} :
    holds directory key = true ↔ ∃ rest, key.toList = directory.toList ++ '/' :: rest := by
  rw [holds, List.isPrefixOf_iff_prefix, String.toList_append]
  exact exists_congr fun rest => by simp [eq_comm]

theorem holds_trans {a b c : String} (hab : holds a b = true) (hbc : holds b c = true) : holds a c = true := by
  obtain ⟨rest, hb⟩ := holds_iff.1 hab
  obtain ⟨rest', hc⟩ := holds_iff.1 hbc
  exact holds_iff.2 ⟨rest ++ '/' :: rest', by simp [hc, hb]⟩

theorem length_lt_of_holds {a b : String} (h : holds a b = true) : a.toList.length < b.toList.length := by
  obtain ⟨rest, hb⟩ := holds_iff.1 h
  simp [hb]

theorem holds_enter (h : path.Plain) (hnames : path.names ≠ []) (hname : name ≠ [] ∧ name ≠ Path.upwards) :
    holds path.text (path.enter name).text = true :=
  holds_iff.2 ⟨name, Path.toList_text_enter h hnames hname⟩

/-! ## Places -/

theorem placeAt_start (folder : Folder) (path : Path) : folder.placeAt path.start = .directory := rfl

/-- Whether a directory of a name is there: one was made, or there is something in it. -/
def Contains (folder : Folder) (key : String) : Prop :=
  (∃ other ∈ keysOf folder.files, holds key other = true) ∨
    ∃ directory ∈ folder.directories, directory = key ∨ holds key directory = true

theorem placeAt_cases (folder : Folder) (hdown : path.goesUpOnly = false) :
    (∃ bytes, field? folder.files path.text = some bytes ∧ folder.placeAt path = .file bytes) ∨
    (field? folder.files path.text = none ∧ folder.Contains path.text ∧ folder.placeAt path = .directory) ∨
    (field? folder.files path.text = none ∧ ¬ folder.Contains path.text ∧ folder.placeAt path = .missing) := by
  have hcontains : (folder.files.any (holds path.text ·.1) || folder.directories.any
      fun directory => directory = path.text || holds path.text directory) = true ↔ folder.Contains path.text := by
    simp [Contains, keysOf]
  unfold placeAt
  rw [if_neg (Bool.eq_false_iff.1 hdown)]
  cases hfield : field? folder.files path.text with
  | some bytes => exact .inl ⟨bytes, rfl, by simp only [hfield]⟩
  | none =>
    simp only [hfield]
    by_cases h : folder.Contains path.text
    · exact .inr (.inl ⟨trivial, h, if_pos (hcontains.2 h)⟩)
    · exact .inr (.inr ⟨trivial, h, if_neg fun hany => h (hcontains.1 hany)⟩)

theorem placeAt_eq_file (hdown : path.goesUpOnly = false) (h : field? folder.files path.text = some bytes) :
    folder.placeAt path = .file bytes := by
  rcases folder.placeAt_cases hdown with ⟨found, hfield, hplace⟩ | ⟨hfield, -⟩ | ⟨hfield, -⟩
  · rw [hplace, Option.some.inj (hfield.symm.trans h)]
  · simp [hfield] at h
  · simp [hfield] at h

theorem placeAt_eq_directory_iff (hdown : path.goesUpOnly = false) :
    folder.placeAt path = .directory ↔ field? folder.files path.text = none ∧ folder.Contains path.text := by
  rcases folder.placeAt_cases hdown with ⟨found, hfield, hplace⟩ | ⟨hfield, h, hplace⟩ | ⟨hfield, h, hplace⟩
  · simp [hfield, hplace]
  · simp [hfield, hplace, h]
  · simp [hfield, hplace, h]

theorem placeAt_eq_missing_iff (hdown : path.goesUpOnly = false) :
    folder.placeAt path = .missing ↔ field? folder.files path.text = none ∧ ¬ folder.Contains path.text := by
  rcases folder.placeAt_cases hdown with ⟨found, hfield, hplace⟩ | ⟨hfield, h, hplace⟩ | ⟨hfield, h, hplace⟩
  · simp [hfield, hplace]
  · simp [hfield, hplace, h]
  · simp [hfield, hplace, h]

/-- Names that were resolved lead to a file, to a directory or nowhere. -/
theorem placeAt_ne_throughFile (folder : Folder) (path : Path) : folder.placeAt path ≠ .throughFile := by
  cases hdown : path.goesUpOnly with
  | true => simp [placeAt, hdown]
  | false =>
    rcases folder.placeAt_cases hdown with ⟨_, -, hplace⟩ | ⟨-, -, hplace⟩ | ⟨-, -, hplace⟩ <;> simp [hplace]

/-! ## Ways -/

/-- Whether names lead through directories only, the one at their end included. -/
def Leads (folder : Folder) (path : Path) : List (List Char) → Prop
  | [] => folder.placeAt path = .directory
  | name :: rest => folder.placeAt path = .directory ∧ folder.Leads (path.enter name) rest

theorem Leads.placeAt_eq (h : folder.Leads path names) : folder.placeAt path = .directory := by
  cases names with
  | nil => exact h
  | cons name rest => exact h.1

/-- Behind directories stands what stands at the resolved path. -/
theorem Leads.walk_concat (h : folder.Leads path names) (name : List Char) :
    folder.walk path (names ++ [name]) = folder.placeAt ((names ++ [name]).foldl Path.enter path) := by
  induction names generalizing path with
  | nil => simp [walk, show folder.placeAt path = .directory from h]
  | cons first rest ih =>
    rw [List.cons_append, walk, h.1, List.foldl_cons]
    exact ih h.2

theorem walk_cons_cases (folder : Folder) (path : Path) (name : List Char) (names : List (List Char)) :
    (folder.placeAt path = .directory ∧ folder.walk path (name :: names) = folder.walk (path.enter name) names) ∨
    (∃ bytes, folder.placeAt path = .file bytes ∧ folder.walk path (name :: names) = .throughFile) ∨
    (folder.placeAt path = .missing ∧ folder.walk path (name :: names) = .missing) := by
  rw [walk]
  cases hplace : folder.placeAt path with
  | directory => exact .inl ⟨rfl, rfl⟩
  | file bytes => exact .inr (.inl ⟨bytes, rfl, rfl⟩)
  | missing => exact .inr (.inr ⟨rfl, rfl⟩)
  | throughFile => exact absurd hplace (folder.placeAt_ne_throughFile path)

/-- Names that lead on to a file or a directory lead through a directory first. -/
theorem walk_of_walk_cons {place : Place} (h : folder.walk path (name :: names) = place) (hmissing : place ≠ .missing)
    (hthrough : place ≠ .throughFile) :
    folder.placeAt path = .directory ∧ folder.walk (path.enter name) names = place := by
  rcases folder.walk_cons_cases path name names with ⟨hplace, hwalk⟩ | ⟨_, -, hwalk⟩ | ⟨-, hwalk⟩
  · exact ⟨hplace, hwalk.symm.trans h⟩
  · exact absurd (h.symm.trans hwalk) hthrough
  · exact absurd (h.symm.trans hwalk) hmissing

/-- Directories stand in front of a file. -/
theorem leads_of_walk_eq_file (h : folder.walk path (names ++ [name]) = .file bytes) : folder.Leads path names := by
  induction names generalizing path with
  | nil => exact (walk_of_walk_cons h nofun nofun).1
  | cons first rest ih =>
    obtain ⟨hplace, hwalk⟩ := walk_of_walk_cons h nofun nofun
    exact ⟨hplace, ih hwalk⟩

theorem leads_of_walk_eq_directory (h : folder.walk path names = .directory) : folder.Leads path names := by
  induction names generalizing path with
  | nil => exact h
  | cons first rest ih =>
    obtain ⟨hplace, hwalk⟩ := walk_of_walk_cons h nofun nofun
    exact ⟨hplace, ih hwalk⟩

/-! ## Making directories -/

/-- Whether a folder has come to hold nothing but further directories. -/
structure Grows (folder later : Folder) : Prop where
  files : later.files = folder.files
  directories : folder.directories ⊆ later.directories

theorem Grows.refl (folder : Folder) : Grows folder folder := ⟨rfl, List.Subset.refl _⟩

theorem Grows.trans (h : Grows folder way) (h' : Grows way later) : Grows folder later :=
  ⟨h'.files.trans h.files, List.Subset.trans h.directories h'.directories⟩

theorem Grows.contains {key : String} (h : Grows folder later) (hkey : folder.Contains key) : later.Contains key := by
  obtain hother | ⟨directory, hmem, hdirectory⟩ := hkey
  · exact .inl (h.files ▸ hother)
  · exact .inr ⟨directory, h.directories hmem, hdirectory⟩

/-- What was a directory stays one. -/
theorem Grows.placeAt_eq_directory (h : Grows folder later) (hplace : folder.placeAt path = .directory) :
    later.placeAt path = .directory := by
  cases hdown : path.goesUpOnly with
  | true => simp [placeAt, hdown]
  | false =>
    obtain ⟨hfield, hkey⟩ := (placeAt_eq_directory_iff hdown).1 hplace
    exact (placeAt_eq_directory_iff hdown).2 ⟨h.files ▸ hfield, h.contains hkey⟩

/-- A folder with one more directory. -/
def withDirectory (folder : Folder) (key : String) : Folder :=
  { folder with directories := folder.directories ++ [key] }

theorem grows_withDirectory (folder : Folder) (key : String) : Grows folder (folder.withDirectory key) :=
  ⟨rfl, List.subset_append_left _ _⟩

theorem placeAt_withDirectory (h : folder.placeAt path = .missing) :
    (folder.withDirectory path.text).placeAt path = .directory := by
  cases hdown : path.goesUpOnly with
  | true => simp [placeAt, hdown] at h
  | false =>
    obtain ⟨hfield, -⟩ := (placeAt_eq_missing_iff hdown).1 h
    exact (placeAt_eq_directory_iff hdown).2
      ⟨hfield, .inr ⟨_, List.mem_append_right _ List.mem_cons_self, .inl rfl⟩⟩

/-- The next name is a directory already, or it is missing and made, or it is a file. -/
theorem makeWay_cons_cases (folder : Folder) (path : Path) (name : List Char) (names : List (List Char)) :
    (folder.placeAt (path.enter name) = .directory ∧
      folder.makeWay path (name :: names) = folder.makeWay (path.enter name) names) ∨
    (folder.placeAt (path.enter name) = .missing ∧ folder.makeWay path (name :: names) =
      (folder.withDirectory (path.enter name).text).makeWay (path.enter name) names) ∨
    ∃ bytes, folder.placeAt (path.enter name) = .file bytes ∧ folder.makeWay path (name :: names) = none := by
  rw [makeWay]
  cases hplace : folder.placeAt (path.enter name) with
  | directory => exact .inl ⟨rfl, rfl⟩
  | missing => exact .inr (.inl ⟨rfl, rfl⟩)
  | file bytes => exact .inr (.inr ⟨bytes, rfl, rfl⟩)
  | throughFile => exact absurd hplace (folder.placeAt_ne_throughFile _)

/-- A way that was made leads through directories. -/
theorem grows_and_leads_of_makeWay (h : folder.makeWay path names = some way)
    (hplace : folder.placeAt path = .directory) : Grows folder way ∧ way.Leads path names := by
  induction names generalizing folder path with
  | nil =>
    cases h
    exact ⟨.refl _, hplace⟩
  | cons name rest ih =>
    rcases folder.makeWay_cons_cases path name rest with ⟨hnext, hmake⟩ | ⟨hnext, hmake⟩ | ⟨_, -, hmake⟩
    · obtain ⟨hgrows, hleads⟩ := ih (hmake ▸ h) hnext
      exact ⟨hgrows, hgrows.placeAt_eq_directory hplace, hleads⟩
    · obtain ⟨hgrows, hleads⟩ := ih (hmake ▸ h) (placeAt_withDirectory hnext)
      have hgrows := (folder.grows_withDirectory _).trans hgrows
      exact ⟨hgrows, hgrows.placeAt_eq_directory hplace, hleads⟩
    · rw [hmake] at h
      cases h

/-- No directory is made on a way that is there. -/
theorem makeWay_of_leads (h : folder.Leads path names) : folder.makeWay path names = some folder := by
  induction names generalizing path with
  | nil => rfl
  | cons name rest ih =>
    rw [makeWay, h.2.placeAt_eq]
    exact ih h.2

/-! ## Writing a file -/

/-- A directory stays one where a file is written that is not in its place. -/
theorem placeAt_eq_directory_of_setField (hplace : folder.placeAt path = .directory)
    (htarget : folder.placeAt target ≠ .directory) (hdown : target.goesUpOnly = false) :
    { folder with files := setField folder.files target.text bytes }.placeAt path = .directory := by
  cases hup : path.goesUpOnly with
  | true => simp [placeAt, hup]
  | false =>
    obtain ⟨hfield, hkey⟩ := (placeAt_eq_directory_iff hup).1 hplace
    have hne : path.text ≠ target.text := fun heq =>
      htarget ((placeAt_eq_directory_iff hdown).2 ⟨heq ▸ hfield, heq ▸ hkey⟩)
    refine (placeAt_eq_directory_iff hup).2 ⟨(field?_setField_of_ne _ _ hne).trans hfield, hkey.imp_left ?_⟩
    exact fun ⟨other, hmem, hholds⟩ => ⟨other, mem_keysOf_setField_of_mem _ _ hmem, hholds⟩

theorem Leads.write (h : folder.Leads path names) (htarget : folder.placeAt target ≠ .directory)
    (hdown : target.goesUpOnly = false) :
    { folder with files := setField folder.files target.text bytes }.Leads path names := by
  induction names generalizing path with
  | nil => exact placeAt_eq_directory_of_setField h htarget hdown
  | cons name rest ih => exact ⟨placeAt_eq_directory_of_setField h.1 htarget hdown, ih h.2⟩

/-- A file that is written at the end of a way is found there. -/
theorem find_write {directory : Path} {name : String} (hname : name.toList ≠ Path.upwards)
    (h : folder.Leads directory.start directory.names) (hfree : folder.find (directory.child name) ≠ .directory) :
    (folder.write (directory.child name) bytes).find (directory.child name) = .file bytes := by
  have hdown : (directory.child name).resolved.goesUpOnly = false := by
    rw [Path.resolved, Path.child, List.foldl_concat]
    exact Path.goesUpOnly_enter hname
  have hfind : folder.find (directory.child name) = folder.placeAt (directory.child name).resolved :=
    h.walk_concat name.toList
  refine ((h.write (hfind ▸ hfree) hdown).walk_concat name.toList).trans ?_
  exact placeAt_eq_file hdown (field?_setField _ _ _)

/-! ## New directories -/

/-- Whether there is nothing in a directory. -/
def Bare (folder : Folder) (key : String) : Prop :=
  (∀ other ∈ keysOf folder.files, ¬ holds key other = true) ∧
    ∀ directory ∈ folder.directories, ¬ holds key directory = true

theorem Bare.enter {key next : String} (h : folder.Bare key) (hin : holds key next = true) :
    folder.Bare next :=
  ⟨fun other hother hholds => h.1 other hother (holds_trans hin hholds),
    fun directory hdirectory hholds => h.2 directory hdirectory (holds_trans hin hholds)⟩

theorem Bare.not_contains {key next : String} (h : folder.Bare key) (hin : holds key next = true) :
    ¬ folder.Contains next := by
  rintro (⟨other, hother, hholds⟩ | ⟨directory, hdirectory, heq | hholds⟩)
  · exact h.1 other hother (holds_trans hin hholds)
  · exact h.2 directory hdirectory (heq ▸ hin)
  · exact h.2 directory hdirectory (holds_trans hin hholds)

/-- A directory that has just been made is bare. -/
theorem Bare.withDirectory {key : String} (h : folder.Bare key) : (folder.withDirectory key).Bare key := by
  refine ⟨h.1, fun directory hdirectory hholds => ?_⟩
  rcases List.mem_append.1 hdirectory with hdirectory | hdirectory
  · exact h.2 directory hdirectory hholds
  · rw [List.mem_singleton.1 hdirectory] at hholds
    exact absurd (length_lt_of_holds hholds) (Nat.lt_irrefl _)

theorem bare_of_not_contains {key : String} (h : ¬ folder.Contains key) : folder.Bare key :=
  ⟨fun other hother hholds => h (.inl ⟨other, hother, hholds⟩),
    fun directory hdirectory hholds => h (.inr ⟨directory, hdirectory, .inr hholds⟩)⟩

/-- Directories are made in a bare one, and what comes behind them is not there yet. -/
theorem exists_makeWay_of_bare (hplain : path.Plain) (hnames : path.names ≠ [])
    (hnew : ∀ name ∈ names, name ≠ [] ∧ name ≠ Path.upwards) (hname : name ≠ [] ∧ name ≠ Path.upwards)
    (hbare : folder.Bare path.text) :
    ∃ way, folder.makeWay path names = some way ∧
      way.placeAt ((names ++ [name]).foldl Path.enter path) ≠ .directory := by
  induction names generalizing folder path with
  | nil =>
    have hin := holds_enter hplain hnames hname
    exact ⟨folder, rfl, fun hplace => hbare.not_contains hin
      ((placeAt_eq_directory_iff (Path.goesUpOnly_enter hname.2)).1 hplace).2⟩
  | cons first rest ih =>
    obtain ⟨hfirst, hrest⟩ := List.forall_mem_cons.1 hnew
    have hin := holds_enter hplain hnames hfirst
    have hdown : (path.enter first).goesUpOnly = false := Path.goesUpOnly_enter hfirst.2
    have hnext {entered : Folder} (h : entered.Bare (path.enter first).text) :=
      ih (hplain.enter hfirst) (Path.names_enter_ne_nil hfirst.2) hrest h
    rcases folder.makeWay_cons_cases path first rest with ⟨-, hmake⟩ | ⟨-, hmake⟩ | ⟨bytes, hplace, -⟩
    · exact hmake ▸ hnext (hbare.enter hin)
    · exact hmake ▸ hnext (hbare.enter hin).withDirectory
    · -- a file of that name would be in the bare directory
      rcases folder.placeAt_cases hdown with ⟨_, hfield, -⟩ | ⟨-, -, h⟩ | ⟨-, -, h⟩
      · exact absurd hin (hbare.1 _ (List.mem_map_of_mem (mem_of_field?_eq_some hfield)))
      · simp [h] at hplace
      · simp [h] at hplace

/-- The way to what is missing can be made, and it is still missing then. -/
theorem exists_makeWay_of_missing (hplain : path.Plain) (hplace : folder.placeAt path = .directory)
    (hnew : ∀ name ∈ names, name ≠ [] ∧ name ≠ Path.upwards) (hname : name ≠ [] ∧ name ≠ Path.upwards)
    (h : folder.walk path (names ++ [name]) = .missing) :
    ∃ way, folder.makeWay path names = some way ∧
      way.placeAt ((names ++ [name]).foldl Path.enter path) ≠ .directory := by
  induction names generalizing path with
  | nil =>
    have hmissing : folder.placeAt (path.enter name) = .missing := by simpa [walk, hplace] using h
    exact ⟨folder, rfl, by simp [hmissing]⟩
  | cons first rest ih =>
    obtain ⟨hfirst, hrest⟩ := List.forall_mem_cons.1 hnew
    have h : folder.walk (path.enter first) (rest ++ [name]) = .missing := by simpa [walk, hplace] using h
    rcases folder.makeWay_cons_cases path first rest with ⟨hnext, hmake⟩ | ⟨hnext, hmake⟩ | ⟨bytes, hnext, -⟩
    · exact hmake ▸ ih (hplain.enter hfirst) hnext hrest h
    · have hmissing := (placeAt_eq_missing_iff (Path.goesUpOnly_enter hfirst.2)).1 hnext
      exact hmake ▸ exists_makeWay_of_bare (hplain.enter hfirst) (Path.names_enter_ne_nil hfirst.2) hrest hname
        (bare_of_not_contains hmissing.2).withDirectory
    · -- names behind a file lead through it
      obtain ⟨next, others, hcons⟩ := List.exists_cons_of_ne_nil (List.append_ne_nil_of_right_ne_nil rest
        (List.cons_ne_nil name []))
      rw [hcons] at h
      rcases folder.walk_cons_cases (path.enter first) next others with ⟨hd, -⟩ | ⟨_, -, hw⟩ | ⟨hm, -⟩
      · simp [hnext] at hd
      · simp [hw] at h
      · simp [hnext] at hm

end Folder

end DocBrowser
