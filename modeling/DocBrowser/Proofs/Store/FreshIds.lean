import Mathlib
import DocBrowser.Proofs.Store.Unique
/-!
# Fresh identifiers

A fresh identifier spells the time, the bytes of the process and the counter, each in a fixed number of
bytes. Two of them are equal exactly if all three agree, the counters up to whole cycles: whatever the clock
shows, no identifier comes back within a cycle, and none takes the place of another in a store.
-/

namespace DocBrowser

namespace IdSource

/-! ## Equal identifiers -/

/-- Bytes tell numbers apart up to the part that does not fit into them. -/
theorem bytesOf_eq_bytesOf_iff {count m n : ℕ} : bytesOf count m = bytesOf count n ↔ m ≡ n [MOD 256 ^ count] := by
  induction count generalizing m n with
  | zero => simp [bytesOf, Nat.modEq_one]
  | succ count ih =>
    have hlast : (m % 256).toUInt8 = (n % 256).toUInt8 ↔ m % 256 = n % 256 := by
      rw [← UInt8.toNat_inj]
      simp
    -- the last byte is the remainder, and the bytes in front of it are those of the quotient
    rw [bytesOf, bytesOf, List.append_singleton_inj, ih, hlast, Nat.ModEq, Nat.ModEq, Nat.pow_succ', Nat.mod_mul,
      Nat.mod_mul]
    omega

/-- Two identifiers are equal where the times, the processes and the counters are. -/
theorem idAt_eq_idAt_iff {source other : IdSource} {time time' : ℕ} :
    source.idAt time = other.idAt time' ↔
      time ≡ time' [MOD 256 ^ 4] ∧ source.process = other.process ∧ source.counter ≡ other.counter [MOD cycle] := by
  -- three bytes hold any counter below the cycle, so only the cycle wraps it
  have hcounter : source.counter % cycle ≡ other.counter % cycle [MOD 256 ^ 3] ↔
      source.counter ≡ other.counter [MOD cycle] := by
    have hfits (n : ℕ) : n % cycle < 256 ^ 3 := (Nat.mod_lt n (by decide)).trans (by decide)
    rw [Nat.ModEq, Nat.mod_eq_of_lt (hfits _), Nat.mod_eq_of_lt (hfits _), Nat.ModEq]
  have hprocess : source.process.length = other.process.length :=
    source.process_length.trans other.process_length.symm
  rw [idAt, idAt, ObjectId.mk.injEq, ← bytesOf_eq_bytesOf_iff, ← hcounter, ← bytesOf_eq_bytesOf_iff]
  constructor
  · intro h
    obtain ⟨htime, h⟩ := List.append_inj h (by simp [length_bytesOf])
    exact ⟨htime, List.append_inj h hprocess⟩
  · rintro ⟨htime, hbytes, hlast⟩
    rw [htime, hbytes, hlast]

/-! ## One request after the other -/

/-- A source when the clock shows a time. -/
def atTime (source : IdSource) (time : Int) : IdSource := { source with time }

/-- A source behind a number of requests. -/
def advance (source : IdSource) (count : ℕ) : IdSource := { source with counter := source.counter + count }

/-- Whether a time fits into an identifier. -/
def Fits (time : Int) : Prop := 0 ≤ time ∧ time < 0x100000000

/-- What a source answers to requests one after the other, each at a time. -/
def answers : IdSource → List Int → List (Except Failure ObjectId)
  | _, [] => []
  | source, time :: times => (source.atTime time).next.1 :: (source.atTime time).next.2.answers times

/-- The identifiers that a source gives one after the other, each at a time. -/
def idsAt : IdSource → List Int → List ObjectId
  | _, [] => []
  | source, time :: times => source.idAt time.toNat :: (source.advance 1).idsAt times

@[simp] theorem advance_zero (source : IdSource) : source.advance 0 = source := rfl

@[simp] theorem advance_advance (source : IdSource) (m n : ℕ) : (source.advance m).advance n = source.advance (m + n) := by
  simp [advance, Nat.add_assoc]

@[simp] theorem advance_atTime (source : IdSource) (time : Int) (count : ℕ) :
    (source.atTime time).advance count = (source.advance count).atTime time := rfl

@[simp] theorem atTime_atTime (source : IdSource) (time later : Int) :
    (source.atTime time).atTime later = source.atTime later := rfl

/-- The identifiers do not depend on what the clock showed before. -/
@[simp] theorem idsAt_atTime (source : IdSource) (time : Int) (times : List Int) :
    (source.atTime time).idsAt times = source.idsAt times := by
  induction times generalizing source with
  | nil => rfl
  | cons first times ih => exact congrArg (_ :: ·) (ih (source.advance 1))

@[simp] theorem length_idsAt (source : IdSource) (times : List Int) : (source.idsAt times).length = times.length := by
  induction times generalizing source with
  | nil => rfl
  | cons time times ih => simp [idsAt, ih]

theorem idsAt_append (source : IdSource) (times more : List Int) :
    source.idsAt (times ++ more) = source.idsAt times ++ (source.advance times.length).idsAt more := by
  induction times generalizing source with
  | nil => rfl
  | cons time times ih => simp [idsAt, ih, Nat.add_comm]

theorem next_of_fits (source : IdSource) (h : Fits source.time) :
    source.next = (.ok (source.idAt source.time.toNat), source.advance 1) := if_pos h

/-- At times that fit, every request gets an identifier. -/
theorem answers_eq {source : IdSource} {times : List Int} (h : ∀ time ∈ times, Fits time) :
    source.answers times = (source.idsAt times).map .ok := by
  induction times generalizing source with
  | nil => rfl
  | cons time times ih =>
    obtain ⟨htime, htimes⟩ := List.forall_mem_cons.1 h
    rw [answers, next_of_fits (source.atTime time) htime, ih htimes, advance_atTime, idsAt_atTime]
    rfl

theorem getElem?_idsAt (source : IdSource) (times : List Int) (i : ℕ) :
    (source.idsAt times)[i]? = times[i]?.map fun time => (source.advance i).idAt time.toNat := by
  induction times generalizing source i with
  | nil => rfl
  | cons time times ih =>
    cases i with
    | zero => rfl
    | succ i => rw [idsAt, List.getElem?_cons_succ, List.getElem?_cons_succ, ih, advance_advance, Nat.add_comm]

/-- Requests to one source give the same identifier at the same time, whole cycles apart. -/
theorem idAt_advance_eq_iff {source : IdSource} {i j time time' : ℕ} :
    (source.advance i).idAt time = (source.advance j).idAt time' ↔
      time ≡ time' [MOD 256 ^ 4] ∧ i ≡ j [MOD cycle] := by
  have hcounter : (source.advance i).counter ≡ (source.advance j).counter [MOD cycle] ↔ i ≡ j [MOD cycle] :=
    ⟨Nat.ModEq.add_left_cancel' _, Nat.ModEq.add_left _⟩
  rw [idAt_eq_idAt_iff, hcounter]
  exact and_congr_right fun _ => and_iff_right rfl

/-- Within a cycle all identifiers are different. -/
theorem nodup_idsAt {source : IdSource} {times : List Int} (h : times.length ≤ cycle) :
    (source.idsAt times).Nodup := by
  rw [List.nodup_iff_getElem?_ne_getElem?]
  intro i j hij hj heq
  rw [length_idsAt] at hj
  rw [getElem?_idsAt, getElem?_idsAt, List.getElem?_eq_getElem (hij.trans hj), List.getElem?_eq_getElem hj] at heq
  obtain ⟨-, hmod⟩ := idAt_advance_eq_iff.1 (Option.some.inj heq)
  exact hij.ne (hmod.eq_of_lt_of_lt (by omega) (by omega))

/-- While the clock stands still, a cycle is as far as the identifiers stay different. -/
theorem nodup_answers_replicate_iff {source : IdSource} {time : Int} (h : Fits time) (count : ℕ) :
    (source.answers (List.replicate count time)).Nodup ↔ count ≤ cycle := by
  have hfits : ∀ other ∈ List.replicate count time, Fits other := by
    intro other hother
    rwa [List.eq_of_mem_replicate hother]
  rw [answers_eq hfits, List.nodup_map_iff fun _ _ => Except.ok.inj]
  refine ⟨fun hnodup => ?_, fun hcount => nodup_idsAt (by rwa [List.length_replicate])⟩
  by_contra! hcount
  -- the first identifier comes back behind a cycle
  refine List.nodup_iff_getElem?_ne_getElem?.1 hnodup 0 cycle (by decide) (by simpa using hcount) ?_
  rw [getElem?_idsAt, getElem?_idsAt, List.getElem?_replicate_of_lt hcount,
    List.getElem?_replicate_of_lt (Nat.zero_lt_of_lt hcount)]
  exact congrArg some (idAt_advance_eq_iff.2 ⟨rfl, (Nat.modEq_zero_iff_dvd.2 dvd_rfl).symm⟩)

end IdSource

namespace Store

open IdSource (Fits)

/-! ## One insertion after the other -/

/-- Calls that insert documents, each at a time. -/
def insertions (entries : List (Int × Document)) : List Call :=
  entries.map fun (time, doc) => ⟨time, .insert doc⟩

/-- Documents under the identifiers that a source gives one after the other, each at a time. -/
def withIds : IdSource → List (Int × Document) → List Document
  | _, [] => []
  | source, (time, doc) :: entries =>
    ((idKey, .objectId (source.idAt time.toNat)) :: doc) :: withIds (source.advance 1) entries

/-- Whether a document needs an identifier, and gets one at its time. -/
def Generates (entry : Int × Document) : Prop := Fits entry.1 ∧ field? entry.2 idKey = none

@[simp] theorem withIds_atTime (source : IdSource) (time : Int) (entries : List (Int × Document)) :
    withIds (source.atTime time) entries = withIds source entries := by
  induction entries generalizing source with
  | nil => rfl
  | cons entry entries ih => exact congrArg (_ :: ·) (ih (source.advance 1))

theorem withIds_append (source : IdSource) (entries more : List (Int × Document)) :
    withIds source (entries ++ more) = withIds source entries ++ withIds (source.advance entries.length) more := by
  induction entries generalizing source with
  | nil => rfl
  | cons entry entries ih => simp [withIds, ih, Nat.add_comm]

theorem exists_of_mem_withIds {source : IdSource} {entries : List (Int × Document)} {doc : Document}
    (h : doc ∈ withIds source entries) :
    ∃ id ∈ source.idsAt (entries.map Prod.fst), field? doc idKey = some (.objectId id) := by
  induction entries generalizing source with
  | nil => cases h
  | cons entry entries ih =>
    rcases List.mem_cons.1 h with rfl | h
    · exact ⟨_, List.mem_cons_self, field?_idKey_cons _ _⟩
    · obtain ⟨id, hid, hown⟩ := ih h
      exact ⟨id, List.mem_cons_of_mem _ hid, hown⟩

/-- A document without an identifier is stored under the one that its insertion answers. -/
theorem step_insertion {entry : Int × Document} (h : Generates entry) (store : Store) :
    store.step ⟨entry.1, .insert entry.2⟩ = (.ok (.inserted (.objectId (store.ids.idAt entry.1.toNat))),
      ⟨store.documents ++ withIds store.ids [entry], (store.ids.advance 1).atTime entry.1⟩) := by
  have hnext : (store.atTime entry.1).ids.next = (.ok (store.ids.idAt entry.1.toNat),
      (store.ids.advance 1).atTime entry.1) := IdSource.next_of_fits (store.ids.atTime entry.1) h.1
  rw [step, perform, insert, h.2]
  dsimp only
  rw [hnext]
  rfl

/-- Insertions put every document behind the others, under an identifier of its own request. -/
theorem run_insertions {entries : List (Int × Document)} (h : ∀ entry ∈ entries, Generates entry) (store : Store) :
    ∃ time, store.run (insertions entries) =
      ⟨store.documents ++ withIds store.ids entries, (store.ids.advance entries.length).atTime time⟩ := by
  -- one insertion, then the others into the store behind it
  induction entries generalizing store with
  | nil => exact ⟨store.ids.time, by simp [insertions, withIds, IdSource.atTime]⟩
  | cons entry entries ih =>
    obtain ⟨hentry, hentries⟩ := List.forall_mem_cons.1 h
    obtain ⟨time, hrun⟩ := ih hentries (store.step ⟨entry.1, .insert entry.2⟩).2
    refine ⟨time, hrun.trans ?_⟩
    rw [step_insertion hentry]
    simp [withIds, Nat.add_comm]

/-- Within a cycle, what is stored under an identifier is found under it, whatever is stored before or behind it. -/
theorem get_withIds {source ids : IdSource} {before after : List (Int × Document)} {entry : Int × Document}
    (h : (before ++ entry :: after).length ≤ IdSource.cycle) :
    get ⟨withIds source (before ++ entry :: after), ids⟩
      (.objectId ((source.advance before.length).idAt entry.1.toNat)) =
        .ok ((idKey, .objectId ((source.advance before.length).idAt entry.1.toNat)) :: entry.2) := by
  have hnodup : (source.idsAt ((before ++ entry :: after).map Prod.fst)).Nodup :=
    IdSource.nodup_idsAt (by rwa [List.length_map])
  rw [List.map_append, IdSource.idsAt_append, List.length_map] at hnodup
  refine get_eq_ok.2 ⟨withIds source before, withIds ((source.advance before.length).advance 1) after, ?_, ?_,
    fun other hother => ?_⟩
  · rw [withIds_append, withIds]
  · exact hasId_objectId.2 (field?_idKey_cons _ _)
  · -- the requests before gave other identifiers
    obtain ⟨id, hid, hown⟩ := exists_of_mem_withIds hother
    rw [hasId_objectId_eq_ok_false, hown]
    rintro ⟨⟩
    exact (List.nodup_append.1 hnodup).2.2 _ hid _ List.mem_cons_self rfl

/--
In at most a cycle of requests, each at a time that fits, every request gets an identifier, and all of them are
different. Where the requests are insertions into an empty store, each answers its identifier, and behind whatever
is inserted after it that identifier leads to its document.
-/
theorem nodup_answers_and_get_run_insertions (source : IdSource) (entries : List (Int × Document))
    (hentries : ∀ entry ∈ entries, Generates entry) (hcount : entries.length ≤ IdSource.cycle) :
    ∃ ids : List ObjectId, source.answers (entries.map Prod.fst) = ids.map .ok ∧ ids.Nodup ∧
      ∀ before entry after, before ++ entry :: after <+: entries → ∃ id, ids[before.length]? = some id ∧
        (((empty source).run (insertions before)).step ⟨entry.1, .insert entry.2⟩).1 =
          .ok (.inserted (.objectId id)) ∧
        ((empty source).run (insertions (before ++ entry :: after))).get (.objectId id) =
          .ok ((idKey, .objectId id) :: entry.2) := by
  have htimes : ∀ time ∈ entries.map Prod.fst, Fits time :=
    List.forall_mem_map.2 fun entry hentry => (hentries entry hentry).1
  refine ⟨_, IdSource.answers_eq htimes, IdSource.nodup_idsAt (by rwa [List.length_map]), ?_⟩
  intro before entry after hlead
  have hmade : ∀ other ∈ before ++ entry :: after, Generates other := fun other hother =>
    hentries other (hlead.subset hother)
  obtain ⟨hbefore, hbehind⟩ := List.forall_mem_append.1 hmade
  obtain ⟨hentry, -⟩ := List.forall_mem_cons.1 hbehind
  refine ⟨(source.advance before.length).idAt entry.1.toNat, ?_, ?_, ?_⟩
  · obtain ⟨more, rfl⟩ := hlead
    rw [IdSource.getElem?_idsAt, List.getElem?_map]
    simp
  · -- the insertion itself, in the store that the ones before it leave
    obtain ⟨time, hrun⟩ := run_insertions hbefore (empty source)
    rw [hrun, step_insertion hentry]
    rfl
  · -- and the same id looked up after the ones behind it
    obtain ⟨time, hrun⟩ := run_insertions hmade (empty source)
    rw [hrun]
    exact get_withIds (hlead.length_le.trans hcount)

/-- Over the end of a cycle the counter starts again, and the document in front of it is still found. -/
theorem get_run_insertions_over_cycle :
    (IdSource.answers { time := 0, process := [255, 255, 255, 255, 255], counter := 0xFFFFFE }
      [0xFFFFFFFF, 0xFFFFFFFF]).Nodup ∧
    ((empty { time := 0, process := [255, 255, 255, 255, 255], counter := 0xFFFFFE }).run
      (insertions [(0xFFFFFFFF, [("a", .null)]), (0xFFFFFFFF, [])])).get
        (.objectId ⟨[255, 255, 255, 255, 255, 255, 255, 255, 255, 255, 255, 254], rfl⟩) =
      .ok [("_id", .objectId ⟨[255, 255, 255, 255, 255, 255, 255, 255, 255, 255, 255, 254], rfl⟩), ("a", .null)] := by
  have hentries : ∀ entry ∈ [(0xFFFFFFFF, [("a", Value.null)]), (0xFFFFFFFF, [])], Generates entry := by
    simp [Generates, Fits, field?, idKey]
  obtain ⟨ids, hids, hnodup, hget⟩ := nodup_answers_and_get_run_insertions
    { time := 0, process := [255, 255, 255, 255, 255], counter := 0xFFFFFE } _ hentries (by decide)
  obtain ⟨id, -, hanswer, hfound⟩ := hget [] _ [(0xFFFFFFFF, [])] List.prefix_rfl
  cases hanswer
  have hanswers : (ids.map .ok : List (Except Failure ObjectId)).Nodup := hnodup.map fun _ _ => Except.ok.inj
  rw [← hids] at hanswers
  exact ⟨hanswers, hfound⟩

end Store

end DocBrowser
