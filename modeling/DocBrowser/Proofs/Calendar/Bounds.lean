import Mathlib
import DocBrowser.Proofs.Calendar.Written
/-!
# Bounds of timestamps

A zone is never a day or more away from UTC. So what is read as a timestamp lies in the years from 1 to 9999 or less
than a day beside them, and its milliseconds fit in 64 bits.
-/

namespace DocBrowser

/-! ## Zones -/

/-- The offsets that a region has or had. -/
def Calendar.Region.offsets (region : Calendar.Region) : List ℤ :=
  region.first :: (region.changes.map (·.2) ++ region.seasons.toList.flatMap fun seasons =>
    [seasons.standard, seasons.summer])

namespace Calendar

theorem offsetByChanges_mem (offset : ℤ) (changes : List (ℤ × ℤ)) (second : ℤ) :
    (offsetByChanges offset changes second).2 ∈ offset :: changes.map (·.2) ∧
      ∀ found ∈ (offsetByChanges offset changes second).1, found ∈ offset :: changes.map (·.2) := by
  induction changes generalizing offset with
  | nil => simp [offsetByChanges]
  | cons change rest ih =>
    obtain ⟨instant, next⟩ := change
    rw [offsetByChanges]
    split_ifs
    · simp
    · obtain ⟨hlast, hfound⟩ := ih next
      exact ⟨List.mem_cons_of_mem _ hlast, fun found h => List.mem_cons_of_mem _ (hfound found h)⟩

theorem Seasons.offsetAt_eq_or (seasons : Seasons) (year : ℕ) (second : ℤ) :
    seasons.offsetAt year second = seasons.standard ∨ seasons.offsetAt year second = seasons.summer := by
  simp only [offsetAt]
  split_ifs <;> simp

theorem Region.offsetAt_mem (region : Region) (year : ℕ) (second : ℤ) :
    region.offsetAt year second ∈ region.offsets := by
  obtain ⟨hlast, hfound⟩ := offsetByChanges_mem region.first region.changes second
  have hchanges {offset : ℤ} (h : offset ∈ region.first :: region.changes.map (·.2)) : offset ∈ region.offsets := by
    rw [offsets, ← List.cons_append]
    exact List.mem_append_left _ h
  unfold offsetAt
  -- the listed changes settle the instant, or it lies behind them all: with no seasons, and with seasons
  split
  · rename_i hpair
    rw [hpair] at hfound
    exact hchanges (hfound _ rfl)
  · rename_i hpair _
    rw [hpair] at hlast
    exact hchanges hlast
  · rename_i seasons _ hseasons
    rw [offsets, hseasons]
    rcases seasons.offsetAt_eq_or year second with heq | heq <;> simp [heq]

end Calendar

/-- Whether a zone is always less than a day away from UTC. -/
def Zone.IsNear (zone : Zone) : Prop := ∀ year second, (zone.offsetAt year second).natAbs < 86400

theorem Zone.isNear_utc : Zone.utc.IsNear := fun _ _ => Nat.zero_lt_succ _

theorem Zone.isNear_fixed {offset : ℤ} (h : offset.natAbs < 86400) : (Zone.fixed offset).IsNear := fun _ _ => h

/-- Whether all regions of zone data have offsets of less than a day only. -/
def ZoneData.Near (zones : ZoneData) : Prop :=
  ∀ name region, zones name = some region → ∀ offset ∈ region.offsets, offset.natAbs < 86400

theorem ZoneData.near_own : ZoneData.own.Near := by
  have hregions : ∀ region ∈ Calendar.regions, ∀ offset ∈ region.offsets, offset.natAbs < 86400 := by decide +kernel
  exact fun name region hfind => hregions region (List.mem_of_find?_eq_some hfind)

/-- Every zone that has a name is near, if the regions are. -/
theorem Zone.isNear_of_ofName? {zones : ZoneData} (hzones : zones.Near) {name : String} {zone : Zone}
    (h : Zone.ofName? name zones = some zone) : zone.IsNear := by
  unfold ofName? at h
  dsimp only at h
  split_ifs at h
  · cases h
    exact isNear_utc
  · obtain ⟨region, hfind, rfl⟩ := Option.map_eq_some_iff.1 h
    exact fun year second => hzones name region hfind _ (region.offsetAt_mem year second)

/-! ## Timestamps -/

namespace Timestamp

theorem microseconds_lt {fraction : List ℕ} (h : ∀ d ∈ fraction, d < 10) : microseconds fraction < 1000000 := by
  have hsix : ∀ d ∈ (fraction ++ [0, 0, 0, 0, 0, 0]).take 6, d < 10 := by
    intro d hd
    exact forall_lt_filled h d (List.mem_of_mem_take hd)
  have hlt := Text.ofDigitValues_lt hsix
  refine hlt.trans_le ?_
  calc 10 ^ ((fraction ++ [0, 0, 0, 0, 0, 0]).take 6).length ≤ 10 ^ 6 :=
        Nat.pow_le_pow_right (by norm_num) (List.length_take_le _ _)
    _ = 1000000 := by norm_num

theorem daysBeforeMonth_le (year month : ℕ) : Calendar.daysBeforeMonth year month ≤ 366 := by
  have hle : ((Calendar.monthLengths year).take (month - 1)).sum ≤ (Calendar.monthLengths year).sum :=
    List.Sublist.sum_le_sum (List.take_sublist _ _) fun n _ => Nat.zero_le n
  rw [Calendar.daysBeforeMonth_eq_sum]
  rw [Calendar.sum_monthLengths] at hle
  split_ifs at hle <;> omega

theorem Valid.natAbs_localSecond_lt {t : Timestamp} (h : t.Valid) : t.localSecond.natAbs < 1000000000000 := by
  have hmonth := daysBeforeMonth_le t.year t.month
  have hday := h.day_le_31
  have hyear : Calendar.daysBeforeYear t.year ≤ 3700000 := by
    have hle := h.year_le
    unfold Calendar.daysBeforeYear
    dsimp only
    omega
  have hhour := h.hour_le
  have hminute := h.minute_le
  have hsecond := h.second_le
  unfold localSecond Calendar.dayOfDate Calendar.epochDay
  omega

theorem exists_bounded_millis {t : Timestamp} (hlocal : t.localSecond.natAbs < 1000000000000)
    (hoffset : t.offset.natAbs < 86400) (hmicro : t.microsecond < 1000000) :
    ∃ b : Bounded 64, b.value = t.millis := by
  refine ⟨⟨t.millis, ?_, ?_⟩, rfl⟩ <;> norm_num [millis] <;> omega

theorem Shift.natAbs_seconds_lt {shift : Shift} (h : shift.hours ≤ 23 ∧ shift.minutes ≤ 59) :
    shift.seconds.natAbs < 86400 := by
  unfold seconds
  split_ifs <;> omega

/-- The milliseconds of a timestamp that is read fit in 64 bits. -/
theorem exists_bounded_of_parse {zone : Zone} (hzone : zone.IsNear) {text : String} {t : Timestamp}
    (h : parse zone text = .ok t) : ∃ b : Bounded 64, b.value = t.millis := by
  obtain ⟨r, hwritten, hrange, rfl⟩ := parse_eq_ok_iff.1 h
  have hlocal := (Reading.inRange_iff.1 hrange).2.natAbs_localSecond_lt
  have hoffset : (r.placed zone).offset.natAbs < 86400 := by
    unfold Reading.placed
    cases hshift : r.shift with
    | none => exact hzone _ _
    | some shift => exact Shift.natAbs_seconds_lt (hrange.shift_le shift hshift)
  exact exists_bounded_millis hlocal hoffset (microseconds_lt hwritten.forall_fraction_lt)

end Timestamp

end DocBrowser
