import Mapapi.Periods

/-!
# The reports of last week

`IncidentOnWeekAPIListView` and `IncidentByWeekByZoneAPIView` count the incidents of last
week, day by day. The days are told apart by their day of the month, which is enough for
days this close to each other. The window ends eight days after the Monday it begins with,
so that the reports also count the Monday of the current week.
-/

namespace Mapapi

open Lib

/-! ## Weeks -/

theorem days_le_iff {n : Int} {t : Instant} : days n ≤ t ↔ n ≤ t.date := by
  unfold days Instant.date days
  lia

theorem lt_days_iff {n : Int} {t : Instant} : t < days n ↔ t.date < n := by
  unfold days Instant.date days
  lia

def Date.monday (d : Date) : Date := d - (d.isoWeekday - 1)

def WeekBefore (today : Date) (t : Instant) : Prop :=
  days (today.monday - 7) ≤ t ∧ t < days today.monday

/-- What the views take for last week. -/
theorem inLastWeek_iff {today : Date} {l : Listing} :
    inLastWeek today l = true ↔
      today.monday - 7 ≤ l.columns.createdAt.date ∧
        l.columns.createdAt.date < today.monday + 1 := by
  have hmonday : today - 7 - ((today - 7).isoWeekday - 1) = today.monday - 7 := by
    unfold Date.monday Date.isoWeekday
    lia
  unfold inLastWeek
  rw [decide_eq_true_eq, days_le_iff, lt_days_iff, hmonday]
  lia

/-- Nearby days have different days of the month. -/
theorem Date.day_inj {d d' : Date} (hnear : d < d' + 28) (hnear' : d' < d + 28)
    (h : d.day = d'.day) : d = d' := by
  rw [Date.day_eq, Date.day_eq] at h
  rcases Int.le_total d d' with hle | hle
  · have := dayOfMonth_inj (y := d + 719468) (z := d' + 719468) (by lia) (by lia) h
    lia
  · have := dayOfMonth_inj (y := d' + 719468) (z := d + 719468) (by lia) (by lia) h.symm
    lia

/-! ## Counts by day -/

structure DailyCounts (items : List Listing) (rows : List Tally) : Prop where
  ascending : rows.Pairwise fun t t' => t.start < t'.start
  days : ∀ d, (∃ t ∈ rows, t.start = d) ↔ ∃ l ∈ items, l.columns.createdAt.date = d
  totals : ∀ t ∈ rows, t.total = items.countP fun l =>
    decide (l.columns.createdAt.date = t.start)
  sum : (rows.map Tally.total).sum = items.length

section Tallies

variable {key : Date → Int} {items : List Listing}

/-- What the incidents of a group have in common is the day. -/
theorem total_tally
    (hkey : ∀ l ∈ items, ∀ l' ∈ items, key l.columns.createdAt.date =
      key l'.columns.createdAt.date → l.columns.createdAt.date = l'.columns.createdAt.date)
    {d : Date} (hd : d ∈ items.map fun l => l.columns.createdAt.date) :
    (tally d (items.filter fun l => decide (key l.columns.createdAt.date = key d))).total =
      (items.map fun l => l.columns.createdAt.date).count d := by
  obtain ⟨l', hl', rfl⟩ := List.mem_map.mp hd
  unfold tally
  dsimp only
  rw [← List.countP_eq_length_filter, List.count, List.countP_map]
  refine List.countP_congr fun l hl => ?_
  rw [decide_eq_true_eq, Function.comp_apply, beq_iff_eq]
  exact ⟨hkey l hl l' hl', fun h => h ▸ rfl⟩

/-- Grouping by a key is grouping by the day when the key tells the days of
the report apart. The day of the month does within a week, and so do the
weekdays. -/
theorem dailyCounts_tallies
    (hkey : ∀ l ∈ items, ∀ l' ∈ items, key l.columns.createdAt.date =
      key l'.columns.createdAt.date → l.columns.createdAt.date = l'.columns.createdAt.date) :
    DailyCounts items (tallies id key items) := by
  let dates := items.map fun l => l.columns.createdAt.date
  have hmem : ∀ d, d ∈ ascending (fun start : Date => start) dates.dedup ↔ d ∈ dates := by
    intro d
    rw [mem_ascending, List.mem_dedup]
  have hsorted : (ascending (fun start : Date => start) dates.dedup).Pairwise (· < ·) :=
    pairwise_ascending ((List.map_id' _).symm ▸ List.nodup_dedup dates)
  have htotal : ∀ d ∈ dates, (tally d (items.filter fun l =>
      decide (key l.columns.createdAt.date = key d))).total = dates.count d :=
    fun d hd => total_tally hkey hd
  refine ⟨List.pairwise_map.mpr hsorted, fun d => ?_, ?_, ?_⟩
  · constructor
    · rintro ⟨t, ht, rfl⟩
      obtain ⟨d, hd, rfl⟩ := List.mem_map.mp ht
      exact List.mem_map.mp ((hmem d).mp hd)
    · rintro ⟨l, hl, rfl⟩
      exact ⟨_, List.mem_map_of_mem ((hmem _).mpr (List.mem_map_of_mem hl)), rfl⟩
  · intro t ht
    obtain ⟨d, hd, rfl⟩ := List.mem_map.mp ht
    rw [htotal d ((hmem d).mp hd), List.count, List.countP_map]
    rfl
  · have hcounts : (tallies id key items).map Tally.total =
        (ascending (fun start : Date => start) dates.dedup).map fun d => dates.count d := by
      unfold tallies
      rw [List.map_map]
      exact List.map_congr_left fun d hd => htotal d ((hmem d).mp hd)
    calc ((tallies id key items).map Tally.total).sum
        = ((ascending (fun start : Date => start) dates.dedup).map fun d =>
            dates.count d).sum := by rw [hcounts]
      _ = (dates.dedup.map fun d => dates.count d).sum :=
          ((List.perm_insertionSort _ _).map _).sum_eq
      _ = dates.length := List.sum_map_count_dedup_eq_length dates
      _ = items.length := List.length_map _

end Tallies

/-! ## The reports -/

def Board.weekItems (s : Board) (zone : Option String) (today : Date) : List Listing :=
  s.listings.filter fun l => zone.all (inZone · l) && inLastWeek today l

/-- `IncidentByWeekByZoneAPIView.get` of a zone, or else `IncidentOnWeekAPIListView.get`. -/
def Board.weekReport (s : Board) (zone : Option String) (now : Instant) : PublicAnswer :=
  match zone with
  | none => incidentsOnWeek now.date s.listings
  | some zone => incidentsByWeekByZone now.date zone s.listings

/-- The report selects the incidents of last week, and counts them by day; the next report
counts none of them again. -/
structure ReportsLastWeek (s : Board) (zone : Option String) (now : Instant) : Prop where
  selects : ∀ l ∈ s.listings, l ∈ s.weekItems zone now.date ↔
    zone.all (inZone · l) = true ∧ WeekBefore now.date l.columns.createdAt
  counts : ∃ message rows, s.weekReport zone now = .tallies message rows ∧
    DailyCounts (s.weekItems zone now.date) rows
  once : ∀ (s' : Board) (now' : Instant), now'.date.monday = now.date.monday + 7 →
    ∀ l ∈ s.weekItems zone now.date, ∀ l' ∈ s'.weekItems zone now'.date,
      l.incident.id = l'.incident.id → l.columns.createdAt ≠ l'.columns.createdAt

section Reports

variable {s : Board} {zone : Option String} {now : Instant} {today : Date} {l : Listing}

theorem mem_weekItems : l ∈ s.weekItems zone today ↔
    l ∈ s.listings ∧ zone.all (inZone · l) = true ∧
      today.monday - 7 ≤ l.columns.createdAt.date ∧
        l.columns.createdAt.date < today.monday + 1 := by
  unfold Board.weekItems
  rw [List.mem_filter, Bool.and_eq_true, inLastWeek_iff]

theorem weekReport_counts (s : Board) (zone : Option String) (now : Instant) :
    ∃ message rows, s.weekReport zone now = .tallies message rows ∧
      DailyCounts (s.weekItems zone now.date) rows := by
  have hcounts : DailyCounts (s.weekItems zone now.date)
      (tallies id Date.day (s.weekItems zone now.date)) := by
    refine dailyCounts_tallies fun l hl l' hl' => Date.day_inj ?_ ?_
    · have h := (mem_weekItems.mp hl).2.2
      have h' := (mem_weekItems.mp hl').2.2
      lia
    · have h := (mem_weekItems.mp hl).2.2
      have h' := (mem_weekItems.mp hl').2.2
      lia
  cases zone with
  | none => exact ⟨_, _, rfl, hcounts⟩
  | some zone => exact ⟨_, _, rfl, hcounts⟩

end Reports

/-- A report is about last week, unless there are incidents of the Monday
after it. The days of the window are counted rightly in any case; the window
is a day too long. -/
theorem reports_last_week_iff (s : Board) (zone : Option String) (now : Instant) :
    ReportsLastWeek s zone now ↔
      ∀ l ∈ s.listings, zone.all (inZone · l) = true →
        l.columns.createdAt.date ≠ now.date.monday := by
  constructor
  · intro h l hl hzone heq
    have hitem : l ∈ s.weekItems zone now.date :=
      mem_weekItems.mpr ⟨hl, hzone, by lia, by lia⟩
    have hbefore := lt_days_iff.mp ((h.selects l hl).mp hitem).2.2
    lia
  · intro h
    have hbefore : ∀ l ∈ s.weekItems zone now.date,
        l.columns.createdAt.date < now.date.monday := by
      intro l hl
      obtain ⟨hl, hzone, -, hlt⟩ := mem_weekItems.mp hl
      have hne := h l hl hzone
      lia
    refine ⟨fun l hl => ?_, weekReport_counts s zone now, fun s' now' hnext l hl l' hl' _ heq => ?_⟩
    · constructor
      · intro hitem
        obtain ⟨-, hzone, hle, -⟩ := mem_weekItems.mp hitem
        exact ⟨hzone, days_le_iff.mpr hle, lt_days_iff.mpr (hbefore l hitem)⟩
      · rintro ⟨hzone, hle, hlt⟩
        have hlt := lt_days_iff.mp hlt
        exact mem_weekItems.mpr ⟨hl, hzone, days_le_iff.mp hle, by lia⟩
    · have hlt := hbefore l hl
      have hle := (mem_weekItems.mp hl').2.2.1
      rw [← heq, hnext] at hle
      lia

/-- On Wednesday, 15 January 2025, the incident of Monday is reported as one of last week. -/
theorem reports_this_monday :
    ¬ ReportsLastWeek (boardOf 20101) none (days 20103) := by
  intro h
  have hlast := (h.selects _ (List.mem_singleton_self _)).mp (List.mem_singleton_self _)
  exact absurd hlast.2.2 (by decide)

end Mapapi
