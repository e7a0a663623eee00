import Mapapi.Impact
import Mapapi.Lib.Gregorian

/-!
# The periods of the map and of the impact figures

`IncidentFilterView` and `_apply_period` both narrow the incidents down to a period. The
map compares the month of an incident with the month asked for, and not its year, so that
`this_month` and `last_month` also show what was created in other years.
-/

namespace Mapapi

open Lib

/-! ## Months -/

namespace Date

variable {d : Date}

theorem dayOfYear_civil (z : Int) :
    z % 146097 - (365 * yearOfEra (z % 146097) + yearOfEra (z % 146097) / 4 -
      yearOfEra (z % 146097) / 100) = dayOfYear z := by
  have hbounds := yearOfEra_bounds (n := z % 146097) (by omega) (by omega)
  unfold dayOfYear yearOf
  rw [yearStart_add_era]
  unfold yearStart
  omega

theorem month_eq (d : Date) :
    d.month = if monthOfYear (dayOfYear (d + 719468)) < 10 then
      monthOfYear (dayOfYear (d + 719468)) + 3
      else monthOfYear (dayOfYear (d + 719468)) - 9 := by
  rw [← dayOfYear_civil]
  rfl

theorem day_eq (d : Date) : d.day = dayOfMonth (dayOfYear (d + 719468)) := by
  rw [← dayOfYear_civil]
  rfl

theorem month_bounds (d : Date) : 1 ≤ d.month ∧ d.month ≤ 12 := by
  have hbounds := monthOfYear_bounds (d + 719468)
  rw [month_eq]
  split <;> omega

/-- The number of the month, counted through the years. Two days are in one
month of one year when their numbers are equal, and in months of one name when
these are equal modulo twelve. -/
def monthIndex (d : Date) : Int := 12 * d.year + (d.month - 1)

theorem monthIndex_eq_iff {y m : Int} (hm : 1 ≤ m) (hm' : m ≤ 12) :
    d.monthIndex = 12 * y + (m - 1) ↔ d.year = y ∧ d.month = m := by
  have hbounds := d.month_bounds
  unfold monthIndex
  omega

theorem monthIndex_emod {m : Int} (hm : 1 ≤ m) (hm' : m ≤ 12) :
    d.monthIndex % 12 = (m - 1) % 12 ↔ d.month = m := by
  have hbounds := d.month_bounds
  unfold monthIndex
  omega

def monthOf (today : Date) : Option String → Option Int
  | some "this_month" => some today.monthIndex
  | some "last_month" => some (today.monthIndex - 1)
  | _ => none

theorem monthOf_eq_some {type : String} {month : Int} (h : d.monthOf (some type) = some month) :
    type = "this_month" ∧ month = d.monthIndex ∨
      type = "last_month" ∧ month = d.monthIndex - 1 := by
  unfold monthOf at h
  split at h
  · rename_i heq
    exact Or.inl ⟨Option.some.inj heq, (Option.some.inj h).symm⟩
  · rename_i heq
    exact Or.inr ⟨Option.some.inj heq, (Option.some.inj h).symm⟩
  · cases h

/-- The day is in the month of the same name, of another year. -/
def OtherYear (d : Date) (month : Int) : Prop :=
  d.monthIndex % 12 = month % 12 ∧ d.monthIndex ≠ month

end Date

/-! ## The two filters -/

/-- The incidents of the period on the map; a range whose ends are no dates makes the query
raise. -/
def FilterParams.inPeriod (p : FilterParams) (now : Instant) (rows : List Listing) :
    Option (List Listing) :=
  if p.malformedRange then none else some (rows.filter (p.inWindow now.date))

/-- The incidents that `_apply_period` keeps, of their `created_at`. -/
def ImpactParams.inPeriod (p : ImpactParams) (now : Instant) (rows : List Listing) :
    Option (List Listing) :=
  if p.malformedRange then none
  else some (rows.filter fun l => applyPeriod now p l.columns.createdAt.date)

/-- The same parameters, asked of the other view. Only what both of them read
is compared. -/
def FilterParams.impact (p : FilterParams) (status : String) (period : Option String) :
    ImpactParams where
  status := status
  filterType := p.filterType
  period := period
  customStart := p.customStart
  customEnd := p.customEnd

/-- The same rows, as the other view sees them. -/
def Board.impactStore (s : Board) (predictions : Table Prediction) : ImpactStore where
  db := s.db
  createdAt := fun id => (s.columns id).createdAt
  predictions := predictions

def filterTypes : List String :=
  ["today", "yesterday", "last_7_days", "last_30_days", "this_month", "last_month",
    "custom_range"]

section Filters

variable {now : Instant} {p : FilterParams} {q : ImpactParams} {rows : List Listing}
  {l : Listing} {type status : String} {period : Option String}

theorem filterIncidents_period (texts : Texts) :
    filterIncidents texts now.date p rows =
      match p.inPeriod now rows with
      | none => .crash
      | some rows =>
        let shown := rows.filter fun l => p.inScope l && p.inCountry texts l
        if p.paginated then paginateMarkers p shown else .markers (shown.map serializeMarker) := by
  unfold filterIncidents FilterParams.inPeriod
  cases p.malformedRange with
  | true => rfl
  | false =>
      have hfilter : rows.filter (p.selects texts now.date) =
          (rows.filter (p.inWindow now.date)).filter
            fun l => p.inScope l && p.inCountry texts l := by
        rw [List.filter_filter]
        refine List.filter_congr fun l _ => ?_
        unfold FilterParams.selects
        rw [Bool.and_right_comm]
      dsimp only
      rw [if_neg Bool.false_ne_true, if_neg Bool.false_ne_true, hfilter]

/-- The figures are about the incidents of the period that are not in the trash, and of the
organisation and the status. -/
theorem impactScope_period (s : Board) (predictions : Table Prediction)
    (org : Option OrganisationId) {shown : List Listing}
    (h : q.inPeriod now s.listings = some shown) :
    (s.impactStore predictions).impactScope now q org =
      (shown.map Listing.incident).filter fun row =>
        !row.isDeleted && (org.all fun org => (s.impactStore predictions).takenByMember org row) &&
          statusQ q.status (s.impactStore predictions).actedIds row := by
  unfold ImpactParams.inPeriod at h
  split at h
  · cases h
  · cases h
    have hshown : (s.listings.filter fun l => applyPeriod now q l.columns.createdAt.date).map
        Listing.incident = s.db.incidents.rows.filter fun row =>
          applyPeriod now q (s.columns row.id).createdAt.date := by
      unfold Board.listings
      rw [List.filter_map, List.map_map]
      exact List.map_id' _
    rw [hshown, List.filter_filter]
    refine List.filter_congr fun row _ => ?_
    unfold ImpactStore.scopeQ ImpactStore.baseQ Board.impactStore
    ac_rfl

theorem window_impact (htype : type ∈ filterTypes) (hp : p.filterType = some type) :
    (p.impact status period).window = some type := by
  have hne : type ≠ "" := by
    rintro rfl
    exact absurd htype (by decide)
  have hpresent : presentText (some type) = some type := if_neg hne
  unfold ImpactParams.window FilterParams.impact
  rw [hp, hpresent, Option.some_or]

theorem malformedRange_impact (htype : type ∈ filterTypes) (hp : p.filterType = some type) :
    (p.impact status period).malformedRange = p.malformedRange := by
  unfold ImpactParams.malformedRange FilterParams.malformedRange
  rw [window_impact htype hp, hp]
  rfl

/-- In all but the months, the filters are the same. -/
theorem applyPeriod_impact (htype : type ∈ filterTypes) (hp : p.filterType = some type)
    (hmonth : now.date.monthOf (some type) = none) (l : Listing) :
    applyPeriod now (p.impact status period) l.columns.createdAt.date = p.inWindow now.date l := by
  unfold applyPeriod FilterParams.inWindow
  rw [window_impact htype hp, hp]
  simp only [filterTypes, List.mem_cons, List.not_mem_nil, or_false] at htype
  rcases htype with rfl | rfl | rfl | rfl | rfl | rfl | rfl
  case inr.inr.inr.inr.inl => cases hmonth
  case inr.inr.inr.inr.inr.inl => cases hmonth
  all_goals rfl

theorem applyPeriod_month {month : Int} (htype : type ∈ filterTypes)
    (hp : p.filterType = some type) (hmonth : now.date.monthOf (some type) = some month)
    (d : Date) :
    applyPeriod now (p.impact status period) d = decide (d.monthIndex = month) := by
  have hbounds := now.date.month_bounds
  unfold applyPeriod
  rw [window_impact htype hp]
  rcases Date.monthOf_eq_some hmonth with ⟨rfl, rfl⟩ | ⟨rfl, rfl⟩
  · exact decide_eq_decide.mpr (Date.monthIndex_eq_iff hbounds.1 hbounds.2).symm
  · refine decide_eq_decide.mpr ?_
    rw [← Date.monthIndex_eq_iff (by split <;> omega) (by split <;> omega)]
    unfold Date.monthIndex
    split <;> split <;> omega

theorem inWindow_month {month : Int} (hp : p.filterType = some type)
    (hmonth : now.date.monthOf (some type) = some month) (l : Listing) :
    p.inWindow now.date l =
      decide (l.columns.createdAt.date.monthIndex % 12 = month % 12) := by
  have hbounds := now.date.month_bounds
  unfold FilterParams.inWindow
  rw [hp]
  rcases Date.monthOf_eq_some hmonth with ⟨rfl, rfl⟩ | ⟨rfl, rfl⟩
  · refine decide_eq_decide.mpr ?_
    rw [← Date.monthIndex_emod hbounds.1 hbounds.2]
    unfold Date.monthIndex
    omega
  · refine decide_eq_decide.mpr ?_
    rw [← Date.monthIndex_emod (by split <;> omega) (by split <;> omega)]
    unfold Date.monthIndex
    split <;> omega

theorem malformedRange_month {month : Int} (hp : p.filterType = some type)
    (hmonth : now.date.monthOf (some type) = some month) : p.malformedRange = false := by
  refine decide_eq_false fun h => ?_
  have hcustom : type = "custom_range" := Option.some.inj (hp.symm.trans h.1)
  rcases Date.monthOf_eq_some hmonth with ⟨rfl, -⟩ | ⟨rfl, -⟩
  · exact absurd hcustom (by decide)
  · exact absurd hcustom (by decide)

theorem inPeriod_month {month : Int} (htype : type ∈ filterTypes)
    (hp : p.filterType = some type) (hmonth : now.date.monthOf (some type) = some month) :
    p.inPeriod now rows = some (rows.filter fun l =>
        decide (l.columns.createdAt.date.monthIndex % 12 = month % 12)) ∧
      (p.impact status period).inPeriod now rows = some (rows.filter fun l =>
        decide (l.columns.createdAt.date.monthIndex = month)) := by
  have hrange := malformedRange_month hp hmonth
  unfold FilterParams.inPeriod ImpactParams.inPeriod
  rw [malformedRange_impact htype hp, hrange, if_neg Bool.false_ne_true,
    if_neg Bool.false_ne_true]
  constructor
  · exact congrArg some (List.filter_congr fun l _ => inWindow_month hp hmonth l)
  · exact congrArg some (List.filter_congr fun l _ => applyPeriod_month htype hp hmonth _)

end Filters

/-! ## Where they agree -/

/-- Both views select the same of the incidents; where the filter type names a month, those
of the month. -/
structure PeriodsAgree (now : Instant) (p : FilterParams) (q : ImpactParams)
    (rows : List Listing) : Prop where
  same : p.inPeriod now rows = q.inPeriod now rows
  month : ∀ month, now.date.monthOf p.filterType = some month →
    p.inPeriod now rows =
      some (rows.filter fun l => decide (l.columns.createdAt.date.monthIndex = month))

/-- A filter by the month is one by the month of one year when the rows are. -/
theorem filter_month_iff {rows : List Listing} {month : Int} :
    (rows.filter fun l => decide (l.columns.createdAt.date.monthIndex % 12 = month % 12)) =
        (rows.filter fun l => decide (l.columns.createdAt.date.monthIndex = month)) ↔
      ∀ l ∈ rows, ¬ l.columns.createdAt.date.OtherYear month := by
  constructor
  · intro h l hl ⟨hname, hother⟩
    have hmem : l ∈ rows.filter fun l =>
        decide (l.columns.createdAt.date.monthIndex % 12 = month % 12) :=
      List.mem_filter.mpr ⟨hl, decide_eq_true hname⟩
    rw [h] at hmem
    exact hother (of_decide_eq_true (List.mem_filter.mp hmem).2)
  · intro h
    refine List.filter_congr fun l hl => decide_eq_decide.mpr ⟨fun hname => ?_, fun heq => ?_⟩
    · exact Decidable.byContradiction fun hother => h l hl ⟨hname, hother⟩
    · rw [heq]

/-- The filters agree, unless a month is asked for and there are incidents of
the same month of another year. The other filter types are read alike by both
views, at any `now`. -/
theorem periods_agree_iff (now : Instant) (s : Board) (p : FilterParams) (status : String)
    (period : Option String) {type : String} (hp : p.filterType = some type)
    (htype : type ∈ filterTypes) :
    PeriodsAgree now p (p.impact status period) s.listings ↔
      ∀ month, now.date.monthOf (some type) = some month →
        ∀ l ∈ s.listings, ¬ l.columns.createdAt.date.OtherYear month := by
  cases hmonth : now.date.monthOf (some type) with
  | none =>
      refine iff_of_true ⟨?_, fun month h => ?_⟩ fun month h => by cases h
      · unfold FilterParams.inPeriod ImpactParams.inPeriod
        rw [malformedRange_impact htype hp]
        have hsame : s.listings.filter (p.inWindow now.date) = s.listings.filter fun l =>
            applyPeriod now (p.impact status period) l.columns.createdAt.date :=
          List.filter_congr fun l _ => (applyPeriod_impact htype hp hmonth l).symm
        rw [hsame]
      · rw [hp, hmonth] at h
        cases h
  | some month =>
      obtain ⟨hmap, himpact⟩ := @inPeriod_month now p s.listings type status period month htype hp
        hmonth
      constructor
      · intro h month' hmonth'
        cases hmonth'
        have hone := h.month month (by rw [hp, hmonth])
        rw [hmap] at hone
        exact filter_month_iff.mp (Option.some.inj hone)
      · intro h
        have hone := filter_month_iff.mpr (h month rfl)
        refine ⟨by rw [hmap, himpact, hone], fun month' hmonth' => ?_⟩
        rw [hp, hmonth] at hmonth'
        cases hmonth'
        rw [hmap, hone]

def boardOf (d : Date) : Board where
  db := Db.start [] [] (.new 1 none "Bamako" "")
  columns := fun _ => (Listing.reported 1 "Bamako" (days d)).columns

def lastMonth : FilterParams := { FilterParams.all with filterType := some "last_month" }

theorem periods_agree_january :
    PeriodsAgree (days 20103) lastMonth (lastMonth.impact "all" none) (boardOf 20067).listings := by
  refine (periods_agree_iff (days 20103) (boardOf 20067) lastMonth "all" none rfl
    (by decide)).mpr fun month hmonth l hl => ?_
  cases hmonth
  obtain rfl := List.mem_singleton.mp hl
  exact fun h => absurd h.2 (by decide)

/-- One of December 2023 is on the map as well. -/
theorem periods_disagree :
    ¬ PeriodsAgree (days 20103) lastMonth (lastMonth.impact "all" none)
      (boardOf 19701).listings := by
  intro h
  have hlength := congrArg (Option.map List.length) h.same
  exact absurd hlength (by decide)

end Mapapi
