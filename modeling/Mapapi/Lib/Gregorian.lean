import Mathlib.Init

/-!
# The Gregorian calendar by division

Days are counted from the first of March of the year 0, and years begin in March, so that
a leap day is the last day of a year and the months have the same lengths in every year.
The year of a day is found by dividing: first by the 146097 days of 400 years, then within
these years by 365, less the leap days before.

`yearStart_le` and `lt_yearStart` say that this is the year the day is in. The rest follows
from what the next day can be (`dayOfMonth_succ`).
-/

namespace Lib

/-- The first day of the year. -/
def yearStart (y : Int) : Int := 365 * y + y / 4 - y / 100 + y / 400

/-- The year within 400 years, of the day `n` of these. -/
def yearOfEra (n : Int) : Int := (n - n / 1460 + n / 36524 - n / 146096) / 365

def yearOf (z : Int) : Int := yearOfEra (z % 146097) + z / 146097 * 400

/-- The day in its year; the first one is 0. -/
def dayOfYear (z : Int) : Int := z - yearStart (yearOf z)

/-- The month of the day `n` of a year; March is 0. -/
def monthOfYear (n : Int) : Int := (5 * n + 2) / 153

/-- The day of the month, of the day `n` of a year; the first one is 1. -/
def dayOfMonth (n : Int) : Int := n - (153 * monthOfYear n + 2) / 5 + 1

/-! ## Years -/

section Years

variable {n y y' z : Int}

theorem yearOfEra_bounds (hn : 0 ≤ n) (hn' : n < 146097) : 0 ≤ yearOfEra n ∧ yearOfEra n < 400 := by
  unfold yearOfEra
  omega

/-- Centuries and the last day are taken one by one: what remains is linear. -/
theorem yearOfEra_spec (hn : 0 ≤ n) (hn' : n < 146097) :
    yearStart (yearOfEra n) ≤ n ∧ n < yearStart (yearOfEra n + 1) := by
  obtain ⟨hy, hy'⟩ := yearOfEra_bounds hn hn'
  have hdef : yearOfEra n = (n - n / 1460 + n / 36524 - n / 146096) / 365 := rfl
  generalize yearOfEra n = y at hy hy' hdef
  unfold yearStart
  have hera : y / 400 = 0 := by omega
  have hcentury : y / 100 = 0 ∨ y / 100 = 1 ∨ y / 100 = 2 ∨ y / 100 = 3 := by omega
  have hquarter : n / 36524 = 0 ∨ n / 36524 = 1 ∨ n / 36524 = 2 ∨ n / 36524 = 3 ∨
      n / 36524 = 4 := by omega
  have hnext : (y + 1) / 100 = y / 100 ∧ (y + 1) / 400 = 0 ∨ y = 99 ∨ y = 199 ∨ y = 299 ∨
      y = 399 := by omega
  rcases (by omega : n / 146096 = 0 ∨ n = 146096) with hlast | rfl
  · constructor
    · rcases hquarter with h | h | h | h | h <;> rcases hcentury with h' | h' | h' | h' <;> omega
    · rcases hnext with ⟨h, h'⟩ | rfl | rfl | rfl | rfl
      · rw [h, h']
        rcases hquarter with h | h | h | h | h <;> rcases hcentury with h' | h' | h' | h' <;> omega
      all_goals omega
  · omega

theorem yearStart_add_era (y k : Int) : yearStart (y + k * 400) = yearStart y + k * 146097 := by
  unfold yearStart
  omega

theorem yearStart_le (z : Int) : yearStart (yearOf z) ≤ z := by
  have h := (yearOfEra_spec (n := z % 146097) (by omega) (by omega)).1
  unfold yearOf
  rw [yearStart_add_era]
  omega

theorem lt_yearStart (z : Int) : z < yearStart (yearOf z + 1) := by
  have h := (yearOfEra_spec (n := z % 146097) (by omega) (by omega)).2
  unfold yearOf
  rw [show yearOfEra (z % 146097) + z / 146097 * 400 + 1 =
    yearOfEra (z % 146097) + 1 + z / 146097 * 400 by omega, yearStart_add_era]
  omega

theorem yearStart_succ (y : Int) :
    yearStart y + 365 ≤ yearStart (y + 1) ∧ yearStart (y + 1) ≤ yearStart y + 366 := by
  unfold yearStart
  omega

theorem yearStart_mono (h : y ≤ y') : yearStart y ≤ yearStart y' := by
  unfold yearStart
  omega

theorem yearOf_eq (h : yearStart y ≤ z) (h' : z < yearStart (y + 1)) : yearOf z = y := by
  have hle := yearStart_le z
  have hlt := lt_yearStart z
  refine Decidable.byContradiction fun hne => ?_
  rcases Int.lt_or_gt_of_ne hne with hbefore | hafter
  · have := yearStart_mono (Int.add_one_le_of_lt hbefore)
    omega
  · have := yearStart_mono (Int.add_one_le_of_lt hafter)
    omega

theorem dayOfYear_bounds (z : Int) : 0 ≤ dayOfYear z ∧ dayOfYear z ≤ 365 := by
  have hle := yearStart_le z
  have hlt := lt_yearStart z
  have hlength := yearStart_succ (yearOf z)
  unfold dayOfYear
  omega

theorem dayOfYear_succ (z : Int) :
    dayOfYear (z + 1) = dayOfYear z + 1 ∨ dayOfYear (z + 1) = 0 ∧ 364 ≤ dayOfYear z := by
  have hle := yearStart_le z
  have hlt := lt_yearStart z
  have hlength := yearStart_succ (yearOf z)
  have hnext := yearStart_succ (yearOf z + 1)
  unfold dayOfYear
  by_cases hlast : z + 1 < yearStart (yearOf z + 1)
  · rw [yearOf_eq (Int.le_trans hle (by omega)) hlast]
    omega
  · rw [yearOf_eq (y := yearOf z + 1) (z := z + 1) (by omega) (by omega)]
    omega

end Years

/-! ## Months -/

section Months

variable {k z : Int}

theorem monthOfYear_bounds (z : Int) :
    0 ≤ monthOfYear (dayOfYear z) ∧ monthOfYear (dayOfYear z) ≤ 11 := by
  have h := dayOfYear_bounds z
  unfold monthOfYear
  omega

/-- Within a year; the months are taken one by one. -/
theorem dayOfMonth_next {n : Int} (hn : 0 ≤ n) (hn' : n < 365) :
    dayOfMonth (n + 1) = dayOfMonth n + 1 ∨ dayOfMonth (n + 1) = 1 ∧ 28 ≤ dayOfMonth n := by
  have hmonth : monthOfYear n = 0 ∨ monthOfYear n = 1 ∨ monthOfYear n = 2 ∨ monthOfYear n = 3 ∨
      monthOfYear n = 4 ∨ monthOfYear n = 5 ∨ monthOfYear n = 6 ∨ monthOfYear n = 7 ∨
      monthOfYear n = 8 ∨ monthOfYear n = 9 ∨ monthOfYear n = 10 ∨ monthOfYear n = 11 := by
    unfold monthOfYear
    omega
  have hnext : monthOfYear (n + 1) = monthOfYear n ∨
      monthOfYear (n + 1) = monthOfYear n + 1 := by
    unfold monthOfYear
    omega
  have hdef : monthOfYear n = (5 * n + 2) / 153 := rfl
  have hdef' : monthOfYear (n + 1) = (5 * (n + 1) + 2) / 153 := rfl
  unfold dayOfMonth
  rcases hmonth with h | h | h | h | h | h | h | h | h | h | h | h <;>
    rcases hnext with h' | h' <;> rw [h', h] <;> omega

/-- The next day is the next one of the month, or the first one after at least 28. -/
theorem dayOfMonth_succ (z : Int) :
    dayOfMonth (dayOfYear (z + 1)) = dayOfMonth (dayOfYear z) + 1 ∨
      dayOfMonth (dayOfYear (z + 1)) = 1 ∧ 28 ≤ dayOfMonth (dayOfYear z) := by
  have hbounds := dayOfYear_bounds z
  have hnext := dayOfYear_bounds (z + 1)
  rcases dayOfYear_succ z with hsucc | ⟨hzero, hlast⟩
  · rw [hsucc]
    exact dayOfMonth_next hbounds.1 (by omega)
  · have hmonth : monthOfYear (dayOfYear z) = 11 := by
      unfold monthOfYear
      omega
    refine Or.inr ⟨by rw [hzero]; rfl, ?_⟩
    unfold dayOfMonth
    rw [hmonth]
    omega

/-- Days less than 28 apart have different days of the month. The induction is on how
far they are apart: until the month ends the day goes on, and then stays behind. -/
theorem dayOfMonth_add (z : Int) (k : Nat) :
    dayOfMonth (dayOfYear (z + k)) = dayOfMonth (dayOfYear z) + k ∨
      dayOfMonth (dayOfYear (z + k)) + 28 ≤ dayOfMonth (dayOfYear z) + k := by
  induction k with
  | zero => exact Or.inl (by simp)
  | succ k ih =>
      have hsucc := dayOfMonth_succ (z + k)
      rw [show z + (k + 1 : Nat) = z + k + 1 by omega]
      omega

theorem dayOfMonth_inj {y z : Int} (hle : y ≤ z) (hlt : z < y + 28)
    (h : dayOfMonth (dayOfYear y) = dayOfMonth (dayOfYear z)) : y = z := by
  have hadd := dayOfMonth_add y (z - y).toNat
  rw [show y + (z - y).toNat = z by omega] at hadd
  omega

end Months

end Lib
