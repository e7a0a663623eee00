import Mapapi.TaskWrites

/-!
# The progress as a percentage

`update_progress` rounds the share of confirmed tasks that are done to a whole percentage.
So it says 0 before the first task is done and 100 after the last one, and also where the
share is within half a percent of these: from 200 tasks on, an incident may be at 100 %
with tasks left.
-/

namespace Mapapi

open Lib

/-! ## Rounding -/

section Rounding

variable {n n' d k : Nat}

theorem div_le_roundHalfEven : n / d ≤ roundHalfEven n d ∧ roundHalfEven n d ≤ n / d + 1 := by
  unfold roundHalfEven
  split
  · omega
  · split
    · omega
    · split <;> omega

theorem roundHalfEven_le_iff (hd : 0 < d) (hk : k % 2 = 0) :
    roundHalfEven n d ≤ k ↔ 2 * n ≤ (2 * k + 1) * d := by
  have hn : d * (n / d) + n % d = n := Nat.div_add_mod n d
  have hlt : n % d < d := Nat.mod_lt n hd
  have hhalf : (2 * k + 1) * d = 2 * (d * k) + d := by grind
  rcases Nat.lt_trichotomy (n / d) k with hbelow | heq | habove
  · have hmul : d * (n / d) + d ≤ d * k := Nat.mul_le_mul_left d hbelow
    refine iff_of_true (Nat.le_trans div_le_roundHalfEven.2 hbelow) ?_
    omega
  · rw [heq] at hn
    unfold roundHalfEven
    rw [heq]
    split
    · omega
    · split
      · omega
      · omega
  · have hmul : d * k + d ≤ d * (n / d) := Nat.mul_le_mul_left d habove
    have hle := @div_le_roundHalfEven n d
    omega

/-- It is reached from the half before it on. -/
theorem le_roundHalfEven_iff (hd : 0 < d) (hk : k % 2 = 0) :
    k ≤ roundHalfEven n d ↔ 2 * k * d ≤ 2 * n + d := by
  have hn : d * (n / d) + n % d = n := Nat.div_add_mod n d
  have hlt : n % d < d := Nat.mod_lt n hd
  have hhalf : 2 * k * d = 2 * (d * k) := by grind
  rcases Nat.lt_trichotomy (n / d + 1) k with hbelow | heq | habove
  · have hmul : d * (n / d + 1) + d ≤ d * k := Nat.mul_le_mul_left d hbelow
    have hnext : d * (n / d + 1) = d * (n / d) + d := Nat.mul_add_one ..
    have hle := @div_le_roundHalfEven n d
    omega
  · have hmul : d * k = d * (n / d) + d := by rw [← heq, Nat.mul_add_one]
    unfold roundHalfEven
    split
    · omega
    · split
      · omega
      · rw [if_neg (by omega)]
        omega
  · have hmul : d * k ≤ d * (n / d) := Nat.mul_le_mul_left d (Nat.le_of_lt_succ habove)
    have hle := @div_le_roundHalfEven n d
    omega

theorem roundHalfEven_mono (h : n ≤ n') :
    roundHalfEven n d ≤ roundHalfEven n' d := by
  have hn : d * (n / d) + n % d = n := Nat.div_add_mod n d
  have hn' : d * (n' / d) + n' % d = n' := Nat.div_add_mod n' d
  rcases Nat.lt_or_eq_of_le (Nat.div_le_div_right (c := d) h) with hlt | heq
  · calc roundHalfEven n d ≤ n / d + 1 := div_le_roundHalfEven.2
      _ ≤ n' / d := hlt
      _ ≤ roundHalfEven n' d := div_le_roundHalfEven.1
  · have hmod : n % d ≤ n' % d := by
      rw [← heq] at hn'
      omega
    unfold roundHalfEven
    rw [← heq]
    grind

end Rounding

/-! ## The percentage of done tasks -/

section Percentage

variable {n d d' : Nat}

theorem percentage_le (hn : 0 < n) (hd : d ≤ n) : roundHalfEven (d * 100) n ≤ 100 := by
  rw [roundHalfEven_le_iff hn (by decide)]
  omega

theorem percentage_eq_zero_iff (hn : 0 < n) :
    roundHalfEven (d * 100) n = 0 ↔ 200 * d ≤ n := by
  rw [← Nat.le_zero, roundHalfEven_le_iff hn (by decide)]
  omega

theorem percentage_eq_hundred_iff (hn : 0 < n) (hd : d ≤ n) :
    roundHalfEven (d * 100) n = 100 ↔ 200 * (n - d) ≤ n := by
  have hle := percentage_le hn hd
  have hreached := le_roundHalfEven_iff (n := d * 100) hn (show 100 % 2 = 0 by decide)
  omega

end Percentage

theorem doneTasks_le (db : Db) (i : IncidentId) :
    (db.doneTasks i).length ≤ (db.confirmedTasks i).length := by
  unfold Db.doneTasks Db.confirmedTasks Table.select
  rw [← List.countP_eq_length_filter, ← List.countP_eq_length_filter]
  refine List.countP_mono_left fun task _ h => ?_
  obtain ⟨hincident, hconfirmed, -⟩ := of_decide_eq_true h
  exact decide_eq_true ⟨hincident, hconfirmed⟩

/-- The percentage is one, grows with the tasks that are done, and is 0 or 100 within half a
percent of these; so it is so only at the ends when there are fewer than 200 tasks. An
incident that is not resolved shows 100 % when it has tasks and at most one in 200 is left. -/
theorem percentage_of_tasks :
    (∀ n d, 0 < n → d ≤ n →
      roundHalfEven (d * 100) n ≤ 100 ∧
      (∀ d', d ≤ d' → roundHalfEven (d * 100) n ≤ roundHalfEven (d' * 100) n) ∧
      (roundHalfEven (d * 100) n = 0 ↔ 200 * d ≤ n) ∧
      (roundHalfEven (d * 100) n = 100 ↔ 200 * (n - d) ≤ n) ∧
      (n < 200 → (roundHalfEven (d * 100) n = 0 ↔ d = 0) ∧
        (roundHalfEven (d * 100) n = 100 ↔ d = n))) ∧
    ∀ (db : Db) (incident : Incident), incident.isFinished = false →
      (db.computedProgress incident = 100 ↔
        0 < (db.confirmedTasks incident.id).length ∧
          200 * ((db.confirmedTasks incident.id).length - (db.doneTasks incident.id).length) ≤
            (db.confirmedTasks incident.id).length) := by
  constructor
  · intro n d hn hd
    have hzero := percentage_eq_zero_iff (d := d) hn
    have hhundred := percentage_eq_hundred_iff hn hd
    refine ⟨percentage_le hn hd, fun d' h => ?_, hzero, hhundred, fun hfew => ?_⟩
    · exact roundHalfEven_mono (Nat.mul_le_mul_right 100 h)
    · omega
  · intro db incident hopen
    unfold Db.computedProgress
    rw [hopen, if_neg Bool.false_ne_true]
    split
    · rename_i hnone
      omega
    · rename_i hsome
      rw [percentage_eq_hundred_iff (Nat.pos_of_ne_zero hsome) (doneTasks_le db incident.id)]
      exact (and_iff_right (Nat.pos_of_ne_zero hsome)).symm

/-- One task of 200 that is done does not show, and one that is left does not either. -/
theorem percentage_not_exact :
    ¬ ∀ n d, 0 < n → d ≤ n → (roundHalfEven (d * 100) n = 0 ↔ d = 0) ∧
      (roundHalfEven (d * 100) n = 100 ↔ d = n) := by
  intro h
  exact absurd ((h 200 199 (by decide) (by decide)).2.mp (by decide)) (by decide)

end Mapapi
