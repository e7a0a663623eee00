import Mapapi.Refinement

/-!
# The anti-gel timer over an engagement

`revert_stale_taken_incidents` runs again and again on an engaged incident,
while the severity, which sets the deadline, may change between the runs. What
the flags still allow to be sent (`warningsDue`) only shrinks along the way: a
warning takes its own percentage out, the later one takes out both. So the
warnings of an engagement are among 75 % and 90 %, in this order. The incident
is reverted by the first run that finds the deadline passed, and left alone
from then on.

One run is described on the row of the incident and on its warnings
(`incidents_timerRun`, `warnings_timerRun`); the rest is an induction on the
list of runs (`Undisturbed`).
-/

namespace Mapapi

open Lib

/-! ## One run -/

/-- One run of the task that nothing interrupts. What else happens happens
between two runs. -/
def timerRun (now : Instant) (db : Db) : Db := ((revertStaleTakenIncidents now).run db).2

/-- The warnings about an incident that are stored, in the order in which they
were sent. -/
def warnings (i : IncidentId) (db : Db) : List Notification :=
  db.notifications.filter fun n =>
    decide (n.incident = some i ∧ n.notifType = .deadlineWarning)

/-- What a run makes of the row of one engaged incident. At 90 % both flags
are set, so that the first warning does not come after the second. -/
def timedRow (now since : Instant) (incident : Incident) : Incident :=
  match antigelVerdict now since incident with
  | .revert => incident.reverted
  | .warn90 => { incident with antigelWarned90 := true, antigelWarned75 := true }
  | .warn75 => { incident with antigelWarned75 := true }
  | .wait => incident

def warnedPct (now since : Instant) (incident : Incident) : Option Nat :=
  match antigelVerdict now since incident with
  | .warn90 => some 90
  | .warn75 => some 75
  | .revert | .wait => none

def warningSent (db : Db) (now since : Instant) (incident : Incident) : List Notification :=
  match warnedPct now since incident, db.user? incident.takenBy with
  | some pct, some leader => [antigelNotification incident leader.id pct]
  | _, _ => []

section Iteration

variable {db : Db} {now : Instant} {incident : Incident} {since : Instant} {i : IncidentId}

theorem get?_saveRead (inst : Incident) {columns : List Incident.Column}
    (hrow : db.incidents.get? inst.id = some incident) (hopen : inst.isFinished = false)
    (hcolumns : columns.foldl (Incident.Column.write inst) incident = inst) :
    (db.saveIncidentFields inst columns).incidents.get? inst.id = some inst := by
  rw [Db.incidents_saveIncidentFields hrow hcolumns, if_pos rfl, Incident.pinProgress, hopen]
  rfl

theorem incidents_notifyAntigelLeader (pct : Nat) :
    (notifyAntigelLeader incident pct db).incidents = db.incidents := by
  unfold notifyAntigelLeader
  split <;> rfl

theorem get?_revertStaleOne_self (hrow : db.incidents.get? incident.id = some incident)
    (hetat : incident.etat = .taken) :
    ((revertStaleOne now (incident, since)).run db).2.incidents.get? incident.id =
      some (timedRow now since incident) := by
  have hopen : incident.isFinished = false := by simp [Incident.isFinished, hetat]
  have hnotified (pct : Nat) :
      (notifyAntigelLeader incident pct db).incidents.get? incident.id = some incident := by
    rw [incidents_notifyAntigelLeader, hrow]
  rw [revertStaleOne_run, timedRow]
  cases antigelVerdict now since incident with
  | revert => exact get?_saveRead incident.reverted hrow rfl rfl
  | warn90 =>
      exact get?_saveRead
        { incident with antigelWarned90 := true, antigelWarned75 := true }
        (hnotified 90) hopen rfl
  | warn75 =>
      exact get?_saveRead { incident with antigelWarned75 := true } (hnotified 75) hopen
        rfl
  | wait => exact hrow

theorem get?_revertStaleOne_other (hi : incident.id ≠ i) :
    ((revertStaleOne now (incident, since)).run db).2.incidents.get? i =
      db.incidents.get? i := by
  have hsaved (db : Db) (inst : Incident) (columns : List Incident.Column)
      (hid : inst.id = incident.id) :
      (db.saveIncidentFields inst columns).incidents.get? i = db.incidents.get? i :=
    Db.incidents_saveIncidentFields_other (hid ▸ hi.symm)
  rw [revertStaleOne_run]
  cases antigelVerdict now since incident with
  | revert => exact hsaved db _ _ rfl
  | warn90 =>
      refine (hsaved (notifyAntigelLeader incident 90 db)
        { incident with antigelWarned90 := true, antigelWarned75 := true } _ rfl).trans ?_
      rw [incidents_notifyAntigelLeader]
  | warn75 =>
      refine (hsaved (notifyAntigelLeader incident 75 db)
        { incident with antigelWarned75 := true } _ rfl).trans ?_
      rw [incidents_notifyAntigelLeader]
  | wait => rfl

theorem users_revertStaleOne :
    ((revertStaleOne now (incident, since)).run db).2.users = db.users := by
  have hnotified (pct : Nat) : (notifyAntigelLeader incident pct db).users = db.users := by
    unfold notifyAntigelLeader
    split <;> rfl
  rw [revertStaleOne_run]
  cases antigelVerdict now since incident with
  | revert => rfl
  | warn90 => exact hnotified 90
  | warn75 => exact hnotified 75
  | wait => rfl

theorem notifications_revertStaleOne :
    ((revertStaleOne now (incident, since)).run db).2.notifications =
      db.notifications ++ warningSent db now since incident := by
  have hnotified (pct : Nat) : (notifyAntigelLeader incident pct db).notifications =
      db.notifications ++ (db.user? incident.takenBy).toList.map fun leader =>
        antigelNotification incident leader.id pct := by
    unfold notifyAntigelLeader
    cases db.user? incident.takenBy with
    | none => exact (List.append_nil _).symm
    | some leader => rfl
  rw [revertStaleOne_run, warningSent, warnedPct]
  cases antigelVerdict now since incident with
  | revert => exact (List.append_nil _).symm
  | warn90 =>
      refine (hnotified 90).trans ?_
      cases db.user? incident.takenBy <;> rfl
  | warn75 =>
      refine (hnotified 75).trans ?_
      cases db.user? incident.takenBy <;> rfl
  | wait => exact (List.append_nil _).symm

end Iteration

section Run

variable {db : Db} {now : Instant} {incident : Incident} {since : Instant} {i : IncidentId}

theorem timerRun_eq :
    timerRun now db = (db.incidents.rows.filterMap engagedSince).foldl
      (fun db r => ((revertStaleOne now r).run db).2) db := by
  unfold timerRun revertStaleTakenIncidents
  simp only [Prog.run_bind, Prog.run_read, Prog.run_forEach, Prog.run_pure]

theorem mem_engaged {r : Incident × Instant}
    (h : r ∈ db.incidents.rows.filterMap engagedSince) :
    db.incidents.get? r.1.id = some r.1 ∧ engagedSince r.1 = some r := by
  obtain ⟨row, hmem, hrow⟩ := List.mem_filterMap.mp h
  obtain ⟨rfl, -, -⟩ : row = r.1 ∧ _ := engagedSince_eq_some hrow
  exact ⟨Table.get?_of_mem hmem, hrow⟩

theorem nodup_engaged :
    ((db.incidents.rows.filterMap engagedSince).map fun r => r.1.id).Nodup :=
  db.incidents.nodup_filterMap fun row r hr => by
    rw [show row = r.1 from (engagedSince_eq_some hr).1]
    rfl

theorem warnings_revertStaleOne_other (hi : incident.id ≠ i) :
    warnings i ((revertStaleOne now (incident, since)).run db).2 = warnings i db := by
  have hsent : (warningSent db now since incident).filter (fun n =>
      decide (n.incident = some i ∧ n.notifType = .deadlineWarning)) = [] := by
    rw [List.filter_eq_nil_iff]
    intro n hn
    unfold warningSent at hn
    split at hn
    · rw [List.mem_singleton.mp hn]
      simp [antigelNotification, hi]
    · cases hn
  rw [warnings, notifications_revertStaleOne, List.filter_append, hsent, List.append_nil]
  rfl

theorem warnings_revertStaleOne_self :
    warnings incident.id ((revertStaleOne now (incident, since)).run db).2 =
      warnings incident.id db ++ warningSent db now since incident := by
  have hsent : (warningSent db now since incident).filter (fun n =>
      decide (n.incident = some incident.id ∧ n.notifType = .deadlineWarning)) =
        warningSent db now since incident := by
    rw [List.filter_eq_self]
    intro n hn
    unfold warningSent at hn
    split at hn
    · rw [List.mem_singleton.mp hn]
      simp [antigelNotification]
    · cases hn
  rw [warnings, notifications_revertStaleOne, List.filter_append, hsent]
  rfl

/-- A run on an engaged incident: its row and its warnings. The other
incidents of the run write their own rows and warn about themselves, so they
drop out here and the rest of the file is about one row. -/
theorem timerRun_engaged (now : Instant) (hinc : db.incidents.get? i = some incident)
    (hetat : incident.etat = .taken) (hsince : incident.takenInChargeAt = some since) :
    (timerRun now db).incidents.get? i = some (timedRow now since incident) ∧
      warnings i (timerRun now db) = warnings i db ++ warningSent db now since incident := by
  have hid : incident.id = i := Table.key_of_get? hinc
  subst hid
  have hmem : (incident, since) ∈ db.incidents.rows.filterMap engagedSince :=
    List.mem_filterMap.mpr ⟨incident, Table.mem_of_get? hinc, by simp [engagedSince, hetat, hsince]⟩
  obtain ⟨db₁, husers, hsame, hend⟩ := foldl_at (I := fun db' : Db => db'.users = db.users)
    (fun (db : Db) (r : Incident × Instant) => ((revertStaleOne now r).run db).2)
    (fun db' : Db => (db'.incidents.get? incident.id, warnings incident.id db'))
    (fun r : Incident × Instant => r.1.id) (b := (incident, since)) (s := db)
    (fun db' r h => users_revertStaleOne.trans h)
    (fun db' r _ _ hne => Prod.ext (get?_revertStaleOne_other hne)
      (warnings_revertStaleOne_other hne)) nodup_engaged hmem rfl
  rw [timerRun_eq]
  obtain ⟨hrow, hwarned⟩ := Prod.mk.inj hsame
  obtain ⟨hrow', hwarned'⟩ := Prod.mk.inj hend
  rw [hrow', hwarned', get?_revertStaleOne_self (hrow.trans hinc) hetat,
    warnings_revertStaleOne_self, hwarned]
  have hleader : db₁.user? incident.takenBy = db.user? incident.takenBy := by
    unfold Db.user?
    rw [husers]
  refine ⟨rfl, ?_⟩
  unfold warningSent
  rw [hleader]

theorem timerRun_idle (hinc : db.incidents.get? i = some incident)
    (hidle : engagedSince incident = none) :
    (timerRun now db).incidents.get? i = some incident ∧
      warnings i (timerRun now db) = warnings i db := by
  have hother : ∀ r ∈ db.incidents.rows.filterMap engagedSince, r.1.id ≠ i := by
    rintro r hr rfl
    obtain ⟨hget, hsome⟩ := mem_engaged hr
    cases hget.symm.trans hinc
    rw [hidle] at hsome
    cases hsome
  have hsame := foldl_never (I := fun _ => True)
    (fun (db : Db) (r : Incident × Instant) => ((revertStaleOne now r).run db).2)
    (fun db' : Db => (db'.incidents.get? i, warnings i db')) (s := db)
    (fun _ _ _ => trivial)
    (fun db' r hr _ => Prod.ext (get?_revertStaleOne_other (hother r hr))
      (warnings_revertStaleOne_other (hother r hr))) trivial
  rw [timerRun_eq]
  obtain ⟨hrow, hwarned⟩ := Prod.mk.inj hsame
  exact ⟨hrow.trans hinc, hwarned⟩

end Run

/-! ## The branches -/

section Verdict

variable {now since : Instant} {incident : Incident}

theorem antigelVerdict_eq_revert :
    antigelVerdict now since incident = .revert ↔
      days (antigelDeadlineDays incident.severity) ≤ now - since := by
  unfold antigelVerdict
  dsimp only
  split
  · rename_i h
    simpa using h
  · rename_i h
    split
    · simpa using h
    · split <;> simpa using h

theorem antigelVerdict_eq_warn90 (h : antigelVerdict now since incident = .warn90) :
    9 * days (antigelDeadlineDays incident.severity) ≤ 10 * (now - since) ∧
      incident.antigelWarned90 = false := by
  unfold antigelVerdict at h
  dsimp only at h
  split at h
  · cases h
  · split at h
    · assumption
    · split at h <;> cases h

theorem antigelVerdict_eq_warn75 (h : antigelVerdict now since incident = .warn75) :
    3 * days (antigelDeadlineDays incident.severity) ≤ 4 * (now - since) ∧
      incident.antigelWarned75 = false := by
  unfold antigelVerdict at h
  dsimp only at h
  split at h
  · cases h
  · split at h
    · cases h
    · split at h
      · assumption
      · cases h

theorem warnedPct_reached {pct : Nat} (h : warnedPct now since incident = some pct) :
    pct * days (antigelDeadlineDays incident.severity) ≤ 100 * (now - since) := by
  unfold warnedPct at h
  split at h
  · rename_i hverdict
    cases h
    have := (antigelVerdict_eq_warn90 hverdict).1
    push_cast
    omega
  · rename_i hverdict
    cases h
    have := (antigelVerdict_eq_warn75 hverdict).1
    push_cast
    omega
  · cases h
  · cases h

/-- The percentages that may still be warned about. The list only shrinks,
which is why no warning is sent twice, and a warning at 90 % empties it. -/
def warningsDue (incident : Incident) : List Nat :=
  if incident.etat = .taken then
    (if incident.antigelWarned75 then [] else [75]) ++
      (if incident.antigelWarned90 then [] else [90])
  else []

/-- What a run warns about was due, and is not due any more. -/
theorem warningsDue_timedRow (now since : Instant) (hetat : incident.etat = .taken) :
    ((warnedPct now since incident).toList ++ warningsDue (timedRow now since incident)).Sublist
      (warningsDue incident) := by
  unfold warnedPct timedRow
  cases hverdict : antigelVerdict now since incident with
  | revert => exact List.nil_sublist _
  | warn90 =>
      have hdue := (antigelVerdict_eq_warn90 hverdict).2
      simp only [warningsDue, hetat, hdue, if_true, Bool.false_eq_true, if_false]
      exact List.sublist_append_right _ _
  | warn75 =>
      have hdue := (antigelVerdict_eq_warn75 hverdict).2
      simp only [warningsDue, hetat, hdue, if_true, Bool.false_eq_true, if_false]
      exact List.Sublist.refl _
  | wait => exact List.Sublist.refl _

end Verdict

/-! ## Any number of runs

The severity may be edited between two runs, so the deadline is read anew by
each of them. Only what the timer itself writes has to be left alone in
between (`Undisturbed`): the engagement fields and the two flags. -/

structure TimerRound where
  store : Db
  now : Instant

namespace TimerRound

variable (round : TimerRound)

def after : Db := timerRun round.now round.store

/-- The warnings of this round: what the run has appended to those there were. -/
def sent (i : IncidentId) : List Notification :=
  (warnings i round.after).drop (warnings i round.store).length

/-- The deadline is that of the severity as it is at this run; raising the
severity of an incident shortens a delay that is already running. -/
def Expired (i : IncidentId) (since : Instant) : Prop :=
  ∃ incident, round.store.incidents.get? i = some incident ∧
    days (antigelDeadlineDays incident.severity) ≤ round.now - since

def Warns (i : IncidentId) (pct : Nat) (n : Notification) : Prop :=
  ∃ incident since leader, round.store.incidents.get? i = some incident ∧
    incident.takenInChargeAt = some since ∧
    round.store.user? incident.takenBy = some leader ∧
    pct * days (antigelDeadlineDays incident.severity) ≤ 100 * (round.now - since) ∧
    n = antigelNotification incident leader.id pct

end TimerRound

/-- The engagement fields and the flags of two rows agree. The severity may
differ. -/
structure SameEngagement (row row' : Incident) : Prop where
  etat : row'.etat = row.etat
  takenBy : row'.takenBy = row.takenBy
  mode : row'.takeInChargeMode = row.takeInChargeMode
  since : row'.takenInChargeAt = row.takenInChargeAt
  warned75 : row'.antigelWarned75 = row.antigelWarned75
  warned90 : row'.antigelWarned90 = row.antigelWarned90

/-- The rounds follow on the store: between two runs, anything may have changed but
the engagement fields and the flags of `i`. -/
def Undisturbed (i : IncidentId) (db : Db) : List TimerRound → Prop
  | [] => True
  | round :: rest =>
    (∃ row row', db.incidents.get? i = some row ∧ round.store.incidents.get? i = some row' ∧
      SameEngagement row row') ∧ Undisturbed i round.after rest

section Rounds

variable {i : IncidentId} {db : Db} {round : TimerRound} {row incident : Incident}
  {since : Instant}

theorem sent_engaged (hinc : round.store.incidents.get? i = some incident)
    (hetat : incident.etat = .taken) (hsince : incident.takenInChargeAt = some since) :
    round.sent i = warningSent round.store round.now since incident := by
  rw [TimerRound.sent, TimerRound.after, (timerRun_engaged round.now hinc hetat hsince).2,
    List.drop_left]

theorem sent_idle (hinc : round.store.incidents.get? i = some incident)
    (hidle : engagedSince incident = none) : round.sent i = [] := by
  rw [TimerRound.sent, TimerRound.after, (timerRun_idle hinc hidle).2, List.drop_length]

theorem SameEngagement.warningsDue (h : SameEngagement row incident) :
    warningsDue incident = warningsDue row := by
  rw [Mapapi.warningsDue, Mapapi.warningsDue, h.etat, h.warned75, h.warned90]

def allSent (i : IncidentId) (rounds : List TimerRound) : List (TimerRound × Notification) :=
  rounds.flatMap fun round => (round.sent i).map fun n => (round, n)

/-- The warnings of any number of runs are among those that were due, in
order. The induction is on the list of runs, with what is due shrinking from
one to the next (`warningsDue_timedRow`). -/
theorem allSent_sublist (hrow : db.incidents.get? i = some row) (rounds : List TimerRound)
    (hrounds : Undisturbed i db rounds) :
    ∃ pcts : List Nat, pcts.Sublist (warningsDue row) ∧
      List.Forall₂ (fun sent pct => sent.1.Warns i pct sent.2) (allSent i rounds) pcts := by
  induction rounds generalizing db row with
  | nil => exact ⟨[], List.nil_sublist _, List.Forall₂.nil⟩
  | cons round rest ih =>
      obtain ⟨⟨row₀, incident, hrow₀, hinc, hsame⟩, hrest⟩ := hrounds
      cases hrow.symm.trans hrow₀
      rw [← hsame.warningsDue]
      cases hsince : engagedSince incident with
      | none =>
          obtain ⟨pcts, hdue, hwarns⟩ := ih (timerRun_idle hinc hsince).1 hrest
          refine ⟨pcts, hdue, ?_⟩
          rw [allSent, List.flatMap_cons, sent_idle hinc hsince]
          exact hwarns
      | some engaged =>
          obtain ⟨incident', since⟩ := engaged
          obtain ⟨rfl, hetat, hsince'⟩ := engagedSince_eq_some hsince
          obtain ⟨pcts, hdue, hwarns⟩ := ih (timerRun_engaged round.now hinc hetat hsince').1 hrest
          have hstep := warningsDue_timedRow round.now since hetat
          rw [allSent, List.flatMap_cons, sent_engaged hinc hetat hsince', warningSent]
          cases hpct : warnedPct round.now since incident with
          | none =>
              rw [hpct] at hstep
              exact ⟨pcts, hdue.trans hstep, hwarns⟩
          | some pct =>
              rw [hpct] at hstep
              cases hleader : round.store.user? incident.takenBy with
              | none => exact ⟨pcts, hdue.trans ((List.sublist_cons_self _ _).trans hstep), hwarns⟩
              | some leader =>
                  refine ⟨pct :: pcts, (hdue.cons_cons pct).trans hstep, ?_⟩
                  refine List.Forall₂.cons ?_ hwarns
                  exact ⟨incident, since, leader, hinc, hsince', hleader,
                    warnedPct_reached hpct, rfl⟩

/-- A run on an incident that went back to `declared` does nothing, and so do all
later ones. -/
theorem rests_of_declared (hrow : db.incidents.get? i = some row) (hetat : row.etat = .declared)
    (past : List TimerRound) (round : TimerRound) (rest : List TimerRound)
    (hrounds : Undisturbed i db (past ++ round :: rest)) :
    round.after.incidents.get? i = round.store.incidents.get? i ∧ round.sent i = [] := by
  induction past generalizing db row with
  | nil =>
      obtain ⟨⟨row₀, incident, hrow₀, hinc, hsame⟩, -⟩ := hrounds
      cases hrow.symm.trans hrow₀
      have hidle : engagedSince incident = none := by
        simp [engagedSince, hsame.etat, hetat]
      exact ⟨(timerRun_idle hinc hidle).1.trans hinc.symm, sent_idle hinc hidle⟩
  | cons earlier past ih =>
      obtain ⟨⟨row₀, incident, hrow₀, hinc, hsame⟩, hrest⟩ := hrounds
      cases hrow.symm.trans hrow₀
      have hidle : engagedSince incident = none := by
        simp [engagedSince, hsame.etat, hetat]
      exact ih (timerRun_idle hinc hidle).1 (hsame.etat.trans hetat) hrest

structure StillEngaged (start : Incident) (since : Instant) (row : Incident) : Prop where
  etat : row.etat = .taken
  takenBy : row.takenBy = start.takenBy
  mode : row.takeInChargeMode = start.takeInChargeMode
  since : row.takenInChargeAt = some since

theorem StillEngaged.of_same {start : Incident} (h : StillEngaged start since row)
    (hsame : SameEngagement row incident) : StillEngaged start since incident :=
  ⟨hsame.etat.trans h.etat, hsame.takenBy.trans h.takenBy, hsame.mode.trans h.mode,
    hsame.since.trans h.since⟩

structure Released (row : Incident) : Prop where
  etat : row.etat = .declared
  takenBy : row.takenBy = none
  mode : row.takeInChargeMode = none
  since : row.takenInChargeAt = none
  warned75 : row.antigelWarned75 = false
  warned90 : row.antigelWarned90 = false

theorem timedRow_expired {now : Instant}
    (h : days (antigelDeadlineDays incident.severity) ≤ now - since) :
    Released (timedRow now since incident) := by
  rw [timedRow, antigelVerdict_eq_revert.mpr h]
  exact ⟨rfl, rfl, rfl, rfl, rfl, rfl⟩

theorem timedRow_waits {now : Instant} {start : Incident}
    (hstill : StillEngaged start since incident)
    (h : ¬ days (antigelDeadlineDays incident.severity) ≤ now - since) :
    StillEngaged start since (timedRow now since incident) := by
  have hverdict := mt antigelVerdict_eq_revert.mp h
  unfold timedRow
  split
  · exact absurd ‹_› hverdict
  · exact ⟨hstill.etat, hstill.takenBy, hstill.mode, hstill.since⟩
  · exact ⟨hstill.etat, hstill.takenBy, hstill.mode, hstill.since⟩
  · exact hstill

/-- What a run does to an incident engaged at `since`, after the runs of `past`. -/
structure TimerStep (i : IncidentId) (start : Incident) (since : Instant)
    (past : List TimerRound) (round : TimerRound) : Prop where
  /-- Before the deadline the incident stays engaged. -/
  waits : (∀ earlier ∈ past, ¬ earlier.Expired i since) → ¬ round.Expired i since →
    ∃ row, round.after.incidents.get? i = some row ∧ StillEngaged start since row
  /-- The first run that finds the deadline passed reverts it. -/
  reverts : (∀ earlier ∈ past, ¬ earlier.Expired i since) → round.Expired i since →
    ∃ row, round.after.incidents.get? i = some row ∧ Released row
  /-- Later runs do nothing. -/
  rests : (∃ earlier ∈ past, earlier.Expired i since) →
    round.after.incidents.get? i = round.store.incidents.get? i ∧ round.sent i = []

/-- One run of the timer inside a list of runs, found by induction on the runs
before it: each of them either waits or warns, and so hands on an engagement
that has not changed. -/
theorem timerStep_of_stillEngaged {start : Incident} (hrow : db.incidents.get? i = some row)
    (hstill : StillEngaged start since row) (past : List TimerRound) (round : TimerRound)
    (rest : List TimerRound) (hrounds : Undisturbed i db (past ++ round :: rest)) :
    TimerStep i start since past round := by
  induction past generalizing db row with
  | nil =>
      obtain ⟨⟨row₀, incident, hrow₀, hinc, hsame⟩, -⟩ := hrounds
      cases hrow.symm.trans hrow₀
      have hstill' := hstill.of_same hsame
      have hafter := (timerRun_engaged round.now hinc hstill'.etat hstill'.since).1
      refine ⟨fun _ hwait => ⟨_, hafter, ?_⟩, fun _ hexpired => ⟨_, hafter, ?_⟩, nofun⟩
      · exact timedRow_waits hstill' fun h => hwait ⟨incident, hinc, h⟩
      · obtain ⟨incident', hinc', h⟩ := hexpired
        cases hinc.symm.trans hinc'
        exact timedRow_expired h
  | cons earlier past ih =>
      obtain ⟨⟨row₀, incident, hrow₀, hinc, hsame⟩, hrest⟩ := hrounds
      cases hrow.symm.trans hrow₀
      have hstill' := hstill.of_same hsame
      have hafter := (timerRun_engaged earlier.now hinc hstill'.etat hstill'.since).1
      by_cases hexpired : days (antigelDeadlineDays incident.severity) ≤ earlier.now - since
      · have hpast : earlier.Expired i since := ⟨incident, hinc, hexpired⟩
        refine ⟨fun h => absurd hpast (h earlier (List.mem_cons_self ..)),
          fun h => absurd hpast (h earlier (List.mem_cons_self ..)), fun _ => ?_⟩
        exact rests_of_declared hafter (timedRow_expired hexpired).etat past round rest hrest
      · have hstep := ih hafter (timedRow_waits hstill' hexpired) hrest
        have htail {p : TimerRound → Prop} (h : ∀ r ∈ earlier :: past, p r) : ∀ r ∈ past, p r :=
          fun r hr => h r (List.mem_cons_of_mem _ hr)
        refine ⟨fun h => hstep.waits (htail h), fun h => hstep.reverts (htail h), ?_⟩
        rintro ⟨r, hr, hr'⟩
        rcases List.mem_cons.mp hr with rfl | hr
        · obtain ⟨incident', hinc', h⟩ := hr'
          cases hinc.symm.trans hinc'
          exact absurd h hexpired
        · exact hstep.rests ⟨r, hr, hr'⟩

end Rounds

/-- The anti-gel timer over a whole engagement, whatever the instants of its runs
and the severities they find: the warnings are among 75 % and 90 %, in this
order, and the first run that finds the deadline passed reverts the incident, for
good. -/
theorem antigel_timer {db : Db} {i : IncidentId} {incident : Incident} {since : Instant}
    (hinc : db.incidents.get? i = some incident) (hetat : incident.etat = .taken)
    (hsince : incident.takenInChargeAt = some since) (hwarned75 : incident.antigelWarned75 = false)
    (hwarned90 : incident.antigelWarned90 = false) (rounds : List TimerRound)
    (hrounds : Undisturbed i db rounds) :
    (∃ pcts : List Nat, pcts.Sublist [75, 90] ∧
      List.Forall₂ (fun sent pct => sent.1.Warns i pct sent.2) (allSent i rounds) pcts) ∧
    ∀ past round rest, rounds = past ++ round :: rest →
      TimerStep i incident since past round := by
  constructor
  · have hdue : warningsDue incident = [75, 90] := by
      simp [warningsDue, hetat, hwarned75, hwarned90]
    rw [← hdue]
    exact allSent_sublist hinc rounds hrounds
  · rintro past round rest rfl
    exact timerStep_of_stillEngaged hinc ⟨hetat, rfl, rfl, hsince⟩ past round rest hrounds

def engagedIncident : Incident :=
  { Incident.new 1 (some "Fuite") "Bamako" "01-02-2025" with
    etat := .taken, takenBy := some 2, takenInChargeAt := some 0, severity := some .high }

def warningRound : TimerRound :=
  { store := Db.start [{ id := 1, name := "Voirie" }] [.member 2 "voirie@map.ml" .orgAdmin 1]
      engagedIncident
    now := days 24 }

def revertingRound : TimerRound := { store := warningRound.after, now := days 30 }

theorem antigel_timer_revertingRound :
    ∃ row, revertingRound.after.incidents.get? 1 = some row ∧ Released row := by
  have hwarned : revertingRound.store.incidents.get? 1 =
      some (timedRow (days 24) 0 engagedIncident) := (timerRun_engaged (days 24) rfl rfl rfl).1
  have hinc : warningRound.store.incidents.get? 1 = some engagedIncident := rfl
  have hlaw := (antigel_timer hinc rfl rfl rfl rfl [warningRound, revertingRound]
    ⟨⟨_, _, rfl, rfl, ⟨rfl, rfl, rfl, rfl, rfl, rfl⟩⟩,
      ⟨_, _, hwarned, hwarned, ⟨rfl, rfl, rfl, rfl, rfl, rfl⟩⟩, trivial⟩).2
    [warningRound] revertingRound [] rfl
  refine hlaw.reverts (fun earlier hearlier => ?_) ⟨_, hwarned, by decide⟩
  rw [List.mem_singleton.mp hearlier]
  rintro ⟨incident, hinc, hexpired⟩
  cases hinc
  exact absurd hexpired (by decide)

end Mapapi
