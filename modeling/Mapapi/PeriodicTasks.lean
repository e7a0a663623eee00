import Mapapi.Lib.Drain
import Mapapi.AntiGel
import Mapapi.Tacit
import Mapapi.Trash

/-!
# The periodic tasks together

Celery beat sends the four tasks of the life cycle at fixed intervals, and the workers run
them in any order, some of them twice. A task leaves nothing due for itself and makes
nothing due for another one. So once each of them has run at an instant, in whatever order,
running any of them again changes nothing, up to that instant (`tasks_settle`).

The proof is about one row at a time. A task leaves of an incident a row that
is not due for it any more, and no task makes a row due for another one: going
back to `declared` is due for nobody, and a tacit acceptance starts the clock
at `now` (`EngagedAt`), from where no deadline has been reached.
-/

namespace Mapapi

open Lib

/-! ## The schedule -/

/-- What the schedule of the workers runs. Their order is not fixed, and a
task can be delivered twice. -/
inductive PeriodicTask where
  | autoValidateOverdueResolutions
  | revertStaleTakenIncidents
  | purgeExpiredTrash
  | autoAcceptOverdueAssignments
  deriving DecidableEq

namespace PeriodicTask

def op : PeriodicTask → Op
  | autoValidateOverdueResolutions => .autoValidateOverdueResolutions
  | revertStaleTakenIncidents => .revertStaleTakenIncidents
  | purgeExpiredTrash => .purgeExpiredTrash
  | autoAcceptOverdueAssignments => .autoAcceptOverdueAssignments

/-- One run that nothing interrupts, as a step of the server. -/
def run (now : Instant) (db : Db) (task : PeriodicTask) : Db := db.step ⟨now, task.op⟩

def runAt (db : Db) (e : Instant × PeriodicTask) : Db := e.2.run e.1 db

/-- The task finds nothing to do with the row of an incident. -/
def Spares (now : Instant) (row : Incident) : PeriodicTask → Prop
  | autoValidateOverdueResolutions => overdueValidation now row = false
  | revertStaleTakenIncidents =>
    ∀ since, engagedSince row = some (row, since) → antigelVerdict now since row = .wait
  | purgeExpiredTrash => expiredTrash now row = false
  | autoAcceptOverdueAssignments => True

end PeriodicTask

/-- Nothing is due for the task: no row that it would select, and for the
tacit acceptance no assignment that is overdue. -/
structure Db.Quiet (db : Db) (now : Instant) (task : PeriodicTask) : Prop where
  spared : ∀ i row, db.incidents.get? i = some row → task.Spares now row
  answered : task = .autoAcceptOverdueAssignments → overdueAssignments now db = []

/-! ## What a task leaves of an incident -/

/-- What the anti-gel task makes of any row. One that nobody has engaged is
not selected. -/
def staleRow (now : Instant) (row : Incident) : Incident :=
  match engagedSince row with
  | none => row
  | some (row, since) => timedRow now since row

/-- What the tacit validation makes of any row. -/
def overdueRow (now : Instant) (row : Incident) : Incident :=
  if overdueValidation now row then
    Incident.pinProgress { row with etat := .resolvedDefinitive }
  else row

/-- The incident was engaged at `now`, or is as it was. -/
def EngagedAt (now : Instant) (row row' : Incident) : Prop :=
  row' = row ∨ row'.etat = .taken ∧ row'.takenInChargeAt = some now ∧
    row'.isDeleted = row.isDeleted ∧ row'.deletedAt = row.deletedAt

/-- What a task makes of the row of an incident that it does not delete. -/
def PeriodicTask.Turns (now : Instant) (row row' : Incident) : PeriodicTask → Prop
  | autoValidateOverdueResolutions => row' = overdueRow now row
  | revertStaleTakenIncidents => row' = staleRow now row
  | purgeExpiredTrash => row' = row ∧ expiredTrash now row = false
  | autoAcceptOverdueAssignments => EngagedAt now row row'

section Rows

variable {db : Db} {now : Instant} {i : IncidentId} {row row' : Incident}

/-- The task seen from one row: the others do not matter, and this one is
validated or left as it is. Its loop walks a snapshot, whose other rows have
other keys. -/
theorem get?_autoValidate (hrow : db.incidents.get? i = some row) :
    ((autoValidateOverdueResolutions now).run db).2.incidents.get? i =
      some (overdueRow now row) := by
  have hid : row.id = i := Table.key_of_get? hrow
  have hother (db : Db) (r : Incident) (hne : r.id ≠ i) :
      ((autoValidateOne r).run db).2.incidents.get? i = db.incidents.get? i := by
    change (db.saveIncidentFields { r with etat := .resolvedDefinitive } [.etat]).incidents.get?
      i = _
    have hid' : i ≠ ({ r with etat := .resolvedDefinitive } : Incident).id := hne.symm
    exact Db.incidents_saveIncidentFields_other hid'
  unfold autoValidateOverdueResolutions overdueRow
  simp only [Prog.run_bind, Prog.run_read, Prog.run_forEach, Prog.run_pure]
  by_cases hdue : overdueValidation now row = true
  · have hmem : row ∈ db.incidents.select (overdueValidation now) :=
      List.mem_filter.mpr ⟨Table.mem_of_get? hrow, hdue⟩
    obtain ⟨db', -, hsame, hend⟩ := foldl_at (I := fun _ : Db => True)
      (fun (db : Db) (r : Incident) => ((autoValidateOne r).run db).2)
      (fun db' : Db => db'.incidents.get? i) Incident.id (b := row) (s := db)
      (fun _ _ _ => trivial) (fun db' r _ _ hne => hother db' r (hid ▸ hne))
      (db.incidents.nodup_select _) hmem trivial
    rw [if_pos hdue, hend]
    exact Db.row_saveIncidentFields (hsame.trans hrow) hid rfl
  · rw [if_neg hdue]
    refine (foldl_never _ (fun db' : Db => db'.incidents.get? i) (I := fun _ => True)
      (fun _ _ _ => trivial) (fun db' r hr _ => hother db' r ?_) trivial).trans hrow
    rintro rfl
    obtain ⟨hget, hsome⟩ := Table.mem_select.mp hr
    cases hget.symm.trans hrow
    exact hdue hsome

theorem get?_revertStale (hrow : db.incidents.get? i = some row) :
    (timerRun now db).incidents.get? i = some (staleRow now row) := by
  unfold staleRow
  cases hengaged : engagedSince row with
  | none => exact (timerRun_idle hrow hengaged).1
  | some r =>
      obtain ⟨row', since⟩ := r
      obtain ⟨rfl, hetat, hsince⟩ := engagedSince_eq_some hengaged
      exact (timerRun_engaged now hrow hetat hsince).1

theorem engagedAt_autoAccept
    (hrow' : ((autoAcceptOverdueAssignments now).run db).2.incidents.get? i = some row') :
    ∃ row, db.incidents.get? i = some row ∧ EngagedAt now row row' := by
  let kept (db' : Db) : Prop := ∀ row', db'.incidents.get? i = some row' →
    ∃ row, db.incidents.get? i = some row ∧ EngagedAt now row row'
  unfold autoAcceptOverdueAssignments at hrow'
  simp only [Prog.run_bind, Prog.run_read, Prog.run_forEach, Prog.run_pure] at hrow'
  refine foldl_inv _ kept _ (fun db' r _ hkept => ?_) (fun row' h => ⟨row', h, Or.inl rfl⟩)
    row' hrow'
  intro row' hrow'
  rw [show r = (r.1, r.2) from rfl, autoAcceptOne_run] at hrow'
  split at hrow'
  · rw [Db.get?_saveIncidentFields] at hrow'
    split at hrow'
    · obtain ⟨before, hbefore, rfl⟩ := Option.map_eq_some_iff.mp hrow'
      obtain ⟨row, hrow, hengaged⟩ := hkept before hbefore
      refine ⟨row, hrow, Or.inr ⟨rfl, rfl, ?_⟩⟩
      rcases hengaged with rfl | ⟨-, -, hdeleted⟩
      · exact ⟨rfl, rfl⟩
      · exact hdeleted
    · exact hkept row' hrow'
  · exact hkept row' hrow'

/-- No task creates an incident, and what it makes of one is a turn. -/
theorem PeriodicTask.turns {task : PeriodicTask}
    (hrow' : (task.run now db).incidents.get? i = some row') :
    ∃ row, db.incidents.get? i = some row ∧ task.Turns now row row' := by
  have hexists : ∃ row, db.incidents.get? i = some row := by
    refine Option.ne_none_iff_exists'.mp fun hnone => ?_
    have hmissing : (db.step ⟨now, task.op⟩).engagement? i = none :=
      step_missing (Db.engagement?_eq_none.mpr hnone)
    cases (Db.engagement?_eq_none.mp hmissing).symm.trans hrow'
  obtain ⟨row, hrow⟩ := hexists
  cases task with
  | autoValidateOverdueResolutions =>
      exact ⟨row, hrow, Option.some.inj (hrow'.symm.trans (get?_autoValidate hrow))⟩
  | revertStaleTakenIncidents =>
      exact ⟨row, hrow, Option.some.inj (hrow'.symm.trans (get?_revertStale hrow))⟩
  | purgeExpiredTrash =>
      have hpurged : (db.incidents.get? i).filter (fun r => !expiredTrash now r) = some row' :=
        get?_purgeExpiredTrash.symm.trans hrow'
      obtain ⟨hrow, hkept⟩ := Option.filter_eq_some_iff.mp hpurged
      exact ⟨row', hrow, rfl, by simpa using hkept⟩
  | autoAcceptOverdueAssignments => exact engagedAt_autoAccept hrow'

end Rows

/-! ## What is due afterwards -/

section Verdict

variable {now since t : Instant} {row row' : Incident} {task other : PeriodicTask}

theorem antigelVerdict_eq_wait :
    antigelVerdict now since row = .wait ↔
      ¬ days (antigelDeadlineDays row.severity) ≤ now - since ∧
        ¬ (9 * days (antigelDeadlineDays row.severity) ≤ 10 * (now - since) ∧
          row.antigelWarned90 = false) ∧
        ¬ (3 * days (antigelDeadlineDays row.severity) ≤ 4 * (now - since) ∧
          row.antigelWarned75 = false) := by
  unfold antigelVerdict
  dsimp only
  split
  · rename_i h
    simp [not_not.mpr h]
  · split
    · rename_i h90
      simp [h90]
    · split
      · rename_i h75
        simp [h75]
      · rename_i hexpired h90 h75
        exact ⟨fun _ => ⟨hexpired, h90, h75⟩, fun _ => rfl⟩

theorem antigelDeadline_pos (severity : Option Severity) :
    0 < days (antigelDeadlineDays severity) := by
  rcases severity with _ | severity
  · decide
  · cases severity <;> simp [antigelDeadlineDays, antiGelDefaultDays, days]

theorem antigelVerdict_engaged : antigelVerdict now now row = .wait := by
  have hpos := antigelDeadline_pos row.severity
  rw [antigelVerdict_eq_wait, show now - now = 0 from Int.sub_self now]
  omega

theorem antigelVerdict_earlier (ht : t ≤ now) (h : antigelVerdict now since row = .wait) :
    antigelVerdict t since row = .wait := by
  have hless : t - since ≤ now - since := Int.sub_le_sub_right ht since
  rw [antigelVerdict_eq_wait] at h ⊢
  obtain ⟨hexpired, h90, h75⟩ := h
  refine ⟨fun hdue => hexpired (Int.le_trans hdue hless), fun hdue => h90 ⟨?_, hdue.2⟩,
    fun hdue => h75 ⟨?_, hdue.2⟩⟩
  · exact Int.le_trans hdue.1 (Int.mul_le_mul_of_nonneg_left hless (by decide))
  · exact Int.le_trans hdue.1 (Int.mul_le_mul_of_nonneg_left hless (by decide))

theorem antigelVerdict_warned {warned75 warned90 : Bool}
    (hexpired : antigelVerdict now since row ≠ .revert)
    (h90 : warned90 = true ∨
      antigelVerdict now since row ≠ .warn90 ∧ warned90 = row.antigelWarned90)
    (h75 : warned75 = true) :
    antigelVerdict now since
      { row with antigelWarned75 := warned75, antigelWarned90 := warned90 } = .wait := by
  have hearly : ¬ days (antigelDeadlineDays row.severity) ≤ now - since :=
    fun h => hexpired (antigelVerdict_eq_revert.mpr h)
  rw [antigelVerdict_eq_wait]
  refine ⟨hearly, fun hdue => ?_, fun hdue => Bool.false_ne_true (hdue.2.symm.trans h75)⟩
  rcases h90 with h90 | ⟨h90, hsame⟩
  · exact Bool.false_ne_true (hdue.2.symm.trans h90)
  · refine h90 ?_
    unfold antigelVerdict
    dsimp only
    rw [if_neg hearly, if_pos ⟨hdue.1, hsame.symm.trans hdue.2⟩]

/-- What the anti-gel task makes of a row: it is reverted, or its warnings are
set, after which the same task has to wait with it. So running it again right
away does nothing. -/
theorem staleRow_cases (now : Instant) (row : Incident) :
    staleRow now row = row.reverted ∨
      ∃ warned75 warned90, staleRow now row =
          { row with antigelWarned75 := warned75, antigelWarned90 := warned90 } ∧
        ∀ since, engagedSince row = some (row, since) →
          antigelVerdict now since
            { row with antigelWarned75 := warned75, antigelWarned90 := warned90 } = .wait := by
  unfold staleRow
  cases hengaged : engagedSince row with
  | none => exact Or.inr ⟨row.antigelWarned75, row.antigelWarned90, rfl, nofun⟩
  | some r =>
      obtain ⟨row', since⟩ := r
      obtain ⟨rfl, -, -⟩ := engagedSince_eq_some hengaged
      have hsince {since' : Instant} (h : some (row, since) = some (row, since')) :
          since = since' := congrArg Prod.snd (Option.some.inj h)
      dsimp only
      unfold timedRow
      cases hverdict : antigelVerdict now since row with
      | revert => exact Or.inl rfl
      | warn90 =>
          refine Or.inr ⟨true, true, rfl, fun since' h => ?_⟩
          obtain rfl := hsince h
          exact antigelVerdict_warned (by rw [hverdict]; nofun) (Or.inl rfl) rfl
      | warn75 =>
          refine Or.inr ⟨true, row.antigelWarned90, rfl, fun since' h => ?_⟩
          obtain rfl := hsince h
          exact antigelVerdict_warned (by rw [hverdict]; nofun)
            (Or.inr ⟨by rw [hverdict]; nofun, rfl⟩) rfl
      | wait =>
          refine Or.inr ⟨row.antigelWarned75, row.antigelWarned90, rfl, fun since' h => ?_⟩
          obtain rfl := hsince h
          exact hverdict

theorem overdueRow_cases (now : Instant) (row : Incident) :
    overdueValidation now row = false ∧ overdueRow now row = row ∨
      overdueRow now row = { row with etat := .resolvedDefinitive, progress := 100 } := by
  unfold overdueRow
  cases hdue : overdueValidation now row with
  | false => exact Or.inl ⟨rfl, rfl⟩
  | true => exact Or.inr rfl

/-- What a turn leaves is spared by whatever spared it before. -/
theorem PeriodicTask.Turns.spares (h : task.Turns now row row') (hspares : other.Spares now row) :
    other.Spares now row' := by
  cases task with
  | purgeExpiredTrash =>
      obtain ⟨rfl, -⟩ := h
      exact hspares
  | autoValidateOverdueResolutions =>
      obtain rfl : row' = overdueRow now row := h
      rcases overdueRow_cases now row with ⟨-, h⟩ | h
      · rw [h]
        exact hspares
      · rw [h]
        cases other with
        | autoValidateOverdueResolutions => rfl
        | revertStaleTakenIncidents => exact fun since hengaged => nomatch hengaged
        | purgeExpiredTrash => exact hspares
        | autoAcceptOverdueAssignments => trivial
  | revertStaleTakenIncidents =>
      obtain rfl : row' = staleRow now row := h
      rcases staleRow_cases now row with h | ⟨warned75, warned90, h, hwarned⟩
      · rw [h]
        cases other with
        | autoValidateOverdueResolutions => rfl
        | revertStaleTakenIncidents => exact fun since hengaged => nomatch hengaged
        | purgeExpiredTrash => exact hspares
        | autoAcceptOverdueAssignments => trivial
      · rw [h]
        cases other with
        | autoValidateOverdueResolutions => exact hspares
        | revertStaleTakenIncidents =>
            intro since hengaged
            obtain ⟨-, hetat, hsince⟩ := engagedSince_eq_some hengaged
            refine hwarned since ?_
            unfold engagedSince
            rw [if_pos hetat, show row.takenInChargeAt = some since from hsince]
            rfl
        | purgeExpiredTrash => exact hspares
        | autoAcceptOverdueAssignments => trivial
  | autoAcceptOverdueAssignments =>
      rcases h with rfl | ⟨hetat, hsince, hdeleted, hdeletedAt⟩
      · exact hspares
      · cases other with
        | autoValidateOverdueResolutions =>
            change (decide (row'.etat = .inValidation) && _) = false
            rw [hetat]
            rfl
        | revertStaleTakenIncidents =>
            intro since hengaged
            obtain ⟨-, -, hsince'⟩ := engagedSince_eq_some hengaged
            obtain rfl := Option.some.inj (hsince.symm.trans hsince')
            exact antigelVerdict_engaged
        | purgeExpiredTrash =>
            change (row'.isDeleted && _) = false
            rw [hdeleted, hdeletedAt]
            exact hspares
        | autoAcceptOverdueAssignments => trivial

/-- What a turn leaves is not due any more. -/
theorem PeriodicTask.Turns.spares_self (h : task.Turns now row row') : task.Spares now row' := by
  cases task with
  | purgeExpiredTrash =>
      obtain ⟨rfl, hkept⟩ := h
      exact hkept
  | autoValidateOverdueResolutions =>
      obtain rfl : row' = overdueRow now row := h
      rcases overdueRow_cases now row with ⟨hdue, h⟩ | h
      · rw [h]
        exact hdue
      · rw [h]
        rfl
  | revertStaleTakenIncidents =>
      obtain rfl : row' = staleRow now row := h
      rcases staleRow_cases now row with h | ⟨warned75, warned90, h, hwarned⟩
      · rw [h]
        exact fun since hengaged => nomatch hengaged
      · rw [h]
        intro since hengaged
        obtain ⟨-, hetat, hsince⟩ := engagedSince_eq_some hengaged
        refine hwarned since ?_
        unfold engagedSince
        rw [if_pos hetat, show row.takenInChargeAt = some since from hsince]
        rfl
  | autoAcceptOverdueAssignments => trivial

theorem PeriodicTask.Spares.earlier (ht : t ≤ now) (h : task.Spares now row) :
    task.Spares t row := by
  cases task with
  | autoValidateOverdueResolutions =>
      refine Bool.eq_false_iff.mpr fun hdue => Bool.false_ne_true (h.symm.trans ?_)
      simp only [overdueValidation, Bool.and_eq_true, decide_eq_true_eq, Option.any_eq_true]
        at hdue ⊢
      obtain ⟨hetat, deadline, hdeadline, hover⟩ := hdue
      exact ⟨hetat, deadline, hdeadline, Int.lt_of_lt_of_le hover ht⟩
  | revertStaleTakenIncidents =>
      exact fun since hengaged => antigelVerdict_earlier ht (h since hengaged)
  | purgeExpiredTrash =>
      refine Bool.eq_false_iff.mpr fun hdue => Bool.false_ne_true (h.symm.trans ?_)
      simp only [expiredTrash, Bool.and_eq_true, decide_eq_true_eq, Option.any_eq_true] at hdue ⊢
      obtain ⟨hdeleted, deletedAt, hat, hover⟩ := hdue
      exact ⟨hdeleted, deletedAt, hat, Int.lt_of_lt_of_le hover (Int.sub_le_sub_right ht _)⟩
  | autoAcceptOverdueAssignments => trivial

end Verdict

/-! ## Rounds -/

section Rounds

variable {db : Db} {now t : Instant} {task : PeriodicTask}

theorem mem_overdueAssignments_earlier (ht : t ≤ now)
    {r : IncidentOrgAssignment × Incident} (h : r ∈ overdueAssignments t db) :
    r ∈ overdueAssignments now db := by
  obtain ⟨assignment, incident⟩ := r
  obtain ⟨hrow, hpending, hover, hinc⟩ := mem_overdueAssignments.mp h
  exact mem_overdueAssignments.mpr ⟨hrow, hpending, Int.lt_of_lt_of_le hover ht, hinc⟩

theorem Db.Quiet.earlier (ht : t ≤ now) (h : db.Quiet now task) : db.Quiet t task where
  spared i row hrow := (h.spared i row hrow).earlier ht
  answered htask := List.eq_nil_iff_forall_not_mem.mpr fun r hr => by
    have hr' := mem_overdueAssignments_earlier ht hr
    rw [h.answered htask] at hr'
    exact List.not_mem_nil hr'

/-- A task that finds nothing due writes nothing: neither rows nor
notifications nor log. This is what makes the second run a no-op. -/
theorem PeriodicTask.run_of_quiet (h : db.Quiet now task) : task.run now db = db := by
  cases task with
  | autoValidateOverdueResolutions =>
      have hnone : db.incidents.select (overdueValidation now) = [] :=
        List.filter_eq_nil_iff.mpr fun row hrow =>
          Bool.eq_false_iff.mp (h.spared _ row (Table.get?_of_mem hrow))
      change ((Mapapi.autoValidateOverdueResolutions now).run db).2 = db
      unfold Mapapi.autoValidateOverdueResolutions
      simp only [Prog.run_bind, Prog.run_read, Prog.run_forEach, Prog.run_pure, hnone]
      rfl
  | revertStaleTakenIncidents =>
      refine timerRun_eq.trans (exec_eq_self fun r hr => ?_)
      obtain ⟨row, since⟩ := r
      obtain ⟨hget, hengaged⟩ := mem_engaged hr
      have hwait := h.spared _ row hget since hengaged
      rw [revertStaleOne_run, hwait]
  | purgeExpiredTrash =>
      have hnone : db.incidents.select (expiredTrash now) = [] :=
        List.filter_eq_nil_iff.mpr fun row hrow =>
          Bool.eq_false_iff.mp (h.spared _ row (Table.get?_of_mem hrow))
      change ((Mapapi.purgeExpiredTrash now).run db).2 = db
      unfold Mapapi.purgeExpiredTrash
      simp only [Prog.run_bind, Prog.run_read, Prog.run_modify, Prog.run_pure, hnone]
      rfl
  | autoAcceptOverdueAssignments =>
      change ((Mapapi.autoAcceptOverdueAssignments now).run db).2 = db
      unfold Mapapi.autoAcceptOverdueAssignments
      simp only [Prog.run_bind, Prog.run_read, Prog.run_forEach, Prog.run_pure, h.answered rfl]
      rfl

theorem get?_autoAcceptOne (r : IncidentOrgAssignment × Incident) (pk : OrgAssignmentId) :
    ((autoAcceptOne now r).run db).2.orgAssignments.get? pk =
      (db.answerAssignment r.1.id .accepted id now).orgAssignments.get? pk := by
  rw [show r = (r.1, r.2) from rfl, autoAcceptOne_run]
  split <;> rfl

theorem not_pending_autoAccept {r : IncidentOrgAssignment × Incident}
    (hr : r ∈ overdueAssignments now db) {assignment : IncidentOrgAssignment}
    (hassignment : ((autoAcceptOverdueAssignments now).run db).2.orgAssignments.get? r.1.id =
      some assignment) : assignment.status ≠ .pending := by
  let answered (db : Db) : Prop := ∀ assignment,
    db.orgAssignments.get? r.1.id = some assignment → assignment.status ≠ .pending
  have hanswers (db : Db) (r' : IncidentOrgAssignment × Incident)
      (h : r'.1.id = r.1.id ∨ answered db) : answered ((autoAcceptOne now r').run db).2 := by
    intro assignment hassignment
    rw [get?_autoAcceptOne, get?_answerAssignment] at hassignment
    split at hassignment
    · obtain ⟨before, -, rfl⟩ := Option.map_eq_some_iff.mp hassignment
      intro hpending
      cases hpending
    · rename_i hne
      exact h.elim (fun heq => absurd heq.symm hne) fun hdone => hdone assignment hassignment
  obtain ⟨before, after, hsplit⟩ := List.append_of_mem hr
  unfold autoAcceptOverdueAssignments at hassignment
  simp only [Prog.run_bind, Prog.run_read, Prog.run_forEach, Prog.run_pure, hsplit,
    List.foldl_append, List.foldl_cons] at hassignment
  exact foldl_inv _ answered after (fun db r' _ h => hanswers db r' (Or.inr h))
    (hanswers _ r (Or.inl rfl)) assignment hassignment

theorem mem_overdueAssignments_run {r : IncidentOrgAssignment × Incident}
    (hr : r ∈ overdueAssignments now (task.run now db)) :
    ∃ incident, (r.1, incident) ∈ overdueAssignments now db := by
  obtain ⟨assignment, incident'⟩ := r
  obtain ⟨hrow, hpending, hover, hinc⟩ := mem_overdueAssignments.mp hr
  obtain ⟨incident, hincident, -⟩ := task.turns hinc
  have hkept : db.KeepsWaiting (task.run now db) := by
    refine keepsWaiting_step fun auth i organisation => ?_
    cases task <;> exact nofun
  exact ⟨incident, mem_overdueAssignments.mpr
    ⟨hkept assignment hrow hpending, hpending, hover, hincident⟩⟩

/-- A task leaves nothing due for itself, and makes nothing due for another
one. This is the whole link to the repository: that a round of such tasks
settles holds of any family of them (`Lib.Drains`). -/
theorem tasks_drain (now : Instant) :
    Drains (PeriodicTask.run now) fun task db => db.Quiet now task where
  empties db task :=
    { spared := fun i row' hrow' => by
        obtain ⟨row, -, hturns⟩ := task.turns hrow'
        exact hturns.spares_self
      answered := by
        rintro rfl
        refine List.eq_nil_iff_forall_not_mem.mpr fun r hr => ?_
        obtain ⟨incident, hbefore⟩ := mem_overdueAssignments_run hr
        obtain ⟨hrow, hpending, -⟩ := mem_overdueAssignments.mp hr
        exact not_pending_autoAccept hbefore (Table.get?_of_mem hrow) hpending }
  keeps db other task h :=
    { spared := fun i row' hrow' => by
        obtain ⟨row, hrow, hturns⟩ := other.turns hrow'
        exact hturns.spares (h.spared i row hrow)
      answered := fun htask => by
        refine List.eq_nil_iff_forall_not_mem.mpr fun r hr => ?_
        obtain ⟨incident, hbefore⟩ := mem_overdueAssignments_run hr
        rw [h.answered htask] at hbefore
        exact List.not_mem_nil hbefore }

/-- Once tasks have run at `now`, in any order and any number of times, nothing is due for
any of them, and nothing that a worker runs of them again, up to `now`, changes the store. -/
theorem tasks_settle (db : Db) (now : Instant) (round : List PeriodicTask)
    (again : List (Instant × PeriodicTask)) (h : ∀ e ∈ again, e.1 ≤ now ∧ e.2 ∈ round) :
    (∀ task ∈ round, (exec (PeriodicTask.run now) db round).Quiet now task) ∧
      exec PeriodicTask.runAt (exec (PeriodicTask.run now) db round) again =
        exec (PeriodicTask.run now) db round := by
  refine ⟨fun task htask => (tasks_drain now).quiet_of_mem htask, exec_eq_self fun e he => ?_⟩
  obtain ⟨hearlier, hround⟩ := h e he
  exact e.2.run_of_quiet (((tasks_drain now).quiet_of_mem hround).earlier hearlier)

/-- An assignment is accepted for the organisation. The timer that runs after it finds the
incident engaged just now, as do the tasks that are run again. -/
theorem tasks_settle_assigned :
    let db := mairieStore.exec [⟨0, .assignToOrganisation (some 1) 1 (.uuid 3)⟩]
    let round : List PeriodicTask :=
      [.autoAcceptOverdueAssignments, .revertStaleTakenIncidents, .purgeExpiredTrash]
    let settled := exec (PeriodicTask.run (days 100)) db round
    (settled.incidents.get? 1).map (fun row => (row.etat, row.takenBy)) =
        some (.taken, some 2) ∧
      exec PeriodicTask.runAt settled
          [(days 100, .autoAcceptOverdueAssignments), (days 99, .revertStaleTakenIncidents)] =
        settled := by
  intro db round settled
  refine ⟨by decide, (tasks_settle db (days 100) round _ ?_).2⟩
  intro e he
  simp only [List.mem_cons, List.not_mem_nil, or_false] at he
  rcases he with rfl | rfl
  · exact ⟨by decide, by simp [round]⟩
  · exact ⟨by decide, by simp [round]⟩

end Rounds

end Mapapi
