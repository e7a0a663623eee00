import Mapapi.Resolution
import Mapapi.OrgAssignments

/-!
# The Celery tasks of the life cycle

Four periodic tasks act on every row that is due: tacit validation of a
resolution, the anti-gel timer, the purge of the trash and tacit acceptance of
an assignment. Each one reads its rows once and then treats them one by one,
working on the rows as it has read them.

As an operation of a run a task is one step: its queryset is read and every
row of it is treated before anything else happens. `Timers.lean` takes the
tasks apart again, row by row, and asks what requests may do in between.
-/

namespace Mapapi

open Lib

/-! ## auto_validate_overdue_resolutions -/

/-- Strictly after the deadline. Without a deadline nothing is overdue. -/
def overdueValidation (now : Instant) (incident : Incident) : Bool :=
  decide (incident.etat = .inValidation) &&
    incident.validationDeadline.any fun d => decide (d < now)

def autoValidateOne (incident : Incident) : Prog Db Unit := do
  Prog.modify (Db.saveIncidentFields { incident with etat := .resolvedDefinitive } [.etat])
  Prog.modify (terminateActiveCollaborations incident.id)

/-- `auto_validate_overdue_resolutions`: the number of validated incidents. -/
def autoValidateOverdueResolutions (now : Instant) : Prog Db Nat := do
  let incidents ← Prog.read fun db => db.incidents.select (overdueValidation now)
  Prog.forEach incidents autoValidateOne
  pure incidents.length

/-! ## revert_stale_taken_incidents -/

def antiGelDefaultDays : Int := 60

/-- `_antigel_deadline_days`, from `ANTI_GEL_DEADLINE_DAYS`. A severity that
is missing or unknown has the default, which is that of the medium one. -/
def antigelDeadlineDays (severity : Option Severity) : Int :=
  match severity with
  | some .high => 30
  | some .medium => 60
  | some .low => 90
  | some (.unknown _) => antiGelDefaultDays
  | none => antiGelDefaultDays

/-- What the task does with an engaged incident. The cases exclude each other,
and the later one wins when several thresholds have passed. -/
inductive AntigelVerdict where
  | revert
  | warn90
  | warn75
  | wait
  deriving DecidableEq

/-- The branch an incident engaged at `since` takes at `now`. The thresholds are
the exact rationals: 0.90 and 0.75 of a whole number of days are whole numbers
of microseconds, which the source's float products hit exactly. -/
def antigelVerdict (now since : Instant) (incident : Incident) : AntigelVerdict :=
  let elapsed := now - since
  let deadline := days (antigelDeadlineDays incident.severity)
  if elapsed ≥ deadline then .revert
  else if 10 * elapsed ≥ 9 * deadline ∧ incident.antigelWarned90 = false then .warn90
  else if 4 * elapsed ≥ 3 * deadline ∧ incident.antigelWarned75 = false then .warn75
  else .wait

/-- The incidents `revert_stale_taken_incidents` selects, each with the instant
it was engaged at. -/
def engagedSince (incident : Incident) : Option (Incident × Instant) :=
  if incident.etat = .taken then incident.takenInChargeAt.map fun since => (incident, since)
  else none

def antigelNotification (incident : Incident) (leader : UserId) (pct : Nat) : Notification :=
  { user := leader
    notifType := .deadlineWarning
    message := truncate 255 ("Anti-gel : l'incident « " ++
      (presentText incident.title).getD incident.zone ++ " » a atteint " ++ toString pct ++
      " % du délai de prise en compte (" ++
      toString (antigelDeadlineDays incident.severity) ++
      " j). Agissez pour éviter son retour automatique en « Déclaré ».")
    colaboration := none
    incident := some incident.id }

/-- `_notify_antigel_leader`: nothing without a leader. -/
def notifyAntigelLeader (incident : Incident) (pct : Nat) (db : Db) : Db :=
  match db.user? incident.takenBy with
  | none => db
  | some leader => db.notify (antigelNotification incident leader.id pct)

/-- The in-memory row of an incident that goes back to `declared`, with
everything that belonged to the engagement cleared, the flags included. No
collaboration is touched. -/
def Incident.reverted (incident : Incident) : Incident :=
  { incident with
    etat := .declared
    takenBy := none
    takeInChargeMode := none
    takenInChargeAt := none
    antigelWarned75 := false
    antigelWarned90 := false }

/-- One iteration of `revert_stale_taken_incidents`, on the row as it was
read. The leader is notified first, and then the flags are saved; a revert
saves the six columns of the engagement and tells nobody. -/
def revertStaleOne (now : Instant) : Incident × Instant → Prog Db Unit
  | (incident, since) =>
    match antigelVerdict now since incident with
    | .revert =>
      Prog.modify (Db.saveIncidentFields incident.reverted
        [.etat, .takenBy, .takeInChargeMode, .takenInChargeAt, .antigelWarned75,
          .antigelWarned90])
    | .warn90 => do
      Prog.modify (notifyAntigelLeader incident 90)
      -- the 75 % flag too: that warning would come late
      Prog.modify (Db.saveIncidentFields
        { incident with antigelWarned90 := true, antigelWarned75 := true }
        [.antigelWarned90, .antigelWarned75])
    | .warn75 => do
      Prog.modify (notifyAntigelLeader incident 75)
      Prog.modify (Db.saveIncidentFields { incident with antigelWarned75 := true }
        [.antigelWarned75])
    | .wait => pure ()

theorem revertStaleOne_run (now : Instant) (incident : Incident) (since : Instant) (db : Db) :
    ((revertStaleOne now (incident, since)).run db).2 =
      match antigelVerdict now since incident with
      | .revert => db.saveIncidentFields incident.reverted
          [.etat, .takenBy, .takeInChargeMode, .takenInChargeAt, .antigelWarned75,
            .antigelWarned90]
      | .warn90 => (notifyAntigelLeader incident 90 db).saveIncidentFields
          { incident with antigelWarned90 := true, antigelWarned75 := true }
          [.antigelWarned90, .antigelWarned75]
      | .warn75 => (notifyAntigelLeader incident 75 db).saveIncidentFields
          { incident with antigelWarned75 := true } [.antigelWarned75]
      | .wait => db := by
  rw [revertStaleOne]
  cases antigelVerdict now since incident <;> rfl

structure AntigelReport where
  reverted : Nat
  warned75 : Nat
  warned90 : Nat

/-- `revert_stale_taken_incidents`. It reads the engaged incidents once; the
counters are about what it has decided, row by row, not about what became of
it. -/
def revertStaleTakenIncidents (now : Instant) : Prog Db AntigelReport := do
  let engaged ← Prog.read fun db => db.incidents.rows.filterMap engagedSince
  Prog.forEach engaged (revertStaleOne now)
  let count (v : AntigelVerdict) : Nat :=
    engaged.countP fun (incident, since) => antigelVerdict now since incident = v
  pure { reverted := count .revert, warned75 := count .warn75, warned90 := count .warn90 }

/-! ## purge_expired_trash -/

/-- Thirty days since the incident was moved to the trash. One in the trash
without an instant is never purged. -/
def expiredTrash (now : Instant) (incident : Incident) : Bool :=
  incident.isDeleted && incident.deletedAt.any fun d => decide (d < now - days 30)

/-- `incident.delete()`: everything that points to the incident goes with it. -/
def Db.deleteIncident (i : IncidentId) (db : Db) : Db :=
  let gone := (db.collaborationsOf i).map Collaboration.id
  { db with
    incidents := db.incidents.erase i
    tasks := db.tasks.eraseWhere fun r => decide (r.incident = i)
    collaborations := db.collaborations.eraseWhere fun r => decide (r.incident = i)
    orgAssignments := db.orgAssignments.eraseWhere fun r => decide (r.incident = i)
    partnerSuggestions := db.partnerSuggestions.eraseWhere fun r => decide (r.incident = i)
    notifications := db.notifications.filter fun n =>
      decide (n.incident ≠ some i) && n.colaboration.all fun c => !gone.contains c
    discussionMessages := db.discussionMessages.filter fun m =>
      decide (m.incident ≠ i) && !gone.contains m.collaboration }

/-- `purge_expired_trash`: the deletions are one transaction. -/
def purgeExpiredTrash (now : Instant) : Prog Db (List IncidentId) := do
  let incidents ← Prog.read fun db => db.incidents.select (expiredTrash now)
  Prog.modify fun db => incidents.foldl (fun db incident => db.deleteIncident incident.id) db
  pure (incidents.map Incident.id)

/-! ## auto_accept_overdue_assignments -/

/-- The user with the smallest id (`.first()` of an unordered query). -/
def firstByPk : List User → Option User
  | [] => none
  | u :: rest =>
    match firstByPk rest with
    | none => some u
    | some v => if u.id ≤ v.id then some u else some v

/-- The assignments `auto_accept_overdue_assignments` selects, most recent
first, each with its incident as it is read along. -/
def overdueAssignments (now : Instant) (db : Db) : List (IncidentOrgAssignment × Incident) :=
  db.orgAssignments.rows.reverse.filterMap fun assignment =>
    if assignment.status = .pending ∧ assignment.deadline < now then
      (db.incidents.get? assignment.incident).map fun incident => (assignment, incident)
    else none

theorem mem_overdueAssignments {now : Instant} {db : Db} {assignment : IncidentOrgAssignment}
    {incident : Incident} :
    (assignment, incident) ∈ overdueAssignments now db ↔
      assignment ∈ db.orgAssignments.rows ∧ assignment.status = .pending ∧
        assignment.deadline < now ∧ db.incidents.get? assignment.incident = some incident := by
  unfold overdueAssignments
  simp only [List.mem_filterMap, List.mem_reverse]
  constructor
  · rintro ⟨a, ha, h⟩
    split at h
    · rename_i hdue
      obtain ⟨b, hb, heq⟩ := Option.map_eq_some_iff.mp h
      cases heq
      exact ⟨ha, hdue.1, hdue.2, hb⟩
    · cases h
  · rintro ⟨ha, hpending, hdue, hinc⟩
    refine ⟨assignment, ha, ?_⟩
    rw [if_pos ⟨hpending, hdue⟩, hinc]
    rfl

/-- The in-memory row of an incident that is engaged tacitly. Unlike
`engage_incident`, this leaves the anti-gel flags as they are. -/
def Incident.engagedTacitly (incident : Incident) (leader : Option UserId) (now : Instant) :
    Incident :=
  { incident with etat := .taken, takenBy := leader, takenInChargeAt := some now }

/-- One iteration of `auto_accept_overdue_assignments`. The assignment is
answered in any case; the incident is engaged only if it was declared when it
was read. -/
def autoAcceptOne (now : Instant) : IncidentOrgAssignment × Incident → Prog Db Unit
  | (assignment, incident) => do
    Prog.modify (Db.answerAssignment assignment.id .accepted id now)
    let admin ← Prog.read fun db => firstByPk (db.adminsOf assignment.organisation)
    Prog.when (incident.etat = .declared) <| Prog.modify (Db.saveIncidentFields
        (incident.engagedTacitly (admin.map User.id) now) [.etat, .takenBy, .takenInChargeAt])

theorem autoAcceptOne_run (now : Instant) (assignment : IncidentOrgAssignment)
    (incident : Incident) (db : Db) :
    ((autoAcceptOne now (assignment, incident)).run db).2 =
      if incident.etat = .declared then
        (db.answerAssignment assignment.id .accepted id now).saveIncidentFields
          (incident.engagedTacitly
            ((firstByPk (db.adminsOf assignment.organisation)).map User.id) now)
          [.etat, .takenBy, .takenInChargeAt]
      else db.answerAssignment assignment.id .accepted id now := by
  unfold autoAcceptOne
  simp only [Prog.run_bind, Prog.run_modify, Prog.run_read, Prog.run_when]
  rfl

/-- `auto_accept_overdue_assignments`: the number of accepted assignments. -/
def autoAcceptOverdueAssignments (now : Instant) : Prog Db Nat := do
  let assignments ← Prog.read (overdueAssignments now)
  Prog.forEach assignments (autoAcceptOne now)
  pure assignments.length

end Mapapi
