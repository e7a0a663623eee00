import Mapapi.Requests

/-!
# Saving rows

What `save`, `create`, `get_or_create`, `update` and `delete` do to the store,
for the two models whose writes do more than store the row:

- `Incident.save` pins the progress of a resolved incident to 100, and
  `save(update_fields=...)` copies only the listed columns from the in-memory
  row to the stored one;
- creating a `Collaboration` runs the receivers of `signals.py`. They notify
  the leader of the incident, or *delete the new row again* when there is no
  leader to write to.

A `create` and its receivers are one action. Inside `get_or_create` they run
in a transaction, so an error of the database that a receiver swallows still
rolls the new row back; a plain `create` keeps it.

The columns matter wherever two programs save one row. `save()` writes all of
them, so it puts back what another request has changed since the row was read;
`save(update_fields=...)` writes the ones it names and leaves the others to
whoever wrote them last. The lemmas about `writeColumns` say when the
difference cannot be seen: when nothing ran in between.
-/

namespace Mapapi

open Lib

/-! ## Incidents -/

/-- The columns that `update_fields` names. Those that no view saves by name
are written by a whole `save()` only. -/
inductive Incident.Column where
  | etat
  | takenBy
  | takeInChargeMode
  | takenInChargeAt
  | antigelWarned75
  | antigelWarned90
  | progress
  | resolutionSubmittedBy
  | resolutionSubmittedAt
  | validationDeadline
  | rejectionReason
  deriving DecidableEq

/-- A save with `update_fields` takes the values from the instance in memory
and leaves the other columns as they are stored. The instance may have been
read long before. -/
def Incident.Column.write (inst row : Incident) : Column → Incident
  | etat => { row with etat := inst.etat }
  | takenBy => { row with takenBy := inst.takenBy }
  | takeInChargeMode => { row with takeInChargeMode := inst.takeInChargeMode }
  | takenInChargeAt => { row with takenInChargeAt := inst.takenInChargeAt }
  | antigelWarned75 => { row with antigelWarned75 := inst.antigelWarned75 }
  | antigelWarned90 => { row with antigelWarned90 := inst.antigelWarned90 }
  | progress => { row with progress := inst.progress }
  | resolutionSubmittedBy => { row with resolutionSubmittedBy := inst.resolutionSubmittedBy }
  | resolutionSubmittedAt => { row with resolutionSubmittedAt := inst.resolutionSubmittedAt }
  | validationDeadline => { row with validationDeadline := inst.validationDeadline }
  | rejectionReason => { row with rejectionReason := inst.rejectionReason }

namespace Incident

def isResolved (incident : Incident) : Bool := decide (incident.etat = .resolved)

def isFinished (incident : Incident) : Bool :=
  decide (incident.etat = .resolved ∨ incident.etat = .resolvedDefinitive)

/-- The in-memory row of an incident in mode `collaborative`. An internal
incident becomes one as soon as somebody from outside is accepted. -/
def opened (incident : Incident) : Incident :=
  { incident with takeInChargeMode := some .collaborative }

/-- The override of `save`: a finished incident is at 100, whatever was
written. -/
def pinProgress (inst : Incident) : Incident :=
  if inst.isFinished then { inst with progress := 100 } else inst

/-- With `update_fields` the override has to name the progress, or it would
change the instance and not the row. -/
def savedColumns (inst : Incident) (columns : List Column) : List Column :=
  if inst.isFinished ∧ inst.progress ≠ 100 then columns ++ [.progress] else columns

def writeColumns (inst : Incident) (columns : List Column) (row : Incident) : Incident :=
  (inst.savedColumns columns).foldl (Column.write inst.pinProgress) row

theorem foldl_write_id (inst : Incident) (columns : List Column) (row : Incident) :
    (columns.foldl (Column.write inst) row).id = row.id := by
  induction columns generalizing row with
  | nil => rfl
  | cons c rest ih => rw [List.foldl_cons, ih]; cases c <;> rfl

theorem writeColumns_id (inst : Incident) (columns : List Column) (row : Incident) :
    (inst.writeColumns columns row).id = row.id :=
  foldl_write_id ..

@[simp] theorem pinProgress_id (inst : Incident) : inst.pinProgress.id = inst.id := by
  unfold pinProgress; split <;> rfl

@[simp] theorem pinProgress_etat (inst : Incident) : inst.pinProgress.etat = inst.etat := by
  unfold pinProgress; split <;> rfl

@[simp] theorem pinProgress_isFinished (inst : Incident) :
    inst.pinProgress.isFinished = inst.isFinished := by
  unfold isFinished; rw [pinProgress_etat]

@[simp] theorem pinProgress_takenBy (inst : Incident) :
    inst.pinProgress.takenBy = inst.takenBy := by
  unfold pinProgress; split <;> rfl

theorem pinProgress_progress {inst : Incident} (h : inst.isFinished = true) :
    inst.pinProgress.progress = 100 := by
  rw [pinProgress, if_pos h]

theorem pinProgress_open {inst : Incident} (h : inst.isFinished = false) :
    inst.pinProgress = inst := by
  rw [pinProgress, if_neg (Bool.not_eq_true _ ▸ h)]

def withProgress (row : Incident) (q : Nat) : Incident := { row with progress := q }

/-- Pinning the progress of the in-memory row only shows in that column. -/
theorem foldl_write_progress (inst : Incident) (p q : Nat) (columns : List Column)
    (row row' : Incident) (h : row.withProgress q = row'.withProgress q) :
    (columns.foldl (Column.write (inst.withProgress p)) row).withProgress q =
      (columns.foldl (Column.write inst) row').withProgress q := by
  induction columns generalizing row row' with
  | nil => exact h
  | cons c rest ih =>
      refine ih _ _ ?_
      calc (c.write (inst.withProgress p) row).withProgress q
          = (c.write inst (row.withProgress q)).withProgress q := by cases c <;> rfl
        _ = (c.write inst (row'.withProgress q)).withProgress q := by rw [h]
        _ = (c.write inst row').withProgress q := by cases c <;> rfl

/-- When the listed columns are all that changed in memory, the stored row
becomes the in-memory row, with its progress pinned. So a request that runs
alone may be read as writing the whole row, whatever list of columns its
author gave. -/
theorem writeColumns_eq {inst row : Incident} {columns : List Column}
    (h : columns.foldl (Column.write inst) row = inst) :
    inst.writeColumns columns row = inst.pinProgress := by
  unfold writeColumns savedColumns pinProgress
  by_cases hfin : inst.isFinished = true
  · by_cases hp : inst.progress = 100
    · have hinst : { inst with progress := 100 } = inst := by rw [← hp]
      simp [hfin, hp, hinst, h]
    · have hcols := foldl_write_progress inst 100 100 columns row row rfl
      rw [h] at hcols
      simp only [hfin, hp, ne_eq, not_false_eq_true, and_self, if_true, List.foldl_append,
        List.foldl_cons, List.foldl_nil]
      exact hcols
  · simp [hfin, h]

/-- A finished incident is stored at 100 % with its state, unless it is at 100 in memory. -/
theorem writeColumns_etat {inst : Incident} (h : inst.isFinished = true) (row : Incident) :
    inst.writeColumns [.etat] row =
      { row with
        etat := inst.etat
        progress := if inst.progress = 100 then row.progress else 100 } := by
  unfold writeColumns savedColumns pinProgress
  by_cases hp : inst.progress = 100
  · simp only [h, hp, ne_eq, not_true_eq_false, and_false, if_false, if_true]
    rfl
  · simp only [h, hp, ne_eq, not_false_eq_true, and_true, if_false, if_true]
    rfl

end Incident

namespace Db

def saveIncidentFields (inst : Incident) (columns : List Incident.Column) (db : Db) : Db :=
  { db with
    incidents := db.incidents.update inst.id (inst.writeColumns columns)
      (inst.writeColumns_id columns) }

def openIncident (incident : Incident) (db : Db) : Db :=
  db.saveIncidentFields incident.opened [.takeInChargeMode]

/-- A save of the whole row writes back all that has been read, the columns
that somebody else has changed since included. -/
def saveIncident (inst : Incident) (db : Db) : Db :=
  { db with incidents := db.incidents.put inst.pinProgress }

theorem get?_saveIncidentFields (db : Db) (inst : Incident) (columns : List Incident.Column)
    (j : IncidentId) :
    (db.saveIncidentFields inst columns).incidents.get? j =
      if j = inst.id then (db.incidents.get? j).map (inst.writeColumns columns)
      else db.incidents.get? j := by
  rw [saveIncidentFields, Table.get?_update]

theorem row_writeColumns {db : Db} {i : IncidentId} {row inst : Incident}
    {columns : List Incident.Column} (hrow : db.incidents.get? i = some row) (hid : inst.id = i) :
    (db.saveIncidentFields inst columns).incidents.get? i =
      some (inst.writeColumns columns row) := by
  rw [get?_saveIncidentFields, if_pos hid.symm, hrow, Option.map_some]

theorem incidents_saveIncidentFields_other {db : Db} {inst : Incident}
    {columns : List Incident.Column} {j : IncidentId} (hj : j ≠ inst.id) :
    (db.saveIncidentFields inst columns).incidents.get? j = db.incidents.get? j := by
  rw [get?_saveIncidentFields, if_neg hj]

/-- Saving listed columns right after the row was read stores the in-memory row. -/
theorem incidents_saveIncidentFields {db : Db} {row inst : Incident}
    {columns : List Incident.Column} (hrow : db.incidents.get? inst.id = some row)
    (h : columns.foldl (Incident.Column.write inst) row = inst) (j : IncidentId) :
    (db.saveIncidentFields inst columns).incidents.get? j =
      if j = inst.id then some inst.pinProgress else db.incidents.get? j := by
  rw [get?_saveIncidentFields]
  by_cases hj : j = inst.id
  · rw [if_pos hj, if_pos hj, hj, hrow, Option.map_some, Incident.writeColumns_eq h]
  · rw [if_neg hj, if_neg hj]

theorem row_saveIncidentFields {db : Db} {i : IncidentId} {row inst : Incident}
    {columns : List Incident.Column} (hrow : db.incidents.get? i = some row) (hid : inst.id = i)
    (h : columns.foldl (Incident.Column.write inst) row = inst) :
    (db.saveIncidentFields inst columns).incidents.get? i = some inst.pinProgress := by
  rw [row_writeColumns hrow hid, Incident.writeColumns_eq h]

theorem incidents_saveIncident (db : Db) (inst : Incident) (j : IncidentId) :
    (db.saveIncident inst).incidents.get? j =
      if j = inst.id then some inst.pinProgress else db.incidents.get? j := by
  unfold saveIncident
  rw [Table.get?_put]
  exact if_congr (by rw [show key inst.pinProgress = inst.id from inst.pinProgress_id]) rfl rfl

/-! ## Log and notifications -/

/-- `UserAction.objects.create(...)`, for a text that fits. Where it may not
fit, the view has `createUserAction`, which may fail. -/
def logAction (user : UserId) (action : String) (db : Db) : Db :=
  { db with userActions := db.userActions ++ [{ user := user, action := action }] }

def notify (notification : Notification) (db : Db) : Db :=
  { db with notifications := db.notifications ++ [notification] }

/-! ## Collaborations -/

/-- A collaboration about to be stored; the store gives it its id. In the
source the id is a fresh UUID, drawn in memory before the row is inserted. -/
def newCollaboration (i : IncidentId) (u : UserId) (role : CollabRole)
    (status : CollabStatus) : Collaboration :=
  { id := 0, incident := i, user := u, role := role, status := status, endDate := none,
    motivation := none, otherOption := none }

/-- An id that no row has. In the source it is a UUID, so that all that
matters of it is that it is new. -/
def freshCollaborationId (db : Db) : CollaborationId :=
  above (db.collaborations.rows.map Collaboration.id)

/-- `collaboration.delete()`: what points to the row goes with it. -/
def deleteCollaboration (c : Collaboration) (db : Db) : Db :=
  { db with
    collaborations := db.collaborations.erase (c.incident, c.user)
    notifications := db.notifications.filter fun n => decide (n.colaboration ≠ some c.id)
    discussionMessages := db.discussionMessages.filter fun m =>
      decide (m.collaboration ≠ c.id) }

def activityTitle (incident : Incident) : String :=
  (presentText incident.title).getD "un incident"

/-- The name under which a request for collaboration is announced. -/
def requestingOrganisation (db : Db) (requester : Option User) : String :=
  ((presentText (requester.bind fun u => (db.organisationOf u).map Organisation.name)).or
    (presentText (requester.bind User.organisation))).getD "Une organisation"

/-- The text the leader of an incident is notified with about a request of `u`.
It is not cut. -/
def requestMessage (db : Db) (incident : Incident) (u : UserId) : String :=
  "L'organisation " ++ db.requestingOrganisation (db.users.get? u) ++
    " souhaite collaborer sur l'incident " ++ printed incident.title ++ " (Zone: " ++
    incident.zone ++ ", Date: " ++ incident.createdOn ++ ")"

/-- `notify_organisation_on_collaboration`, for a new row `c` of the in-memory
`incident`. The flag tells that storing the notification failed: the receiver
swallows the error. -/
def notifyOrganisationOnCollaboration (incident : Incident) (c : Collaboration) (db : Db) :
    Bool × Db :=
  match db.user? incident.takenBy with
  | some leader =>
    if leader.id = c.user ∨ c.role = .leader then (false, db)
    else if leader.email ≠ "" then
      let message := db.requestMessage incident c.user
      if message.length ≤ maxTextLength then
        (false, db.notify
          { user := leader.id, notifType := .collaborationRequest, message := message
            colaboration := some c.id, incident := some incident.id })
      else (true, db)
    else (false, db.deleteCollaboration c)
  | none => (false, db.deleteCollaboration c)

/-- `ws_push_collaboration`, for a new row: the activity log. Its text is cut,
so it is always stored. -/
def wsPushCollaborationCreated (incident : Incident) (c : Collaboration) (db : Db) : Db :=
  db.logAction c.user
    (truncate 255 ("a demandé une collaboration sur l'incident «" ++ activityTitle incident ++
      "»."))

/-- The insert and its two receivers, in the order in which they are
connected. The second may delete the row again, which is what the boolean is
about. -/
def insertCollaboration (incident : Incident) (c : Collaboration) (db : Db) : Bool × Db :=
  ({ db with collaborations := db.collaborations.put c }.wsPushCollaborationCreated incident c)
    |>.notifyOrganisationOnCollaboration incident c

/-- `Collaboration.objects.create(...)`: nothing when the pair already has a
row (the integrity error of the unique constraint). The row and its receivers
are one action: nothing else runs between `INSERT` and `post_save`. -/
def createCollaboration (incident : Incident) (c : Collaboration) (db : Db) :
    Option Collaboration × Db :=
  if (db.collaboration? c.incident c.user).isSome then (none, db)
  else
    let c := { c with id := db.freshCollaborationId }
    (some c, (db.insertCollaboration incident c).2)

/-- The same inside a transaction, as `get_or_create` runs it: a swallowed
error of the database still rolls everything back. -/
def createCollaborationAtomic (incident : Incident) (c : Collaboration) (db : Db) :
    Option Collaboration × Db :=
  if (db.collaboration? c.incident c.user).isSome then (none, db)
  else
    let c := { c with id := db.freshCollaborationId }
    let (failed, db') := db.insertCollaboration incident c
    (some c, if failed then db else db')

/-- `collaboration.save()` of a row that was read before: store it, and log a
change to accepted or declined (`ws_push_collaboration`). -/
def saveCollaboration (c : Collaboration) (db : Db) : Db :=
  let db' := { db with collaborations := db.collaborations.put c }
  let old := (db.collaboration? c.incident c.user).map Collaboration.status
  let incident := db.incidents.get? c.incident
  let actor := (incident.bind Incident.takenBy).getD c.user
  let title := (incident.map activityTitle).getD "un incident"
  if old ≠ some c.status ∧ (c.status = .accepted ∨ c.status = .declined) then
    let verbe := if c.status = .accepted then "a accepté" else "a refusé"
    db'.logAction actor
      (truncate 255 (verbe ++ " une demande de collaboration sur l'incident «" ++ title ++ "»."))
  else db'

/-- `Collaboration.objects.filter(...).update(...)`: no receiver runs, so
nobody is told and nothing is logged. -/
def updateCollaborations (p : Collaboration → Bool) (role : CollabRole → CollabRole)
    (status : CollabStatus) (db : Db) : Db :=
  { db with
    collaborations := db.collaborations.updateWhere p fun c =>
      { c with role := role c.role, status := status } }

end Db

def otherContributors (i : IncidentId) (user : UserId) (c : Collaboration) : Bool :=
  decide (c.incident = i ∧ c.role = .contributor ∧ c.status = .accepted ∧ c.user ≠ user)

/-! ## As actions of a view -/

/-- `UserAction.objects.create(...)` by a view: a text that does not fit its
column is an error the view does not catch. -/
def createUserAction (user : UserId) (action : String) (view : UserAction → View) : View :=
  if action.length ≤ maxTextLength then do
    Prog.modify (Db.logAction user action)
    view { user := user, action := action }
  else pure .crash

/-- `get_or_create` of the pair of `c`: the row, and whether `create` made it.
Nothing when the insertion failed and the row cannot be found. -/
def getOrCreate (c : Collaboration) (create : Db → Option Collaboration × Db) :
    Prog Db (Option (Collaboration × Bool)) := do
  match ← Prog.read fun db => db.collaboration? c.incident c.user with
  | some row => pure (some (row, false))
  | none =>
    match ← Prog.atomic create with
    | some row => pure (some (row, true))
    | none =>
      match ← Prog.read fun db => db.collaboration? c.incident c.user with
      | some row => pure (some (row, false))
      | none => pure none

def getOrCreateCollaboration (incident : Incident) (c : Collaboration) :
    Prog Db (Option (Collaboration × Bool)) :=
  getOrCreate c (Db.createCollaborationAtomic incident c)

end Mapapi
