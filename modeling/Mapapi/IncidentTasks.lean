import Mapapi.Orm

/-!
# The tasks of an incident

The endpoints of `views/task.py`: create, update (`PUT`, `PATCH`), delete,
confirm, complete, fail and relaunch. Creating and updating go through
`IncidentTaskSerializer`, which checks the row as it would be stored; the four
actions check by hand what they need.

Saving or deleting a task recomputes the progress of its incident
(`update_progress`), one read after the other. The incident is the in-memory
row the request holds: read before the save when a serializer or `delete` has
looked at it, after the save otherwise.

Of the incident the save writes the progress and nothing else, so a request
that holds an old row does not undo what another one has done to the state. It
does compute the progress from the state it has read, though, and the tasks
are counted after it: `ConcurrentProgress.lean` is about what that leaves.
-/

namespace Mapapi

open Lib

/-! ## update_progress -/

/-- `round(n / d)`: to the nearest integer, and to the even one of two. The
source divides in floating point, which rounds the same way as long as there
are fewer than 2^45 tasks. -/
def roundHalfEven (n d : Nat) : Nat :=
  if 2 * (n % d) < d then n / d
  else if d < 2 * (n % d) then n / d + 1
  else if n / d % 2 = 0 then n / d else n / d + 1

/-- No integer is nearer, and of two that are as near the even one is taken. -/
theorem roundHalfEven_nearest (n : Nat) {d : Nat} (hd : 0 < d) :
    2 * n ≤ (2 * roundHalfEven n d + 1) * d ∧ 2 * roundHalfEven n d * d ≤ 2 * n + d ∧
      (2 * (n % d) = d → roundHalfEven n d % 2 = 0) := by
  have hn : d * (n / d) + n % d = n := Nat.div_add_mod n d
  have hlt : n % d < d := Nat.mod_lt n hd
  unfold roundHalfEven
  generalize n / d = q at *
  generalize n % d = r at *
  have hlow : (2 * q + 1) * d = 2 * (d * q) + d := by grind
  have hhigh : (2 * (q + 1) + 1) * d = 2 * (d * q) + 3 * d := by grind
  have heven : 2 * q * d = 2 * (d * q) := by grind
  have heven' : 2 * (q + 1) * d = 2 * (d * q) + 2 * d := by grind
  split
  · refine ⟨?_, ?_, ?_⟩ <;> omega
  · split
    · refine ⟨?_, ?_, ?_⟩ <;> omega
    · split <;> refine ⟨?_, ?_, ?_⟩ <;> omega

namespace Db

/-- The progress counts confirmed tasks only, in both of its numbers. -/
def confirmedTasks (db : Db) (i : IncidentId) : List IncidentTask :=
  db.tasks.select fun task => decide (task.incident = i ∧ task.isConfirmed = true)

def doneTasks (db : Db) (i : IncidentId) : List IncidentTask :=
  db.tasks.select fun task =>
    decide (task.incident = i ∧ task.isConfirmed = true ∧ task.state = .done)

def saveProgress (incident : Incident) (progress : Nat) (db : Db) : Db :=
  db.saveIncidentFields (incident.withProgress progress) [.progress]

/-- Store a task, if its incident exists (the foreign key). -/
def saveTask (task : IncidentTask) (db : Db) : Bool × Db :=
  if (db.incidents.get? task.incident).isSome then
    (true, { db with tasks := db.tasks.put task })
  else (false, db)

def insertTask (task : IncidentTask) (db : Db) : Option IncidentTask × Db :=
  let task := { task with id := db.tasks.freshKey }
  let (stored, db') := db.saveTask task
  (if stored then some task else none, db')

def deleteTask (id : TaskId) (db : Db) : Db := { db with tasks := db.tasks.erase id }

end Db

/-- `Incident.update_progress`, of the in-memory row `incident`: the confirmed
tasks are counted, then those of them that are done, then the share is saved,
in three actions. An incident that was finished when it was read is saved at
100 %, without a look at its tasks. -/
def updateProgress (incident : Incident) (reply : Response) : View :=
  if incident.isFinished then do
    Prog.modify (Db.saveProgress incident 100)
    pure reply
  else do
    let total ← Prog.read fun db => (db.confirmedTasks incident.id).length
    countDone incident total reply
where
  countDone (incident : Incident) (total : Nat) (reply : Response) : View :=
    if total = 0 then save incident 0 reply
    else do
      let done ← Prog.read fun db => (db.doneTasks incident.id).length
      save incident (roundHalfEven (done * 100) total) reply
  save (incident : Incident) (progress : Nat) (reply : Response) : View := do
    Prog.modify (Db.saveProgress incident progress)
    pure reply

/-- `self.incident.update_progress()`, for an incident that is read now. A
missing incident is an error that is swallowed. -/
def fetchAndUpdate (i : IncidentId) (reply : Response) : View := do
  match ← Prog.read fun db => db.incidents.get? i with
  | none => pure reply
  | some incident => updateProgress incident reply

/-- `task.save()` of a task whose incident has not been read yet. -/
def saveTask (task : IncidentTask) : View := do
  if ← Prog.atomic (Db.saveTask task) then fetchAndUpdate task.incident (.ok 200 (.task task))
  else pure .crash

/-! ## Permission -/

def isIncidentLeaderOrContributorMessage : String :=
  "Seul le leader ou un contributeur peut effectuer cette action."

/-- On an internal incident the whole organisation of the one in charge works,
without rows. Somebody without an organisation belongs to none, so two of them
do not share one. -/
def isInternalOrgMember (incident : Incident) (user : User) : Prog Db Bool :=
  if incident.takeInChargeMode = some .internal then do
    let owner ← Prog.read fun db => db.user? incident.takenBy
    pure ((owner.bind User.organisationMember).any fun organisation =>
      decide (user.organisationMember = some organisation))
  else pure false

def Db.contributorCollaborationExists (db : Db) (i : IncidentId) (u : UserId) : Bool :=
  (db.collaboration? i u).any fun c => decide (c.role = .contributor ∧ c.status = .accepted)

/-- `IsIncidentLeaderOrContributor.has_permission`, for a request that writes:
the user in `taken_by`, a member of the owning organisation on an internal
incident, or an accepted contributor. An accepted leader row is none of these. -/
def isIncidentLeaderOrContributor (user : User) (i : IncidentId) : Prog Db Bool :=
  if isSuperAdmin user then pure true
  else do
    match ← Prog.read fun db => db.incidents.get? i with
    | none => pure true
    | some incident =>
      if incident.takenBy = some user.id then pure true
      else if ← isInternalOrgMember incident user then pure true
      else Prog.read fun db => db.contributorCollaborationExists i user.id

/-- The answer of the permission in a store, as one Boolean. The permission
looks at the rows one after the other and stops at the first that lets the
user in; `run_isIncidentLeaderOrContributor` says that alone this comes to the
same. -/
def Db.worksOn (db : Db) (user : User) (i : IncidentId) : Bool :=
  isSuperAdmin user ||
    match db.incidents.get? i with
    | none => true
    | some incident =>
      decide (incident.takenBy = some user.id) ||
        decide (incident.takeInChargeMode = some .internal) &&
          (((db.user? incident.takenBy).bind User.organisationMember).any fun organisation =>
            decide (user.organisationMember = some organisation)) ||
        db.contributorCollaborationExists i user.id

@[simp] theorem run_isIncidentLeaderOrContributor (user : User) (i : IncidentId) (db : Db) :
    (isIncidentLeaderOrContributor user i).run db = (db.worksOn user i, db) := by
  unfold isIncidentLeaderOrContributor Db.worksOn
  cases hsuper : isSuperAdmin user with
  | true => rfl
  | false =>
      cases hinc : db.incidents.get? i with
      | none => simp [hinc]
      | some incident =>
          by_cases htaken : incident.takenBy = some user.id
          · simp [hinc, htaken]
          · by_cases hmode : incident.takeInChargeMode = some .internal
            · cases hmember : ((db.user? incident.takenBy).bind User.organisationMember).any
                fun organisation => decide (user.organisationMember = some organisation) <;>
                simp [hinc, htaken, hmode, hmember, isInternalOrgMember]
            · simp [hinc, htaken, hmode, isInternalOrgMember]

def permitLeaderOrContributor (user : User) (i : IncidentId) (view : View) : View := do
  if ← isIncidentLeaderOrContributor user i then view
  else pure (.error 403 isIncidentLeaderOrContributorMessage)

/-! ## IncidentTaskSerializer -/

/-- The fields a client may write. The two proofs are the names of uploaded files,
which no `CharField` strips. -/
structure TaskData where
  title : Arg String
  description : Arg String
  startDate : Arg Date
  endDate : Arg Date
  state : Arg TaskState
  proofImage : Arg String
  proofVideo : Arg String
  failureReason : Arg String
  assignedTo : Arg UserId
  deriving DecidableEq

/-- The problem of a date, which is not nullable and has no default: a `PUT`
has to send it, a `PATCH` may leave it out. -/
def dateProblem (partialUpdate : Bool) : Arg Date → Option FieldProblem
  | .absent => if partialUpdate then none else some .required
  | .null => some .null
  | .invalid => some .invalid
  | .value _ => none

/-- Confirmation and creator are no fields: the first belongs to the leader,
the second is set once. -/
def taskFieldErrors (partialUpdate : Bool) (data : TaskData) (db : Db) : List FieldError :=
  fieldErrors
    [("title", textProblem partialUpdate 255 data.title.stripped),
      ("description", parsedProblem data.description),
      ("start_date", dateProblem partialUpdate data.startDate),
      ("end_date", dateProblem partialUpdate data.endDate),
      ("state", defaultProblem data.state),
      ("proof_image", nullableProblem 100 data.proofImage),
      ("proof_video", nullableProblem 100 data.proofVideo),
      ("failure_reason", parsedProblem data.failureReason),
      ("assigned_to", userProblem db data.assignedTo)]

/-- The row as it would be stored: the data over the row `task`. -/
def TaskData.over (task : IncidentTask) (data : TaskData) : IncidentTask :=
  { task with
    title := data.title.stripped.over task.title
    description := data.description.stripped.overNullable task.description
    startDate := data.startDate.over task.startDate
    endDate := data.endDate.over task.endDate
    state := data.state.over task.state
    proofImage := data.proofImage.overNullable task.proofImage
    proofVideo := data.proofVideo.overNullable task.proofVideo
    failureReason := data.failureReason.stripped.overNullable task.failureReason
    assignedTo := data.assignedTo.overNullable task.assignedTo }

/-- A file name that is there. An empty one counts as none. -/
def IncidentTask.hasProof (task : IncidentTask) : Bool :=
  (presentText task.proofImage).isSome || (presentText task.proofVideo).isSome

/-- `IncidentTaskSerializer.validate`, on the row as it would be stored. The
incident is that of the row to update; a new row has none yet. -/
def validateTask (incident : Option Incident) (task : IncidentTask) : Option String :=
  if incident.any Incident.isResolved then
    some "Impossible de modifier les tâches d'un incident clôturé."
  else if task.endDate < task.startDate then
    some "start_date doit être antérieure ou égale à end_date."
  else if task.state = .done ∧ task.hasProof = false then
    some "Une tâche marquée 'done' doit fournir une preuve (image ou vidéo)."
  else if task.state = .failed ∧ presentText task.failureReason = none then
    some "Une tâche marquée 'failed' doit inclure un motif (failure_reason)."
  else none

def validated (incident : Option Incident) (task : IncidentTask) (view : View) : View :=
  match validateTask incident task with
  | some message => pure (.invalid [{ field := "non_field_errors", problem := .text message }])
  | none => view

/-! ## Create, update, delete -/

/-- A task before its data, with the defaults of the columns. No value of
`start_date` and `end_date` is ever taken from here: they are required. -/
def IncidentTask.blank (i : IncidentId) (user : UserId) : IncidentTask :=
  { id := 0, incident := i, title := "", description := none, startDate := 0, endDate := 0
    state := .pending, proofImage := none, proofVideo := none, failureReason := none
    assignedTo := none, createdBy := user, isConfirmed := false }

/-- `IncidentTaskListCreateView.post`. The id of a new row is set before
`IncidentTask.save` looks at it, so no task is confirmed by its creation. -/
def createTask (auth : Option UserId) (i : IncidentId) (data : TaskData) : View :=
  authenticate auth fun user =>
  permitLeaderOrContributor user i do
  let errors ← Prog.read (taskFieldErrors false data)
  refuseIf (!errors.isEmpty) (.invalid errors) <|
    let task := data.over (.blank i user.id)
    validated none task do
    match ← Prog.read fun db => db.incidents.get? i with
    | none => pure .crash
    | some incident =>
      -- raised by the view, so the message is not under the name of a field
      refuseIf incident.isResolved (.invalid [{
        field := ""
        problem := .text "Impossible d'ajouter une tâche : l'incident est clôturé." }]) do
      match ← Prog.atomic (Db.insertTask task) with
      | none => pure .crash
      | some task => updateProgress incident (.ok 201 (.task task))

def taskNotFound : String := "Tâche non trouvée."

def Db.task? (db : Db) (i : IncidentId) (pk : TaskId) : Option IncidentTask :=
  (db.tasks.get? pk).filter fun task => decide (task.incident = i)

def getTask (i : IncidentId) (pk : TaskId) (view : IncidentTask → View) : View := do
  match ← Prog.read fun db => db.task? i pk with
  | none => pure (.error 404 taskNotFound)
  | some task => view task

/-- `IncidentTaskDetailView.put`, and `patch` with `partialUpdate`. The
serializer checks the row with the new values over it, against the incident of
the row, and the progress is recomputed for the incident as it was read then. -/
def updateTask (auth : Option UserId) (i : IncidentId) (pk : TaskId) (partialUpdate : Bool)
    (data : TaskData) : View :=
  authenticate auth fun user =>
  permitLeaderOrContributor user i <|
  getTask i pk fun task => do
  let errors ← Prog.read (taskFieldErrors partialUpdate data)
  refuseIf (!errors.isEmpty) (.invalid errors) do
  match ← Prog.read fun db => db.incidents.get? task.incident with
  | none => pure .crash
  | some incident =>
    let task' := data.over task
    validated (some incident) task' do
    if ← Prog.atomic (Db.saveTask task') then updateProgress incident (.ok 200 (.task task'))
    else pure .crash

/-- `IncidentTaskDetailView.delete`. It goes by no serializer, so a task of a
resolved incident can be deleted. -/
def deleteTask (auth : Option UserId) (i : IncidentId) (pk : TaskId) : View :=
  authenticate auth fun user =>
  permitLeaderOrContributor user i <|
  getTask i pk fun task => do
  match ← Prog.read fun db => db.incidents.get? task.incident with
  | none => pure .crash
  | some incident =>
    Prog.modify (Db.deleteTask pk)
    updateProgress incident (.ok 204 .noContent)

/-! ## Confirm, complete, fail, relaunch -/

/-- `IncidentTaskConfirmView.post`, which asks for the leader. A task is
confirmed whatever its state. -/
def confirmTask (auth : Option UserId) (i : IncidentId) (pk : TaskId) : View :=
  authenticate auth fun user =>
  permitLeader user i <|
  getTask i pk fun task =>
  saveTask { task with isConfirmed := true }

/-- A text that is not empty. -/
abbrev Text := { s : String // s ≠ "" }

/-- A field that a view reads by hand and tests for truth. `unusable` is a true
value that the column cannot store: the save raises. -/
inductive Given where
  | nothing
  | unusable
  | text (s : Text)

def Given.photo : Given := .text ⟨"tasks/proofs/1.jpg", by decide⟩

/-- The column after `if value: task.column = value`. -/
def Given.over (old : Option String) : Given → Option String
  | text s => some s.val
  | _ => old

def Given.isTrue : Given → Bool
  | nothing => false
  | _ => true

def Given.isUnusable : Given → Bool
  | unusable => true
  | _ => false

/-- `IncidentTaskCompleteView.post`. A proof is an uploaded file or a text,
which is taken for the path of one. -/
def completeTask (auth : Option UserId) (i : IncidentId) (pk : TaskId)
    (proofImage proofVideo : Given) : View :=
  authenticate auth fun user =>
  permitLeaderOrContributor user i <|
  getTask i pk fun task =>
  refuseIf (!proofImage.isTrue && !proofVideo.isTrue) (.error 400
    "Une tâche terminée doit fournir une preuve (proof_image ou proof_video).") <|
  refuseIf (proofImage.isUnusable || proofVideo.isUnusable) .crash <|
  saveTask { task with
    state := .done
    proofImage := proofImage.over task.proofImage
    proofVideo := proofVideo.over task.proofVideo }

def failTask (auth : Option UserId) (i : IncidentId) (pk : TaskId) (failureReason : Given) :
    View :=
  authenticate auth fun user =>
  permitLeaderOrContributor user i <|
  getTask i pk fun task =>
  match failureReason with
  | .nothing => pure (.error 400 "Un motif d'échec (failure_reason) est requis.")
  | .unusable => pure .crash
  | .text reason => saveTask { task with state := .failed, failureReason := some reason.val }

/-- `IncidentTaskRelaunchView.post`: the reason of the failure stays. -/
def relaunchTask (auth : Option UserId) (i : IncidentId) (pk : TaskId) : View :=
  authenticate auth fun user =>
  permitLeader user i <|
  getTask i pk fun task =>
  refuseIf (decide (task.state ≠ .failed))
    (.error 400 "Seule une tâche échouée (failed) peut être relancée.") <|
  saveTask { task with state := .pending }

/-- A request to one of the endpoints. The body of each is a parameter, so
that what is proved for every request is proved for every body. -/
inductive TaskRequest where
  | create (auth : Option UserId) (i : IncidentId) (data : TaskData)
  | update (auth : Option UserId) (i : IncidentId) (pk : TaskId) (partialUpdate : Bool)
      (data : TaskData)
  | delete (auth : Option UserId) (i : IncidentId) (pk : TaskId)
  | confirm (auth : Option UserId) (i : IncidentId) (pk : TaskId)
  | complete (auth : Option UserId) (i : IncidentId) (pk : TaskId)
      (proofImage proofVideo : Given)
  | fail (auth : Option UserId) (i : IncidentId) (pk : TaskId) (failureReason : Given)
  | relaunch (auth : Option UserId) (i : IncidentId) (pk : TaskId)

def TaskRequest.view : TaskRequest → View
  | create auth i data => createTask auth i data
  | update auth i pk partialUpdate data => updateTask auth i pk partialUpdate data
  | delete auth i pk => deleteTask auth i pk
  | confirm auth i pk => confirmTask auth i pk
  | complete auth i pk image video => completeTask auth i pk image video
  | fail auth i pk reason => failTask auth i pk reason
  | relaunch auth i pk => relaunchTask auth i pk

end Mapapi
