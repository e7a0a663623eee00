import Mapapi.TaskWrites
import Mapapi.Server

/-!
# Tasks of the leader

`IncidentTask.save` means to confirm the task of a leader at once: it asks whether the
instance has no primary key yet. An instance of `UUIDModel` gets its key from a default
when it is made, so the answer is no every time, and the task of a leader waits to be
confirmed like any other.

So the tasks of the leader and of a contributor are stored alike, and the
progress, which counts confirmed tasks only, is the same before and after.
-/

namespace Mapapi

open Lib

/-! ## IncidentTask.save -/

/-- By the row or by `taken_by`; a super admin does not count as such. -/
def Db.isCreatorLeader (db : Db) (incident : Incident) (creator : UserId) : Bool :=
  if db.leaderCollaborationExists incident.id creator then true
  else decide (incident.takenBy = some creator)

/-- `IncidentTask.save`, up to `super().save()`; `pk` is the key of the instance. -/
def IncidentTask.beforeSave (db : Db) (incident : Incident) (pk : Option TaskId)
    (task : IncidentTask) : IncidentTask :=
  if pk.isNone ∧ task.isConfirmed = false then
    if db.isCreatorLeader incident task.createdBy then { task with isConfirmed := true } else task
  else task

/-- `UUIDModel.id`, of an instance that was just made: the default is a fresh key. -/
def Db.newPk (db : Db) : Option TaskId := some db.tasks.freshKey

/-- So a new task is stored as it was made. -/
theorem insertTask_beforeSave (db : Db) (incident : Incident) (task : IncidentTask) :
    db.insertTask (task.beforeSave db incident db.newPk) = db.insertTask task := by
  have hsame : task.beforeSave db incident db.newPk = task :=
    if_neg fun h => Bool.false_ne_true h.1
  rw [hsame]

/-! ## The task of a request -/

section Creation

variable {db : Db} {auth : Option UserId} {i : IncidentId} {user : User} {incident : Incident}
  {data : TaskData}

/-- A task of the leader is stored as confirmed, and the progress is the one computed with
it. A task of another contributor is not, and the progress stays. -/
structure CountsAtOnce (db : Db) (auth : Option UserId) (i : IncidentId) (data : TaskData)
    (user : User) (incident : Incident) : Prop where
  leader : db.isCreatorLeader incident user.id = true →
    ∃ task db', (createTask auth i data).run db = (.ok 201 (.task task), db') ∧
      db'.tasks.get? task.id = some task ∧ task.isConfirmed = true ∧
        (db'.incidents.get? i).map Incident.progress = some (db'.computedProgress incident)
  contributor : db.isCreatorLeader incident user.id = false →
    db.contributorCollaborationExists i user.id = true →
      ∃ task db', (createTask auth i data).run db = (.ok 201 (.task task), db') ∧
        db'.tasks.get? task.id = some task ∧ task.isConfirmed = false ∧
          (db'.incidents.get? i).map Incident.progress = some incident.progress

/-- No request stores a confirmed task. -/
theorem createTask_unconfirmed {task : IncidentTask} {db' : Db}
    (hauth : db.authenticated auth = some user) (hfields : taskFieldErrors false data db = [])
    (hvalid : validateTask none (data.over (.blank i user.id)) = none)
    (hinc : db.incidents.get? i = some incident) (hopen : incident.isResolved = false)
    (hrun : (createTask auth i data).run db = (.ok 201 (.task task), db')) :
    task.isConfirmed = false := by
  cases hworks : db.worksOn user i with
  | true =>
      rw [createTask_passes hauth hworks hfields hvalid hinc hopen] at hrun
      cases hrun
      rfl
  | false =>
      unfold createTask permitLeaderOrContributor at hrun
      rw [authenticate_passes hauth, Prog.run_bind, run_isIncidentLeaderOrContributor, hworks]
        at hrun
      cases hrun

theorem computedProgress_put {task : IncidentTask} (hnew : db.tasks.get? task.id = none)
    (hconfirmed : task.isConfirmed = false) :
    (db.withTasks (db.tasks.put task)).computedProgress incident =
      db.computedProgress incident := by
  have hold : ∀ row, db.tasks.get? (key task) = some row → False := by
    intro row hrow
    rw [show key task = task.id from rfl, hnew] at hrow
    cases hrow
  have hcount (p : IncidentTask → Bool) (hp : p task = false) :
      (db.tasks.put task).select p = db.tasks.select p :=
    Table.select_put _ _ hp fun row hrow => (hold row hrow).elim
  have hall : (db.withTasks (db.tasks.put task)).confirmedTasks incident.id =
      db.confirmedTasks incident.id := hcount _ (by simp [hconfirmed])
  have hdone : (db.withTasks (db.tasks.put task)).doneTasks incident.id =
      db.doneTasks incident.id := hcount _ (by simp [hconfirmed])
  unfold Db.computedProgress
  rw [hall, hdone]

theorem progress_created {task : IncidentTask} (hinc : db.incidents.get? i = some incident)
    (hnew : db.tasks.get? task.id = none) (hconfirmed : task.isConfirmed = false) :
    (((db.withTasks (db.tasks.put task)).recompute i).incidents.get? i).map Incident.progress =
      some (db.computedProgress incident) := by
  have hinc' : (db.withTasks (db.tasks.put task)).incidents.get? i = some incident := hinc
  rw [recompute_row hinc', Option.map_some]
  exact congrArg some (computedProgress_put hnew hconfirmed)

/-- On an incident that is not resolved, a valid task counts at once as it
should exactly when it is not the leader's, and the progress stored so far is
the computed one. No task is confirmed when it is created, so the leader's
never counts. -/
theorem tasks_count_at_once_iff (db : Db) (auth : Option UserId) (i : IncidentId)
    (data : TaskData) (user : User) (incident : Incident)
    (hauth : db.authenticated auth = some user) (hinc : db.incidents.get? i = some incident)
    (hopen : incident.etat ≠ .resolved) (hfields : taskFieldErrors false data db = [])
    (hvalid : validateTask none (data.over (.blank i user.id)) = none) :
    CountsAtOnce db auth i data user incident ↔
      db.isCreatorLeader incident user.id = false ∧
        (db.contributorCollaborationExists i user.id = true → db.ProgressRight incident) := by
  have hopen' : incident.isResolved = false := by simpa [Incident.isResolved] using hopen
  have hworks (hcontributes : db.contributorCollaborationExists i user.id = true) :
      db.worksOn user i = true := by
    unfold Db.worksOn
    rw [hinc]
    simp [hcontributes]
  constructor
  · rintro ⟨hleader, hcontributor⟩
    have hnot : db.isCreatorLeader incident user.id = false := by
      refine Bool.eq_false_iff.mpr fun hleads => ?_
      obtain ⟨task, db', hrun, -, hconfirmed, -⟩ := hleader hleads
      rw [createTask_unconfirmed hauth hfields hvalid hinc hopen' hrun] at hconfirmed
      cases hconfirmed
    refine ⟨hnot, fun hcontributes => ?_⟩
    obtain ⟨task, db', hrun, -, -, hprogress⟩ := hcontributor hnot hcontributes
    rw [createTask_passes hauth (hworks hcontributes) hfields hvalid hinc hopen'] at hrun
    cases hrun
    rw [progress_created hinc (Table.get?_freshKey _) rfl] at hprogress
    exact (Option.some.inj hprogress).symm
  · rintro ⟨hnot, hright⟩
    refine ⟨fun hleads => ?_, fun _ hcontributes => ?_⟩
    · rw [hnot] at hleads
      cases hleads
    · refine ⟨_, _, createTask_passes hauth (hworks hcontributes) hfields hvalid hinc hopen', ?_,
        rfl, ?_⟩
      · rw [tasks_recompute]
        exact (Table.get?_put ..).trans (if_pos rfl)
      · rw [progress_created hinc (Table.get?_freshKey _) rfl]
        exact congrArg some (hright hcontributes).symm

end Creation

def workedOn : Incident :=
  { Incident.new 1 (some "Fuite") "Bamako" "01-02-2025" with
    etat := .taken, takenBy := some 2, takeInChargeMode := some .collaborative }

def contributedStore : Db :=
  { Db.start [{ id := 1, name := "Voirie" }, { id := 2, name := "Eau" }]
      [.member 2 "voirie@map.ml" .orgAdmin 1, .member 3 "eau@map.ml" .orgAdmin 2] workedOn with
    collaborations :=
      Table.empty.put { Db.newCollaboration 1 3 .contributor .accepted with id := 1 } }

def plainTask : TaskData :=
  { title := .value "Colmater", description := .absent, startDate := .value 0, endDate := .value 1
    state := .absent, proofImage := .absent, proofVideo := .absent, failureReason := .absent
    assignedTo := .absent }

/-- The task of the contributor waits, and the progress stays. -/
theorem tasks_count_at_once_contributor :
    CountsAtOnce contributedStore (some 3) 1 plainTask (.member 3 "eau@map.ml" .orgAdmin 2)
      workedOn :=
  (tasks_count_at_once_iff contributedStore (some 3) 1 plainTask
    (.member 3 "eau@map.ml" .orgAdmin 2) workedOn (by decide) (by decide) (by decide) (by decide)
    (by decide)).mpr ⟨by decide, fun _ => by decide⟩

/-- So does the task of the leader. -/
theorem leader_task_waits :
    contributedStore.isCreatorLeader workedOn 2 = true ∧
      ((createTask (some 2) 1 plainTask).run contributedStore).1.status = 201 ∧
        ((createTask (some 2) 1 plainTask).run contributedStore).2.tasks.rows.map
          IncidentTask.isConfirmed = [false] ∧
          ¬ CountsAtOnce contributedStore (some 2) 1 plainTask
            (.member 2 "voirie@map.ml" .orgAdmin 1) workedOn := by
  refine ⟨by decide, by decide, by decide, fun h => ?_⟩
  obtain ⟨task, db', hrun, -, hconfirmed, -⟩ := h.leader (by decide)
  have hauth : contributedStore.authenticated (some 2) =
      some (.member 2 "voirie@map.ml" .orgAdmin 1) := rfl
  rw [createTask_unconfirmed hauth (by decide) (by decide) rfl (by decide) hrun] at hconfirmed
  cases hconfirmed

end Mapapi
