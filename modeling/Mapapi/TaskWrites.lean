import Mapapi.IncidentTasks

/-!
# What the task endpoints store

Every request to a task endpoint that is not refused does two things: it
changes the table of tasks by one row of the incident (`TaskStored`), and it
recomputes the progress of the incident from the rows as they are then
(`Db.recompute`). A request that is refused changes nothing.

`TaskStored` has one constructor for each of the seven requests, with what the
request has checked about the row it changes. The progress is a function of
the tasks of the incident and of two of its columns (`computedProgress`), so a
law about the tasks, about the progress or about what is pushed to the boards
needs no view: it is a case analysis on the row that is stored.
-/

namespace Mapapi

open Lib

/-! ## The recomputed progress -/

namespace Db

/-- What `update_progress` computes for an incident row. -/
def computedProgress (db : Db) (incident : Incident) : Nat :=
  if incident.isFinished then 100
  else if (db.confirmedTasks incident.id).length = 0 then 0
  else roundHalfEven ((db.doneTasks incident.id).length * 100)
    (db.confirmedTasks incident.id).length

/-- The stored number is the one that the tasks give now. -/
def ProgressRight (db : Db) (incident : Incident) : Prop :=
  incident.progress = db.computedProgress incident

instance (db : Db) (incident : Incident) : Decidable (db.ProgressRight incident) :=
  inferInstanceAs (Decidable (incident.progress = db.computedProgress incident))

/-- `update_progress` as one step: it fetches the row and the tasks again, so
that nothing the request has read enters. -/
def recompute (i : IncidentId) (db : Db) : Db :=
  match db.incidents.get? i with
  | none => db
  | some incident => db.saveProgress incident (db.computedProgress incident)

def withTasks (tasks : Table IncidentTask) (db : Db) : Db := { db with tasks := tasks }

variable {db db' : Db} {incident incident' : Incident}

/-- Pinning the progress does not change the progress that is computed. -/
@[simp] theorem computedProgress_pinProgress :
    db.computedProgress incident.pinProgress = db.computedProgress incident := by
  unfold computedProgress
  rw [Incident.pinProgress_isFinished, Incident.pinProgress_id]

/-- The computed progress is about the tasks and two columns of the incident:
its id, and whether it is finished. So writes to other tables and columns can
be ignored. -/
theorem computedProgress_congr (htasks : db'.tasks = db.tasks)
    (hid : incident'.id = incident.id) (hfinished : incident'.isFinished = incident.isFinished) :
    db'.computedProgress incident' = db.computedProgress incident := by
  unfold computedProgress confirmedTasks doneTasks
  rw [htasks, hid, hfinished]

/-- A finished incident that is stored is at the right progress. -/
theorem progressRight_pinProgress (h : incident.isFinished = true) :
    db.ProgressRight incident.pinProgress := by
  unfold ProgressRight
  rw [Incident.pinProgress_progress h, computedProgress_pinProgress, computedProgress, if_pos h]

end Db

/-! ## One row of the incident -/

/-- The table of tasks after a request about the incident `i`. -/
inductive TaskStored (db : Db) (i : IncidentId) : TaskRequest → Table IncidentTask → Prop where
  | create {auth data task incident} (hinc : db.incidents.get? i = some incident)
      (hopen : incident.etat ≠ .resolved) (hincident : task.incident = i)
      (hid : db.tasks.get? task.id = none) :
      TaskStored db i (.create auth i data) (db.tasks.put task)
  | update {auth pk partialUpdate data task incident}
      (hinc : db.incidents.get? i = some incident) (hopen : incident.etat ≠ .resolved)
      (htask : db.task? i pk = some task) :
      TaskStored db i (.update auth i pk partialUpdate data) (db.tasks.put (data.over task))
  | delete {auth pk task} (htask : db.task? i pk = some task) :
      TaskStored db i (.delete auth i pk) (db.tasks.erase pk)
  | confirm {auth pk task} (htask : db.task? i pk = some task) :
      TaskStored db i (.confirm auth i pk) (db.tasks.put { task with isConfirmed := true })
  | complete {auth pk task proofImage proofVideo} (htask : db.task? i pk = some task) :
      TaskStored db i (.complete auth i pk proofImage proofVideo) (db.tasks.put { task with
        state := .done
        proofImage := proofImage.over task.proofImage
        proofVideo := proofVideo.over task.proofVideo })
  | fail {auth pk task reason} (htask : db.task? i pk = some task) :
      TaskStored db i (.fail auth i pk (.text reason)) (db.tasks.put { task with
        state := .failed, failureReason := some reason.val })
  | relaunch {auth user pk task} (hauth : db.authenticated auth = some user)
      (hleads : db.leads user i = true) (htask : db.task? i pk = some task)
      (hfailed : task.state = .failed) :
      TaskStored db i (.relaunch auth i pk) (db.tasks.put { task with state := .pending })

/-- What a request that stores a row leaves. No row of an incident that is missing is
stored: saving it raises `Incident.DoesNotExist`, or breaks the foreign key. -/
def TaskRequest.Stores (request : TaskRequest) (db : Db) (i : IncidentId) (db' : Db) : Prop :=
  (db.incidents.get? i).isSome = true ∧
    ∃ tasks, TaskStored db i request tasks ∧ db' = (db.withTasks tasks).recompute i

def TaskRequest.incident : TaskRequest → IncidentId
  | create _ i _ | update _ i _ _ _ | delete _ i _ | confirm _ i _ | complete _ i _ _ _
  | fail _ i _ _ | relaunch _ i _ => i

/-! ## Recomputing -/

variable {db : Db} {auth : Option UserId} {i : IncidentId} {pk : TaskId} {user : User}
  {incident : Incident} {task : IncidentTask} {reply : Response} {out : Response × Db}

theorem updateProgress_run :
    (updateProgress incident reply).run db =
      (reply, db.saveProgress incident (db.computedProgress incident)) := by
  unfold updateProgress Db.computedProgress
  by_cases hfin : incident.isFinished = true
  · simp [hfin]
  · by_cases htotal : (db.confirmedTasks incident.id).length = 0 <;>
      simp [hfin, htotal, updateProgress.countDone, updateProgress.save]

theorem recompute_of_get? (h : db.incidents.get? i = some incident) :
    db.recompute i = db.saveProgress incident (db.computedProgress incident) := by
  unfold Db.recompute
  rw [h]

/-- Only the progress of the incident changes. -/
theorem incidents_recompute (db : Db) (i j : IncidentId) :
    (db.recompute i).incidents.get? j = (db.incidents.get? j).map fun incident =>
      if j = i then incident.withProgress (db.computedProgress incident) else incident := by
  cases hinc : db.incidents.get? i with
  | none =>
      have hself : db.recompute i = db := by
        unfold Db.recompute
        rw [hinc]
      rw [hself]
      by_cases hj : j = i
      · rw [hj, hinc]
        rfl
      · simp [hj]
  | some incident =>
      have hid : incident.id = i := Table.key_of_get? hinc
      rw [recompute_of_get? hinc, Db.saveProgress,
        Db.incidents_saveIncidentFields (show _ = some incident from hid ▸ hinc) rfl]
      have hpin : (incident.withProgress (db.computedProgress incident)).pinProgress =
          incident.withProgress (db.computedProgress incident) := by
        cases hfin : incident.isFinished with
        | false => exact Incident.pinProgress_open hfin
        | true =>
            have hfull : db.computedProgress incident = 100 := if_pos hfin
            rw [hfull]
            exact if_pos hfin
      rw [hpin, show (incident.withProgress (db.computedProgress incident)).id = i from hid]
      by_cases hj : j = i
      · rw [if_pos hj, hj, hinc, Option.map_some, if_pos rfl]
      · simp [hj]

theorem recompute_row (h : db.incidents.get? i = some incident) :
    (db.recompute i).incidents.get? i =
      some (incident.withProgress (db.computedProgress incident)) := by
  rw [incidents_recompute, h, Option.map_some, if_pos rfl]

theorem tasks_recompute (db : Db) (i : IncidentId) : (db.recompute i).tasks = db.tasks := by
  unfold Db.recompute
  split <;> rfl

theorem fetchAndUpdate_run :
    (fetchAndUpdate i reply).run db = (reply, db.recompute i) := by
  unfold fetchAndUpdate Db.recompute
  rw [Prog.run_bind, Prog.run_read]
  cases h : db.incidents.get? i with
  | none => rfl
  | some incident => exact updateProgress_run

theorem Db.saveTask_eq (h : db.incidents.get? task.incident = some incident) :
    db.saveTask task = (true, db.withTasks (db.tasks.put task)) := by
  unfold Db.saveTask
  rw [h]
  rfl

theorem Db.insertTask_eq (task : IncidentTask)
    (h : db.incidents.get? task.incident = some incident) :
    db.insertTask task = (some { task with id := db.tasks.freshKey },
      db.withTasks (db.tasks.put { task with id := db.tasks.freshKey })) := by
  have h' : db.incidents.get? { task with id := db.tasks.freshKey }.incident = some incident := h
  unfold Db.insertTask
  dsimp only
  rw [Db.saveTask_eq h']
  rfl

theorem saveTask_run (h : db.incidents.get? task.incident = some incident) :
    (saveTask task).run db =
      (.ok 200 (.task task), (db.withTasks (db.tasks.put task)).recompute task.incident) := by
  unfold saveTask
  rw [Prog.run_bind, Prog.run_atomic, Db.saveTask_eq h]
  exact fetchAndUpdate_run

theorem saveTask_missing (h : db.incidents.get? task.incident = none) :
    Refused db ((saveTask task).run db) := by
  have hsave : db.saveTask task = (false, db) := by
    unfold Db.saveTask
    rw [h]
    rfl
  unfold saveTask
  rw [Prog.run_bind, Prog.run_atomic, hsave]
  exact pure_run (by decide) rfl

/-! ## The guards -/

theorem permitLeaderOrContributor_run {view : View}
    (h : (permitLeaderOrContributor user i view).run db = out) :
    Refused db out ∨ db.worksOn user i = true ∧ view.run db = out := by
  unfold permitLeaderOrContributor at h
  rw [Prog.run_bind, run_isIncidentLeaderOrContributor] at h
  cases hworks : db.worksOn user i with
  | false =>
      rw [hworks] at h
      exact Or.inl (pure_run (by decide) h)
  | true =>
      rw [hworks] at h
      exact Or.inr ⟨rfl, h⟩

theorem permitLeaderOrContributor_passes {view : View} (h : db.worksOn user i = true) :
    (permitLeaderOrContributor user i view).run db = view.run db := by
  unfold permitLeaderOrContributor
  rw [Prog.run_bind, run_isIncidentLeaderOrContributor, h]
  rfl

theorem getTask_run {view : IncidentTask → View} (h : (getTask i pk view).run db = out) :
    Refused db out ∨ ∃ task, db.task? i pk = some task ∧ (view task).run db = out := by
  unfold getTask at h
  rw [Prog.run_bind, Prog.run_read] at h
  cases htask : db.task? i pk with
  | none =>
      rw [htask] at h
      exact Or.inl (pure_run (by decide) h)
  | some task =>
      rw [htask] at h
      exact Or.inr ⟨task, rfl, h⟩

theorem validated_run {incident : Option Incident} {view : View}
    (h : (validated incident task view).run db = out) :
    Refused db out ∨ validateTask incident task = none ∧ view.run db = out := by
  unfold validated at h
  split at h
  · exact Or.inl (pure_run (Nat.le_refl _) h)
  · rename_i hvalid
    exact Or.inr ⟨hvalid, h⟩

theorem task?_eq_some : db.task? i pk = some task ↔
    db.tasks.get? pk = some task ∧ task.incident = i := by
  unfold Db.task?
  rw [Option.filter_eq_some_iff, decide_eq_true_eq]

theorem id_of_task? (h : db.task? i pk = some task) : task.id = pk :=
  Table.key_of_get? (task?_eq_some.mp h).1

/-! ## The requests -/

theorem saveTask_stores {request : TaskRequest} (h : (saveTask task).run db = out)
    (hincident : task.incident = i) (hstored : TaskStored db i request (db.tasks.put task)) :
    Refused db out ∨ request.Stores db i out.2 := by
  subst hincident
  cases hinc : db.incidents.get? task.incident with
  | none => exact Or.inl (h ▸ saveTask_missing hinc)
  | some incident =>
      rw [saveTask_run hinc] at h
      subst h
      exact Or.inr ⟨Option.isSome_of_eq_some hinc, _, hstored, rfl⟩

/-- A creation stores a new task under an id that was free, and recomputes. -/
theorem createTask_run {data : TaskData} (h : (createTask auth i data).run db = out) :
    Refused db out ∨ (TaskRequest.create auth i data).Stores db i out.2 := by
  unfold createTask at h
  rcases authenticate_run h with h | ⟨user, -, h⟩
  · exact Or.inl h
  rcases permitLeaderOrContributor_run h with h | ⟨-, h⟩
  · exact Or.inl h
  rw [Prog.run_bind, Prog.run_read] at h
  rcases refuseIf_run (Nat.le_refl _) h with h | ⟨-, h⟩
  · exact Or.inl h
  rcases validated_run h with h | ⟨-, h⟩
  · exact Or.inl h
  rw [Prog.run_bind, Prog.run_read] at h
  cases hinc : db.incidents.get? i with
  | none =>
      rw [hinc] at h
      exact Or.inl (pure_run (by decide) h)
  | some incident =>
      rw [hinc] at h
      rcases refuseIf_run (Nat.le_refl _) h with h | ⟨hopen, h⟩
      · exact Or.inl h
      have hinsert := Db.insertTask_eq (data.over (.blank i user.id)) hinc
      rw [Prog.run_bind, Prog.run_atomic, hinsert] at h
      have hinc' : (db.withTasks (db.tasks.put
          { data.over (.blank i user.id) with id := db.tasks.freshKey })).incidents.get? i =
          some incident := hinc
      rw [updateProgress_run, ← recompute_of_get? hinc'] at h
      subst h
      refine Or.inr ⟨Option.isSome_of_eq_some hinc, _,
        .create hinc ?_ rfl (Table.get?_freshKey _), rfl⟩
      simpa [Incident.isResolved] using hopen

theorem createTask_passes {data : TaskData} (hauth : db.authenticated auth = some user)
    (hworks : db.worksOn user i = true) (hfields : taskFieldErrors false data db = [])
    (hvalid : validateTask none (data.over (.blank i user.id)) = none)
    (hinc : db.incidents.get? i = some incident) (hopen : incident.isResolved = false) :
    (createTask auth i data).run db =
      (.ok 201 (.task { data.over (.blank i user.id) with id := db.tasks.freshKey }),
        (db.withTasks (db.tasks.put
          { data.over (.blank i user.id) with id := db.tasks.freshKey })).recompute i) := by
  have hinc' : (db.withTasks (db.tasks.put
      { data.over (.blank i user.id) with id := db.tasks.freshKey })).incidents.get? i =
      some incident := hinc
  unfold createTask
  rw [authenticate_passes hauth, permitLeaderOrContributor_passes hworks, Prog.run_bind,
    Prog.run_read]
  dsimp only
  rw [hfields, refuseIf_passes (show (!([] : List FieldError).isEmpty) = false from rfl)]
  unfold validated
  rw [hvalid]
  dsimp only
  rw [Prog.run_bind, Prog.run_read, hinc]
  dsimp only
  rw [refuseIf_passes hopen, Prog.run_bind, Prog.run_atomic,
    Db.insertTask_eq (data.over (.blank i user.id)) hinc, recompute_of_get? hinc']
  exact updateProgress_run

/-- An edit stores one saving of one task, or nothing. The saving is followed
by the recomputation, which reads the tasks again. -/
theorem updateTask_run {partialUpdate : Bool} {data : TaskData}
    (h : (updateTask auth i pk partialUpdate data).run db = out) :
    Refused db out ∨ (TaskRequest.update auth i pk partialUpdate data).Stores db i out.2 := by
  unfold updateTask at h
  rcases authenticate_run h with h | ⟨user, -, h⟩
  · exact Or.inl h
  rcases permitLeaderOrContributor_run h with h | ⟨-, h⟩
  · exact Or.inl h
  rcases getTask_run h with h | ⟨task, htask, h⟩
  · exact Or.inl h
  rw [Prog.run_bind, Prog.run_read] at h
  rcases refuseIf_run (Nat.le_refl _) h with h | ⟨-, h⟩
  · exact Or.inl h
  have hincident : task.incident = i := (task?_eq_some.mp htask).2
  rw [hincident, Prog.run_bind, Prog.run_read] at h
  cases hinc : db.incidents.get? i with
  | none =>
      rw [hinc] at h
      exact Or.inl (pure_run (by decide) h)
  | some incident =>
      rw [hinc] at h
      rcases validated_run h with h | ⟨hvalid, h⟩
      · exact Or.inl h
      have hopen : incident.etat ≠ .resolved := by
        unfold validateTask at hvalid
        split at hvalid
        · cases hvalid
        · rename_i hopen
          simpa [Incident.isResolved] using hopen
      have hinc' : (db.withTasks (db.tasks.put (data.over task))).incidents.get? i =
          some incident := hinc
      have hsave := Db.saveTask_eq (show db.incidents.get? (data.over task).incident =
        some incident from hincident ▸ hinc)
      rw [Prog.run_bind, Prog.run_atomic, hsave, Prog.run_ite, if_pos rfl, updateProgress_run,
        ← recompute_of_get? hinc'] at h
      subst h
      exact Or.inr ⟨Option.isSome_of_eq_some hinc, _, .update hinc hopen htask, rfl⟩

theorem deleteTask_run (h : (deleteTask auth i pk).run db = out) :
    Refused db out ∨ (TaskRequest.delete auth i pk).Stores db i out.2 := by
  unfold deleteTask at h
  rcases authenticate_run h with h | ⟨user, -, h⟩
  · exact Or.inl h
  rcases permitLeaderOrContributor_run h with h | ⟨-, h⟩
  · exact Or.inl h
  rcases getTask_run h with h | ⟨task, htask, h⟩
  · exact Or.inl h
  rw [(task?_eq_some.mp htask).2, Prog.run_bind, Prog.run_read] at h
  cases hinc : db.incidents.get? i with
  | none =>
      rw [hinc] at h
      exact Or.inl (pure_run (by decide) h)
  | some incident =>
      have hinc' : (db.deleteTask pk).incidents.get? i = some incident := hinc
      rw [hinc, Prog.run_bind, Prog.run_modify, updateProgress_run,
        ← recompute_of_get? hinc'] at h
      subst h
      exact Or.inr ⟨Option.isSome_of_eq_some hinc, _, .delete htask, rfl⟩

theorem confirmTask_run (h : (confirmTask auth i pk).run db = out) :
    Refused db out ∨ (TaskRequest.confirm auth i pk).Stores db i out.2 := by
  unfold confirmTask at h
  rcases authenticate_run h with h | ⟨user, -, h⟩
  · exact Or.inl h
  rcases permitLeader_run h with h | ⟨-, h⟩
  · exact Or.inl h
  rcases getTask_run h with h | ⟨task, htask, h⟩
  · exact Or.inl h
  exact saveTask_stores h (task?_eq_some.mp htask).2 (.confirm htask)

theorem completeTask_run {proofImage proofVideo : Given}
    (h : (completeTask auth i pk proofImage proofVideo).run db = out) :
    Refused db out ∨ (TaskRequest.complete auth i pk proofImage proofVideo).Stores db i out.2 := by
  unfold completeTask at h
  rcases authenticate_run h with h | ⟨user, -, h⟩
  · exact Or.inl h
  rcases permitLeaderOrContributor_run h with h | ⟨-, h⟩
  · exact Or.inl h
  rcases getTask_run h with h | ⟨task, htask, h⟩
  · exact Or.inl h
  rcases refuseIf_run (by decide) h with h | ⟨-, h⟩
  · exact Or.inl h
  rcases refuseIf_run (by decide) h with h | ⟨-, h⟩
  · exact Or.inl h
  exact saveTask_stores h (task?_eq_some.mp htask).2 (.complete htask)

theorem failTask_run {failureReason : Given}
    (h : (failTask auth i pk failureReason).run db = out) :
    Refused db out ∨ (TaskRequest.fail auth i pk failureReason).Stores db i out.2 := by
  unfold failTask at h
  rcases authenticate_run h with h | ⟨user, -, h⟩
  · exact Or.inl h
  rcases permitLeaderOrContributor_run h with h | ⟨-, h⟩
  · exact Or.inl h
  rcases getTask_run h with h | ⟨task, htask, h⟩
  · exact Or.inl h
  cases failureReason with
  | nothing => exact Or.inl (pure_run (by decide) h)
  | unusable => exact Or.inl (pure_run (by decide) h)
  | text reason => exact saveTask_stores h (task?_eq_some.mp htask).2 (.fail htask)

theorem relaunchTask_run (h : (relaunchTask auth i pk).run db = out) :
    Refused db out ∨ (TaskRequest.relaunch auth i pk).Stores db i out.2 := by
  unfold relaunchTask at h
  rcases authenticate_run h with h | ⟨user, hauth, h⟩
  · exact Or.inl h
  rcases permitLeader_run h with h | ⟨hleads, h⟩
  · exact Or.inl h
  rcases getTask_run h with h | ⟨task, htask, h⟩
  · exact Or.inl h
  rcases refuseIf_run (by decide) h with h | ⟨hstate, h⟩
  · exact Or.inl h
  have hfailed : task.state = .failed := by simpa using hstate
  exact saveTask_stores h (task?_eq_some.mp htask).2 (.relaunch hauth hleads htask hfailed)

/-- A request is refused, or it stores. Everything later about the task
endpoints begins here. -/
theorem TaskRequest.run (request : TaskRequest) (h : request.view.run db = out) :
    Refused db out ∨ request.Stores db request.incident out.2 := by
  cases request with
  | create auth i data => exact createTask_run h
  | update auth i pk partialUpdate data => exact updateTask_run h
  | delete auth i pk => exact deleteTask_run h
  | confirm auth i pk => exact confirmTask_run h
  | complete auth i pk image video => exact completeTask_run h
  | fail auth i pk reason => exact failTask_run h
  | relaunch auth i pk => exact relaunchTask_run h

/-! ## What it does not touch -/

variable {request : TaskRequest} {tasks : Table IncidentTask} {j : IncidentId} {row : Incident}

/-- The rows of incidents keep all their columns but the progress. -/
theorem incidents_stores (h : request.Stores db i out.2)
    (hrow : out.2.incidents.get? j = some row) :
    ∃ old, db.incidents.get? j = some old ∧ ∃ p, row = old.withProgress p := by
  obtain ⟨-, tasks, -, heq⟩ := h
  rw [heq, incidents_recompute] at hrow
  obtain ⟨old, hold, rfl⟩ := Option.map_eq_some_iff.mp hrow
  refine ⟨old, hold, ?_⟩
  split
  · exact ⟨_, rfl⟩
  · exact ⟨old.progress, rfl⟩

/-- A selection of tasks of other incidents only. -/
theorem TaskStored.select (h : TaskStored db i request tasks) {p : IncidentTask → Bool}
    (hp : ∀ task, task.incident = i → p task = false) :
    tasks.select p = db.tasks.select p := by
  -- a changed row takes the place of a row of the same incident
  have hput {pk : TaskId} {task row : IncidentTask} (htask : db.task? i pk = some task)
      (hid : row.id = task.id) (hincident : row.incident = task.incident) :
      (db.tasks.put row).select p = db.tasks.select p := by
    obtain ⟨hrow, hold⟩ := task?_eq_some.mp htask
    refine db.tasks.select_put row (hp row (hincident.trans hold)) fun old hget => hp old ?_
    rw [show key row = pk from hid.trans (id_of_task? htask), hrow] at hget
    exact Option.some.inj hget ▸ hold
  cases h with
  | create hinc hopen hincident hid =>
      exact db.tasks.select_put _ (hp _ hincident) fun old hget => (nomatch hid.symm.trans hget)
  | delete htask =>
      refine db.tasks.select_erase _ fun old hget => hp old ?_
      obtain ⟨hrow, hincident⟩ := task?_eq_some.mp htask
      exact Option.some.inj (hrow.symm.trans hget) ▸ hincident
  | update hinc hopen htask => exact hput htask rfl rfl
  | confirm htask => exact hput htask rfl rfl
  | complete htask => exact hput htask rfl rfl
  | fail htask => exact hput htask rfl rfl
  | relaunch hauth hleads htask hfailed => exact hput htask rfl rfl

theorem TaskStored.mem_of_ne (h : TaskStored db i request tasks) (hmem : task ∈ tasks.rows)
    (hne : task.incident ≠ i) : task ∈ db.tasks.rows := by
  have hselect := h.select fun task (hincident : task.incident = i) =>
    (decide_eq_false (not_not.mpr hincident) : decide (task.incident ≠ i) = false)
  have hin : task ∈ tasks.select fun task => decide (task.incident ≠ i) :=
    List.mem_filter.mpr ⟨hmem, by simpa using hne⟩
  rw [hselect] at hin
  exact (List.mem_filter.mp hin).1

end Mapapi
