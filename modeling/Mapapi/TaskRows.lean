import Mapapi.IncidentTasks
import Mapapi.Server

/-!
# Every stored task is well formed

A task starts before it ends, a done task has a proof and a failed one a
reason. The table does not check this (`clean` is never called): the
serializer checks the row it is about to store, and the actions complete, fail
and relaunch change a row they have read.

Every write stores a whole row, which was computed from one row that was read.
So it is enough that the row read was well formed, however old it is: no
interleaving of requests can store another one.
-/

namespace Mapapi

open Lib

/-! ## Well-formed rows -/

/-- What can be relied on of a task that is stored: dates in order, a proof
for what is done and a reason for what has failed. -/
structure IncidentTask.WellFormed (task : IncidentTask) : Prop where
  dates : task.startDate ≤ task.endDate
  proof : task.state = .done → task.hasProof = true
  reason : task.state = .failed → presentText task.failureReason ≠ none

def Db.TasksWellFormed (db : Db) : Prop := ∀ task ∈ db.tasks.rows, task.WellFormed

theorem Text.present (s : Text) : presentText (some s.val) = some s.val := if_neg s.2

/-- What the serializer accepts is well formed, whatever row the data went over. -/
theorem wellFormed_of_validateTask {incident : Option Incident} {task : IncidentTask}
    (h : validateTask incident task = none) : task.WellFormed := by
  unfold validateTask at h
  split at h
  · cases h
  split at h
  · cases h
  rename_i hdates
  split at h
  · cases h
  rename_i hproof
  split at h
  · cases h
  rename_i hreason
  refine ⟨Int.not_lt.mp hdates, fun hdone => ?_, fun hfailed hnone => hreason ⟨hfailed, hnone⟩⟩
  by_contra hnone
  exact hproof ⟨hdone, by simpa using hnone⟩

namespace IncidentTask

variable {task : IncidentTask}

theorem WellFormed.confirm (h : task.WellFormed) :
    { task with isConfirmed := true }.WellFormed :=
  ⟨h.dates, h.proof, h.reason⟩

/-- A proof that is given stays, next to a proof of the other kind that was there. -/
theorem WellFormed.complete (h : task.WellFormed) {proofImage proofVideo : Given}
    (hgiven : (!proofImage.isTrue && !proofVideo.isTrue) = false)
    (husable : (proofImage.isUnusable || proofVideo.isUnusable) = false) :
    { task with
      state := .done
      proofImage := proofImage.over task.proofImage
      proofVideo := proofVideo.over task.proofVideo }.WellFormed := by
  refine ⟨h.dates, fun _ => ?_, fun hstate => (nomatch hstate)⟩
  unfold hasProof
  cases proofImage with
  | text s =>
      have himage : presentText (Given.over task.proofImage (.text s)) = some s.val := s.present
      simp [himage]
  | unusable => cases husable
  | nothing =>
      cases proofVideo with
      | text s =>
          have hvideo : presentText (Given.over task.proofVideo (.text s)) = some s.val :=
            s.present
          simp [hvideo]
      | unusable => cases husable
      | nothing => cases hgiven

theorem WellFormed.fail (h : task.WellFormed) (reason : Text) :
    { task with state := .failed, failureReason := some reason.val }.WellFormed := by
  refine ⟨h.dates, fun hstate => (nomatch hstate), fun _ => ?_⟩
  rw [reason.present]
  exact Option.some_ne_none _

theorem WellFormed.relaunch (h : task.WellFormed) :
    { task with state := .pending }.WellFormed :=
  ⟨h.dates, fun hstate => (nomatch hstate), fun hstate => (nomatch hstate)⟩

end IncidentTask

/-! ## Writes -/

section Writes

variable {db : Db}

theorem Db.TasksWellFormed.put {task : IncidentTask} (h : db.TasksWellFormed)
    (htask : task.WellFormed) :
    ({ db with tasks := db.tasks.put task } : Db).TasksWellFormed := by
  intro row hrow
  rcases Table.mem_put hrow with rfl | hold
  · exact htask
  · exact h row hold

theorem Db.TasksWellFormed.saveTask {task : IncidentTask} (h : db.TasksWellFormed)
    (htask : task.WellFormed) : (db.saveTask task).2.TasksWellFormed := by
  unfold Db.saveTask
  split
  · exact h.put htask
  · exact h

theorem Db.TasksWellFormed.deleteTask (h : db.TasksWellFormed) (id : TaskId) :
    (db.deleteTask id).TasksWellFormed :=
  fun row hrow => h row (List.mem_filter.mp hrow).1

theorem Db.TasksWellFormed.task? {i : IncidentId} {pk : TaskId} {task : IncidentTask}
    (h : db.TasksWellFormed) (htask : db.task? i pk = some task) : task.WellFormed :=
  h task (Table.mem_of_get? (Option.filter_eq_some_iff.mp htask).1)

end Writes

/-! ## Every action of the endpoints keeps the rows well formed -/

section Keeps

variable {I : Db → Prop} {auth : Option UserId} {user : User} {i : IncidentId} {pk : TaskId}

theorem authenticate_keeps {view : User → View} (h : ∀ user, (view user).Keeps I) :
    (authenticate auth view).Keeps I := by
  refine Prog.keeps_read fun db _ => ?_
  split
  · exact Prog.keeps_pure _
  · exact h _

theorem refuseIf_keeps {refuse : Bool} {response : Response} {view : View}
    (h : refuse = false → view.Keeps I) : (refuseIf refuse response view).Keeps I := by
  refine Prog.keeps_ite (fun _ => Prog.keeps_pure _) fun hrefuse => h ?_
  simpa using hrefuse

theorem isIncidentLeader_keeps : (isIncidentLeader user i).Keeps I := by
  refine Prog.keeps_ite (fun _ => Prog.keeps_pure _) fun _ => Prog.keeps_read fun db _ => ?_
  split
  · exact Prog.keeps_pure _
  · exact Prog.keeps_read fun db _ =>
      Prog.keeps_ite (fun _ => Prog.keeps_pure _) fun _ => Prog.keeps_pure _

theorem permitLeader_keeps {view : View} (h : view.Keeps I) :
    (permitLeader user i view).Keeps I :=
  Prog.keeps_bind isIncidentLeader_keeps fun _ =>
    Prog.keeps_ite (fun _ => h) fun _ => Prog.keeps_pure _

theorem read_keeps {α : Type} (f : Db → α) : (Prog.read f).Keeps I :=
  fun _ hs => ⟨hs, trivial⟩

theorem isInternalOrgMember_keeps {incident : Incident} :
    (isInternalOrgMember incident user).Keeps I :=
  Prog.keeps_ite (fun _ => Prog.keeps_read fun _ _ => Prog.keeps_pure _)
    fun _ => Prog.keeps_pure _

theorem isIncidentLeaderOrContributor_keeps : (isIncidentLeaderOrContributor user i).Keeps I := by
  refine Prog.keeps_ite (fun _ => Prog.keeps_pure _) fun _ => Prog.keeps_read fun db _ => ?_
  split
  · exact Prog.keeps_pure _
  · refine Prog.keeps_ite (fun _ => Prog.keeps_pure _) fun _ =>
      Prog.keeps_bind isInternalOrgMember_keeps fun _ => ?_
    exact Prog.keeps_ite (fun _ => Prog.keeps_pure _) fun _ => read_keeps _

theorem permitLeaderOrContributor_keeps {view : View} (h : view.Keeps I) :
    (permitLeaderOrContributor user i view).Keeps I :=
  Prog.keeps_bind isIncidentLeaderOrContributor_keeps fun _ =>
    Prog.keeps_ite (fun _ => h) fun _ => Prog.keeps_pure _

/-- Recomputing the progress of an incident does not touch the tasks. -/
theorem saveProgress_keeps {incident : Incident} {progress : Nat} {reply : Response} :
    (updateProgress.save incident progress reply).Keeps Db.TasksWellFormed :=
  Prog.keeps_bind (Prog.keeps_modify fun _ hdb => hdb) fun _ => Prog.keeps_pure _

theorem updateProgress_keeps {incident : Incident} {reply : Response} :
    (updateProgress incident reply).Keeps Db.TasksWellFormed := by
  refine Prog.keeps_ite (fun _ => saveProgress_keeps) fun _ => Prog.keeps_read fun db _ => ?_
  exact Prog.keeps_ite (fun _ => saveProgress_keeps) fun _ =>
    Prog.keeps_read fun _ _ => saveProgress_keeps

theorem saveTask_keeps {task : IncidentTask} (h : task.WellFormed) :
    (saveTask task).Keeps Db.TasksWellFormed := by
  refine Prog.keeps_atomic fun db hdb => ⟨hdb.saveTask h, ?_⟩
  refine Prog.keeps_ite (fun _ => Prog.keeps_read fun db' _ => ?_) fun _ => Prog.keeps_pure _
  split
  · exact Prog.keeps_pure _
  · exact updateProgress_keeps

theorem getTask_keeps {view : IncidentTask → View}
    (h : ∀ task, task.WellFormed → (view task).Keeps Db.TasksWellFormed) :
    (getTask i pk view).Keeps Db.TasksWellFormed := by
  refine Prog.keeps_read fun db hdb => ?_
  split
  · exact Prog.keeps_pure _
  · rename_i task htask
    exact h task (hdb.task? htask)

theorem validated_keeps {incident : Option Incident} {task : IncidentTask} {view : View}
    (h : task.WellFormed → view.Keeps I) : (validated incident task view).Keeps I := by
  unfold validated
  split
  · exact Prog.keeps_pure _
  · rename_i hvalid
    exact h (wellFormed_of_validateTask hvalid)

theorem createTask_keeps {data : TaskData} :
    (createTask auth i data).Keeps Db.TasksWellFormed := by
  refine authenticate_keeps fun user => permitLeaderOrContributor_keeps ?_
  refine Prog.keeps_read fun db _ => refuseIf_keeps fun _ => validated_keeps fun htask => ?_
  refine Prog.keeps_read fun db _ => ?_
  split
  · exact Prog.keeps_pure _
  · refine refuseIf_keeps fun _ => Prog.keeps_atomic fun db hdb => ⟨?_, ?_⟩
    · -- the id of the row is none of its well-formedness
      exact hdb.saveTask ⟨htask.dates, htask.proof, htask.reason⟩
    · split
      · exact Prog.keeps_pure _
      · exact updateProgress_keeps

theorem updateTask_keeps {partialUpdate : Bool} {data : TaskData} :
    (updateTask auth i pk partialUpdate data).Keeps Db.TasksWellFormed := by
  refine authenticate_keeps fun user => permitLeaderOrContributor_keeps ?_
  refine getTask_keeps fun task _ => Prog.keeps_read fun db _ => refuseIf_keeps fun _ => ?_
  refine Prog.keeps_read fun db _ => ?_
  split
  · exact Prog.keeps_pure _
  · refine validated_keeps fun htask => Prog.keeps_atomic fun db hdb => ⟨hdb.saveTask htask, ?_⟩
    exact Prog.keeps_ite (fun _ => updateProgress_keeps) fun _ => Prog.keeps_pure _

theorem deleteTask_keeps : (deleteTask auth i pk).Keeps Db.TasksWellFormed := by
  refine authenticate_keeps fun user => permitLeaderOrContributor_keeps ?_
  refine getTask_keeps fun task _ => Prog.keeps_read fun db _ => ?_
  split
  · exact Prog.keeps_pure _
  · exact Prog.keeps_bind (Prog.keeps_modify fun _ hdb => hdb.deleteTask pk)
      fun _ => updateProgress_keeps

theorem confirmTask_keeps : (confirmTask auth i pk).Keeps Db.TasksWellFormed :=
  authenticate_keeps fun _ => permitLeader_keeps <| getTask_keeps fun _ htask =>
    saveTask_keeps htask.confirm

theorem completeTask_keeps {proofImage proofVideo : Given} :
    (completeTask auth i pk proofImage proofVideo).Keeps Db.TasksWellFormed := by
  refine authenticate_keeps fun _ => permitLeaderOrContributor_keeps ?_
  refine getTask_keeps fun task htask => ?_
  refine refuseIf_keeps fun hgiven => refuseIf_keeps fun husable => ?_
  exact saveTask_keeps (htask.complete hgiven husable)

theorem failTask_keeps {failureReason : Given} :
    (failTask auth i pk failureReason).Keeps Db.TasksWellFormed := by
  refine authenticate_keeps fun _ => permitLeaderOrContributor_keeps ?_
  refine getTask_keeps fun task htask => ?_
  cases failureReason with
  | nothing => exact Prog.keeps_pure _
  | unusable => exact Prog.keeps_pure _
  | text reason => exact saveTask_keeps (htask.fail reason)

theorem relaunchTask_keeps : (relaunchTask auth i pk).Keeps Db.TasksWellFormed :=
  authenticate_keeps fun _ => permitLeader_keeps <| getTask_keeps fun _ htask =>
    refuseIf_keeps fun _ => saveTask_keeps htask.relaunch

theorem TaskRequest.keeps (request : TaskRequest) :
    request.view.Keeps Db.TasksWellFormed := by
  cases request with
  | create auth i data => exact createTask_keeps
  | update auth i pk partialUpdate data => exact updateTask_keeps
  | delete auth i pk => exact deleteTask_keeps
  | confirm auth i pk => exact confirmTask_keeps
  | complete auth i pk image video => exact completeTask_keeps
  | fail auth i pk reason => exact failTask_keeps
  | relaunch auth i pk => exact relaunchTask_keeps

end Keeps

/-! ## Under every interleaving -/

/-- Several requests to the task endpoints, none of which has begun. -/
def taskPool {ι : Type} (db : Db) (requests : ι → TaskRequest) : Pool Db ι Response :=
  { store := db, progs := fun k => (requests k).view }

/-- Every row ever stored is well formed: however many requests are under way,
whoever sends them, and in whatever order their reads and writes happen. The
invariant is about each row by itself, so no request depends on another one
for it. -/
theorem stored_wellFormed {ι : Type} [DecidableEq ι] (db : Db) (requests : ι → TaskRequest)
    (hdb : db.TasksWellFormed) (schedule : List ι) :
    ∀ task ∈ ((taskPool db requests).exec schedule).store.tasks.rows, task.WellFormed :=
  (Pool.exec_keeps (c := taskPool db requests) (fun k => (requests k).keeps) hdb schedule).1

def taskStore : Db :=
  { Db.start [{ id := 1, name := "Voirie" }] [.member 2 "voirie@map.ml" .orgAdmin 1]
      { Incident.new 1 (some "Fuite") "Bamako" "01-02-2025" with
        etat := .taken, takenBy := some 2 } with
    tasks := ⟨[{ IncidentTask.blank 1 2 with id := 1, title := "Colmater" }],
      List.nodup_singleton _⟩ }

def completeAndFail : Bool → TaskRequest
  | true => .complete (some 2) 1 1 .photo .nothing
  | false => .fail (some 2) 1 1 (.text ⟨"accès impossible", by decide⟩)

/-- Both read the task before either of them stores it: the failed row that is
stored last has its reason, though not the proof that was stored in between. -/
theorem stored_wellFormed_raced :
    let schedule := List.replicate 3 true ++ List.replicate 3 false ++ [true, false]
    let store := ((taskPool taskStore completeAndFail).exec schedule).store
    taskStore.TasksWellFormed ∧ (store.tasks.rows.map IncidentTask.state) = [.failed] ∧
      ∀ task ∈ store.tasks.rows, task.WellFormed := by
  have hstore : taskStore.TasksWellFormed := by
    intro task htask
    obtain rfl := List.mem_singleton.mp htask
    exact ⟨Int.le_refl _, fun h => (nomatch h), fun h => (nomatch h)⟩
  exact ⟨hstore, by decide, stored_wellFormed taskStore completeAndFail hstore _⟩

end Mapapi
