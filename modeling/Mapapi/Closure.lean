import Mathlib.Data.List.Induction
import Mapapi.Workflow

/-!
# What a closed incident guarantees

An incident that is `resolved` should have its resolution dates, in order, and
no open task: `IncidentSerializer.validate` asks for both, and refuses to
touch the tasks of a closed incident. Three other ways lead around these
checks. `CloseIncidentView` does not compare its dates, `HandleIncidentView`
checks nothing, and `IncidentTaskRelaunchView` reopens a failed task of any
incident. A run keeps the guarantee exactly when no request takes one of them.
-/

namespace Mapapi

open Lib

/-! ## Runs -/

inductive ClosureOp where
  | close (auth : Option UserId) (i : IncidentId) (startDate endDate : Arg Date)
  | handle (auth : Option UserId) (i : IncidentId) (action : Option HandleAction)
  | put (auth : Option UserId) (i : IncidentId) (data : IncidentData) (mailSent : Bool)
  | task (request : TaskRequest)

def ClosureOp.view : ClosureOp → View
  | close auth i startDate endDate => closeIncident auth i startDate endDate
  | handle auth i action => handleIncident auth i action
  | put auth i data mailSent => putIncident auth i data mailSent
  | task request => request.view

/-- The requests that matter here are run one after the other; it is not a
race that breaks the law. -/
def Db.afterClosure (db : Db) (op : ClosureOp) : Db := (op.view.run db).2

def Db.execClosures (db : Db) (ops : List ClosureOp) : Db := Lib.exec Db.afterClosure db ops

/-! ## The guarantee -/

/-- The incident may be closed: its dates are in order, and its tasks are over. -/
structure Db.Closable (db : Db) (incident : Incident) : Prop where
  dates : ∃ start stop, incident.resolutionStartDate = some start ∧
    incident.resolutionEndDate = some stop ∧ start ≤ stop
  tasks : ∀ task ∈ db.tasks.rows, task.incident = incident.id →
    task.state = .done ∨ task.state = .failed

/-- The law, as a property of one store: what is `resolved` there could be
closed now. It speaks of the state and not of the request that has set it. -/
def Db.ClosedProperly (db : Db) : Prop :=
  ∀ i incident, db.incidents.get? i = some incident → incident.etat = .resolved →
    db.Closable incident

/-- The requests that go around the checks. Each of them is allowed: it passes
the guards of its endpoint, and what it leaves is what the check of another
endpoint would have refused. -/
inductive ClosureOp.Spoils (db : Db) : ClosureOp → Prop where
  /-- A closure that passes all guards, with dates in the wrong order. -/
  | close {auth user i incident start stop} (hauth : db.authenticated auth = some user)
      (hadmin : isOrgAdmin user = true) (hleads : db.leads user i = true)
      (hinc : db.incidents.get? i = some incident) (hopen : incident.etat ≠ .resolved)
      (htasks : db.openTasks i = []) (horder : stop < start) :
      Spoils db (.close auth i (.value start) (.value stop))
  /-- The legacy closure of an incident that may not be closed. -/
  | handle {auth user i incident} (hauth : db.authenticated auth = some user)
      (hinc : db.incidents.get? i = some incident) (htaken : incident.etat = .taken)
      (hnot : ¬ db.Closable incident) :
      Spoils db (.handle auth i (some .resolved))
  /-- Somebody who leads a closed incident relaunches a failed task. -/
  | relaunch {auth user i incident pk task} (hauth : db.authenticated auth = some user)
      (hleads : db.leads user i = true) (hinc : db.incidents.get? i = some incident)
      (hclosed : incident.etat = .resolved) (htask : db.task? i pk = some task)
      (hfailed : task.state = .failed) :
      Spoils db (.task (.relaunch auth i pk))

/-! ## One request -/

section Step

variable {db : Db} {auth : Option UserId} {i : IncidentId} {incident : Incident} {user : User}
  {out : Response × Db} {op : ClosureOp}

theorem openTasks_eq_nil : db.openTasks i = [] ↔
    ∀ task ∈ db.tasks.rows, task.incident = i → task.state = .done ∨ task.state = .failed := by
  unfold Db.openTasks Table.select
  rw [List.filter_eq_nil_iff]
  refine forall₂_congr fun task _ => ?_
  rw [decide_eq_true_eq]
  tauto

@[simp] theorem closable_pinProgress : db.Closable incident.pinProgress ↔ db.Closable incident := by
  unfold Incident.pinProgress
  split
  · exact ⟨fun h => ⟨h.dates, h.tasks⟩, fun h => ⟨h.dates, h.tasks⟩⟩
  · rfl

theorem closedProperly_saveIncident (h : db.ClosedProperly)
    (hrow : incident.etat = .resolved → db.Closable incident) :
    (db.saveIncident incident).ClosedProperly := by
  intro j row hj hclosed
  rw [Db.incidents_saveIncident] at hj
  split at hj
  · obtain rfl := Option.some.inj hj
    rw [Incident.pinProgress_etat] at hclosed
    have hclosable := closable_pinProgress.mpr (hrow hclosed)
    exact ⟨hclosable.dates, hclosable.tasks⟩
  · obtain ⟨hdates, htasks⟩ := h j row hj hclosed
    exact ⟨hdates, htasks⟩

theorem closedProperly_close {startDate endDate : Arg Date}
    (hrun : (closeIncident auth i startDate endDate).run db = out) (h : db.ClosedProperly)
    (hsafe : ¬ ClosureOp.Spoils db (.close auth i startDate endDate)) :
    out.2.ClosedProperly := by
  rcases closeIncident_run hrun with
    ⟨hsame, -⟩ | ⟨user, incident, start, stop, hauth, hadmin, hleads, hinc, hopen, rfl, rfl,
      htasks, hout⟩
  · exact hsame.symm ▸ h
  · have horder : start ≤ stop := by
      by_contra hlt
      exact hsafe (.close hauth hadmin hleads hinc hopen htasks (Int.not_le.mp hlt))
    have hid : incident.id = i := Table.key_of_get? hinc
    rw [hout]
    refine closedProperly_saveIncident h fun _ => ⟨⟨_, _, rfl, rfl, horder⟩, ?_⟩
    exact openTasks_eq_nil.mp (show db.openTasks incident.id = [] from hid.symm ▸ htasks)

theorem closedProperly_handle {action : Option HandleAction}
    (hrun : (handleIncident auth i action).run db = out) (h : db.ClosedProperly)
    (hsafe : ¬ ClosureOp.Spoils db (.handle auth i action)) : out.2.ClosedProperly := by
  have hlog {db : Db} {u : UserId} {text : String} (h : db.ClosedProperly) :
      (db.logAction u text).ClosedProperly := fun j row hj hclosed =>
    ⟨(h j row hj hclosed).dates, (h j row hj hclosed).tasks⟩
  rcases handleIncident_run hrun with
    ⟨hsame, -⟩ | ⟨user, incident, hauth, hinc, ⟨-, -, hrun⟩ | ⟨rfl, htaken, hrun⟩⟩
  · exact hsame.symm ▸ h
  · -- taken, not closed
    have hsaved : (db.saveIncident { incident with
        etat := .taken, takenBy := some user.id }).ClosedProperly :=
      closedProperly_saveIncident h fun hclosed => (nomatch hclosed)
    rcases handled_run hrun with hout | hout
    · rwa [hout]
    · rw [hout]
      exact hlog hsaved
  · have hclosable : db.Closable incident := by
      by_contra hnot
      exact hsafe (.handle hauth hinc htaken hnot)
    have hsaved : (db.saveIncident { incident with etat := .resolved }).ClosedProperly :=
      closedProperly_saveIncident h fun _ => ⟨hclosable.dates, hclosable.tasks⟩
    rcases handled_run hrun with hout | hout
    · rwa [hout]
    · rw [hout]
      exact hlog hsaved

theorem closedProperly_put {data : IncidentData} {mailSent : Bool}
    (hrun : (putIncident auth i data mailSent).run db = out) (h : db.ClosedProperly) :
    out.2.ClosedProperly := by
  rcases putIncident_stores hrun with ⟨hsame, -⟩ | ⟨before, hstored⟩
  · exact hsame.symm ▸ h
  · intro j row hj hclosed
    by_cases hji : j = i
    · subst hji
      obtain rfl := Option.some.inj (hstored.row.symm.trans hj)
      have hid : before.id = j := Table.key_of_get? hstored.found
      rw [Incident.pinProgress_etat] at hclosed
      obtain ⟨start, stop, hstart, hstop, horder, hopen⟩ := hstored.closing hclosed
      refine closable_pinProgress.mpr ⟨⟨start, stop, hstart, hstop, horder⟩, ?_⟩
      intro task hmem hincident
      exact openTasks_eq_nil.mp hopen task (hstored.tasks ▸ hmem) (hincident.trans hid)
    · rw [hstored.others j hji] at hj
      obtain ⟨hdates, hold⟩ := h j row hj hclosed
      exact ⟨hdates, fun task hmem => hold task (hstored.tasks ▸ hmem)⟩

/-- No request on the tasks of a closed incident but a relaunch opens one. -/
theorem TaskStored.closed {request : TaskRequest} {tasks : Table IncidentTask}
    (h : TaskStored db i request tasks) (hinc : db.incidents.get? i = some incident)
    (hclosed : incident.etat = .resolved)
    (hold : ∀ task ∈ db.tasks.rows, task.incident = i → task.state = .done ∨ task.state = .failed)
    (hsafe : ¬ ClosureOp.Spoils db (.task request)) :
    ∀ task ∈ tasks.rows, task.incident = i → task.state = .done ∨ task.state = .failed := by
  have hopen {row : Incident} (hrow : db.incidents.get? i = some row) :
      row.etat = .resolved :=
    Option.some.inj (hinc.symm.trans hrow) ▸ hclosed
  have hput {row : IncidentTask} (hstate : row.state = .done ∨ row.state = .failed) :
      ∀ task ∈ (db.tasks.put row).rows, task.incident = i →
        task.state = .done ∨ task.state = .failed := by
    intro task hmem hincident
    rcases Table.mem_put hmem with rfl | hmem
    · exact hstate
    · exact hold task hmem hincident
  cases h with
  | create hrow hne => exact absurd (hopen hrow) hne
  | update hrow hne => exact absurd (hopen hrow) hne
  | delete htask => exact fun task hmem => hold task (List.mem_filter.mp hmem).1
  | @confirm _ _ task htask =>
      obtain ⟨hget, hincident⟩ := task?_eq_some.mp htask
      exact hput (hold task (Table.mem_of_get? hget) hincident)
  | complete htask => exact hput (Or.inl rfl)
  | fail htask => exact hput (Or.inr rfl)
  | relaunch hauth hleads htask hfailed =>
      exact absurd (.relaunch hauth hleads hinc hclosed htask hfailed) hsafe

theorem closedProperly_task {request : TaskRequest} (hrun : request.view.run db = out)
    (h : db.ClosedProperly) (hsafe : ¬ ClosureOp.Spoils db (.task request)) :
    out.2.ClosedProperly := by
  rcases request.run hrun with ⟨hsame, -⟩ | hstores
  · exact hsame.symm ▸ h
  · intro j row hj hclosed
    obtain ⟨old, hold, p, rfl⟩ := incidents_stores hstores hj
    obtain ⟨-, tasks, hstored, heq⟩ := hstores
    have hid : old.id = j := Table.key_of_get? hold
    obtain ⟨hdates, hover⟩ := h j old hold hclosed
    refine ⟨hdates, fun task hmem hincident => ?_⟩
    have hmem' : task ∈ tasks.rows := by
      rw [show out.2.tasks = tasks from (congrArg Db.tasks heq).trans (tasks_recompute ..)] at hmem
      exact hmem
    by_cases hji : j = request.incident
    · subst hji
      exact hstored.closed hold hclosed (hid ▸ hover) hsafe task hmem' (hincident.trans hid)
    · exact hover task (hstored.mem_of_ne hmem' fun hi => hji (hid.symm.trans (hincident.symm.trans
        hi))) hincident

/-- A request that does not go around the checks keeps the guarantee. -/
theorem Db.ClosedProperly.step (h : db.ClosedProperly) (hsafe : ¬ op.Spoils db) :
    (db.afterClosure op).ClosedProperly := by
  cases op with
  | close auth i startDate endDate => exact closedProperly_close rfl h hsafe
  | handle auth i action => exact closedProperly_handle rfl h hsafe
  | put auth i data mailSent => exact closedProperly_put rfl h
  | task request => exact closedProperly_task rfl h hsafe

/-! ## The other requests -/

theorem not_closedProperly {row : Incident} (hrow : db.incidents.get? i = some row)
    (hclosed : row.etat = .resolved) (hnot : ¬ db.Closable row) : ¬ db.ClosedProperly :=
  fun h => hnot (h i row hrow hclosed)

theorem handleIncident_resolves (hauth : db.authenticated auth = some user)
    (hinc : db.incidents.get? i = some incident) (htaken : incident.etat = .taken) :
    let saved := db.saveIncident { incident with etat := .resolved }
    ((handleIncident auth i (some .resolved)).run db).2 = saved ∨
      ∃ text,
        ((handleIncident auth i (some .resolved)).run db).2 = saved.logAction user.id text := by
  unfold handleIncident
  rw [authenticate_passes hauth, getIncident_passes hinc, refuseIf_passes (by simpa using htaken)]
  exact (handled_run rfl).imp_right fun h => ⟨_, h⟩

theorem relaunchTask_stores {pk : TaskId} {task : IncidentTask}
    (hauth : db.authenticated auth = some user) (hleads : db.leads user i = true)
    (hinc : db.incidents.get? i = some incident) (htask : db.task? i pk = some task)
    (hfailed : task.state = .failed) :
    ((relaunchTask auth i pk).run db).2 =
      (db.withTasks (db.tasks.put { task with state := .pending })).recompute i := by
  have hincident : task.incident = i := (task?_eq_some.mp htask).2
  unfold relaunchTask getTask
  rw [authenticate_passes hauth, permitLeader_passes hleads, Prog.run_bind, Prog.run_read, htask]
  dsimp only
  rw [refuseIf_passes (by simpa using hfailed), saveTask_run
    (show db.incidents.get? { task with state := .pending }.incident = some incident from
      hincident ▸ hinc)]
  exact congrArg (Db.recompute · _) hincident

/-- A request that goes around the checks breaks the guarantee at once, so the
condition on a run is exact. -/
theorem ClosureOp.Spoils.breaks (h : op.Spoils db) : ¬ (db.afterClosure op).ClosedProperly := by
  cases h with
  | @close auth user i incident start stop hauth hadmin hleads hinc hopen htasks horder =>
      have hid : incident.id = i := Table.key_of_get? hinc
      have hrow : (db.afterClosure (.close auth i (.value start) (.value stop))).incidents.get? i =
          some { incident with
            etat := .resolved
            resolutionStartDate := some start
            resolutionEndDate := some stop }.pinProgress := by
        unfold Db.afterClosure ClosureOp.view
        rw [closeIncident_passes hauth hadmin hleads hinc hopen htasks, Db.incidents_saveIncident,
          if_pos (show i = incident.id from hid.symm)]
      refine not_closedProperly hrow (Incident.pinProgress_etat _) fun hclosable => ?_
      obtain ⟨start', stop', hstart, hstop, horder'⟩ := (closable_pinProgress.mp hclosable).dates
      obtain rfl := Option.some.inj hstart
      obtain rfl := Option.some.inj hstop
      exact absurd horder (Int.not_lt.mpr horder')
  | @handle auth user i incident hauth hinc htaken hnot =>
      have hid : incident.id = i := Table.key_of_get? hinc
      have hrow : (db.saveIncident { incident with etat := .resolved }).incidents.get? i =
          some { incident with etat := .resolved }.pinProgress := by
        rw [Db.incidents_saveIncident, if_pos (show i = incident.id from hid.symm)]
      have hnot' : ¬ (db.saveIncident { incident with etat := .resolved }).Closable
          { incident with etat := .resolved }.pinProgress := by
        rw [closable_pinProgress]
        exact fun hclosable => hnot ⟨hclosable.dates, hclosable.tasks⟩
      unfold Db.afterClosure ClosureOp.view
      rcases handleIncident_resolves hauth hinc htaken with hout | ⟨text, hout⟩
      · rw [hout]
        exact not_closedProperly hrow (Incident.pinProgress_etat _) hnot'
      · rw [hout]
        exact not_closedProperly hrow (Incident.pinProgress_etat _) fun hclosable =>
          hnot' ⟨hclosable.dates, hclosable.tasks⟩
  | @relaunch auth user i incident pk task hauth hleads hinc hclosed htask hfailed =>
      obtain ⟨hget, hincident⟩ := task?_eq_some.mp htask
      have hid : incident.id = i := Table.key_of_get? hinc
      unfold Db.afterClosure ClosureOp.view TaskRequest.view
      dsimp only
      rw [relaunchTask_stores hauth hleads hinc htask hfailed]
      have hrow := recompute_row (show (db.withTasks (db.tasks.put
        { task with state := .pending })).incidents.get? i = some incident from hinc)
      refine not_closedProperly hrow hclosed fun hclosable => ?_
      have hmem : { task with state := .pending } ∈ ((db.withTasks (db.tasks.put
          { task with state := .pending })).recompute i).tasks.rows := by
        rw [tasks_recompute]
        exact Table.mem_put_self _ _
      rcases hclosable.tasks _ hmem (hincident.trans hid.symm) with h | h <;> cases h

end Step

/-! ## Whole runs -/

/-- In every state of a run closed incidents are closed properly if and only
if no request of the run goes around the checks. Such a request is harmful
wherever it comes, so no later request makes up for it. -/
theorem closedProperly_iff {db : Db} (hstart : db.ClosedProperly) (ops : List ClosureOp) :
    (∀ past, past <+: ops → (db.execClosures past).ClosedProperly) ↔
      Along Db.afterClosure (fun db op => ¬ op.Spoils db) db ops := by
  constructor
  · intro h
    rw [along_iff]
    rintro past op rest rfl hspoils
    refine hspoils.breaks ?_
    rw [← exec_snoc Db.afterClosure db past op]
    exact h (past ++ [op]) (List.append_cons past op rest ▸ List.prefix_append ..)
  · rintro h past ⟨rest, rfl⟩
    exact (along_append.mp h).1.inv (fun _ _ hinv hsafe => hinv.step hsafe) hstart

theorem Db.Fresh.closedProperly {db : Db} (h : db.Fresh) : db.ClosedProperly := by
  intro i incident hinc hclosed
  rw [(h.declared i incident hinc).1] at hclosed
  cases hclosed

def closeOps (start stop : Date) : List ClosureOp :=
  [.handle (some 2) 1 (some .takenIntoAccount), .close (some 2) 1 (.value start) (.value stop)]

def closeStart : Db :=
  Db.start [] [.member 2 "admin@example.org" .orgAdmin 1] (.new 1 none "Bamako" "01-01-2025")

theorem closedProperly_iff_inOrder :
    (closeStart.execClosures (closeOps 3 8)).ClosedProperly := by
  refine (closedProperly_iff (Db.start_fresh _ _).closedProperly (closeOps 3 8)).mpr ?_ _
    List.prefix_rfl
  refine ⟨fun h => ?_, fun h => ?_, trivial⟩
  · cases h
  · cases h with
    | close hauth hadmin hleads hinc hopen htasks horder => exact absurd horder (by decide)

theorem closed_backwards :
    closeStart.Fresh ∧ ¬ (closeStart.execClosures (closeOps 8 3)).ClosedProperly := by
  refine ⟨Db.start_fresh _ _, fun h => ?_⟩
  obtain ⟨start, stop, hstart, hstop, horder⟩ := (h 1 _ rfl rfl).dates
  obtain rfl := Option.some.inj hstart
  obtain rfl := Option.some.inj hstop
  revert horder
  decide

end Mapapi
