import Mapapi.Prologue
import Mapapi.TaskWrites
import Mapapi.Server
import Mapapi.Progress

/-!
# Progress under concurrent updates

Every task endpoint stores a task, counts, and saves what it has counted, each in
an action of its own; closing and validating save the incident as it was read. So
the progress that stays is the one that is saved last, and it is right unless
something it rests on has changed since it was read (`Stale`).

A program that has stored a task owes a recomputation until it saves the progress
(`Phase.owes`). In between, either the progress is right or somebody owes one
(`Settled`); the last save of a run finds nobody else who does.
-/

namespace Mapapi

open Lib

/-! ## Operations -/

/-- What saves the row of an incident, or changes what its progress is
computed from: requests about tasks, the closure, and the validation, which
both make the progress 100. -/
inductive ProgressOp where
  | task (request : TaskRequest)
  | close (auth : Option UserId) (i : IncidentId) (startDate endDate : Arg Date)
  | validate (auth : Option UserId) (i : IncidentId)

def ProgressOp.incident : ProgressOp → IncidentId
  | task request => request.incident
  | close _ i _ _ => i
  | validate _ i => i

def ProgressOp.view : ProgressOp → View
  | task request => request.view
  | close auth i startDate endDate => closeIncident auth i startDate endDate
  | validate auth i => validateResolution auth i

def progressPool {ι : Type} (db : Db) (ops : ι → ProgressOp) : Pool Db ι Response :=
  { store := db, progs := fun k => (ops k).view }

/-! ## Stale saves -/

/-- The next action of the program saves an incident: at the end of a recomputation,
or finished. -/
inductive SavesIncident : View → Prop where
  | progress {incident progress reply} : SavesIncident (updateProgress.save incident progress reply)
  | close {incident next} (hfinished : incident.isFinished = true) :
      SavesIncident (.act (Db.saveIncident incident) next)
  | validate {incident : Incident} {next} :
      SavesIncident (.act (Db.saveIncidentFields { incident with etat := .resolvedDefinitive }
        [.etat]) next)

section Stale

variable {ι : Type} [DecidableEq ι] (c : Pool Db ι Response) (past : List ι) (i : IncidentId)
  (k : ι)

/-- `k` has counted the confirmed tasks: there were `total`. -/
def Counted (total : Nat) : Prop :=
  ∃ pre rest incident reply, past = pre ++ k :: rest ∧
    (c.exec pre).progs k = updateProgress incident reply ∧
    ((c.exec pre).store.confirmedTasks i).length = total

/-- The request has counted so many finished tasks, at one of its earlier
turns. The count is about the store of that turn, and others may have stored
tasks since. -/
def CountedDone (done : Nat) : Prop :=
  ∃ pre rest incident total reply, past = pre ++ k :: rest ∧
    (c.exec pre).progs k = updateProgress.countDone incident total reply ∧
    ((c.exec pre).store.doneTasks i).length = done

/-- What `k` is about to save rests on something that has changed since it was
read. -/
inductive Stale : Prop where
  /-- It has counted, and the incident is finished now. -/
  | closed {total row} (hcounted : Counted c past i k total)
      (hrow : (c.exec past).store.incidents.get? i = some row)
      (hfinished : row.isFinished = true)
  | confirmed {total} (hcounted : Counted c past i k total)
      (hchanged : ((c.exec past).store.confirmedTasks i).length ≠ total)
  | done {done} (hcounted : CountedDone c past i k done)
      (hchanged : ((c.exec past).store.doneTasks i).length ≠ done)
  /-- It takes the incident for complete, and does not save that again. -/
  | full {incident row : Incident} {next} (hid : incident.id = i)
      (hvalidates : (c.exec past).progs k = .act (Db.saveIncidentFields
        { incident with etat := .resolvedDefinitive } [.etat]) next)
      (hfull : incident.progress = 100)
      (hrow : (c.exec past).store.incidents.get? i = some row) (hchanged : row.progress ≠ 100)

def LastSave (schedule : List ι) : Prop :=
  ∃ rest, schedule = past ++ k :: rest ∧ SavesIncident ((c.exec past).progs k) ∧
    ∀ mid j rest', rest = mid ++ j :: rest' →
      ¬ SavesIncident ((c.exec (past ++ k :: mid)).progs j)

end Stale

/-! ## The rests of the programs -/

/-- Where a program is: the incident it holds in memory, and whether it has stored a
task without having recomputed the progress yet. -/
structure Phase where
  held : Option Incident
  owes : Bool

def Phase.start : Phase := { held := none, owes := false }

/-- The protocol of the checks: to read, and to fetch the incident. -/
inductive Fetching (i : IncidentId) : Phase → Db → (Db → Db) → Phase → Prop where
  | read {t db} : Fetching i t db id t
  | fetch {t db incident} (hincident : db.incidents.get? i = some incident) :
      Fetching i t db id { t with held := some incident }

section Rest

variable {ι : Type} [DecidableEq ι] (c : Pool Db ι Response) (past : List ι) (i : IncidentId)
  (k : ι)

/-- What is saved is what was counted. -/
def Computed (incident : Incident) (progress : Nat) : Prop :=
  incident.isFinished = true ∧ progress = 100 ∨
    ∃ total, Counted c past i k total ∧
      (total = 0 ∧ progress = 0 ∨
        total ≠ 0 ∧ ∃ done, CountedDone c past i k done ∧
          progress = roundHalfEven (done * 100) total)

/-- The rest of a program once it has passed its checks. -/
inductive Rest : View → Phase → Prop where
  | ended {response held} : Rest (.done response) { held := held, owes := false }
  /-- A task is about to be stored. -/
  | storing {write next held} (hincidents : ∀ db, (write db).incidents = db.incidents)
      (hnext : ∀ db, (write db = db ∧ ∃ response, next db = .done response) ∨
        (∃ reply, next db = fetchAndUpdate i reply) ∨
        ∃ incident reply, held = some incident ∧ next db = updateProgress incident reply) :
      Rest (.act write next) { held := held, owes := false }
  | closing {incident next held} (hid : incident.id = i) (hfinished : incident.isFinished = true)
      (hnext : ∀ db, ∃ response, next db = .done response) :
      Rest (.act (Db.saveIncident incident) next) { held := held, owes := false }
  | validating {incident : Incident} {response held} (hid : incident.id = i) :
      Rest (.act (Db.saveIncidentFields { incident with etat := .resolvedDefinitive } [.etat])
          fun _ => .act (terminateActiveCollaborations i) fun _ => .done response)
        { held := held, owes := false }
  | terminating {response held} :
      Rest (.act (terminateActiveCollaborations i) fun _ => .done response)
        { held := held, owes := false }
  | due {reply held} : Rest (fetchAndUpdate i reply) { held := held, owes := true }
  | computing {incident reply} :
      Rest (updateProgress incident reply) { held := some incident, owes := true }
  | counted {incident total reply} (hopen : incident.isFinished = false)
      (hcounted : Counted c past i k total) :
      Rest (updateProgress.countDone incident total reply) { held := some incident, owes := true }
  | saving {incident progress reply} (hcomputed : Computed c past i k incident progress) :
      Rest (updateProgress.save incident progress reply) { held := some incident, owes := true }

end Rest

/-! ## Every operation gets there -/

section Follows

variable {ι : Type} [DecidableEq ι] {c : Pool Db ι Response} {past : List ι} {i : IncidentId}
  {k : ι} {auth : Option UserId} {pk : TaskId} {held : Option Incident}

theorem fetching_read {t : Phase} (db : Db) : Fetching i t db id t := .read

theorem rest_pure (held : Option Incident) (response : Response) :
    Rest c past i k (pure response) { held := held, owes := false } :=
  .ended

theorem incidents_saveTask (task : IncidentTask) (db : Db) :
    (db.saveTask task).2.incidents = db.incidents := by
  unfold Db.saveTask
  split <;> rfl

theorem saveTask_false {task : IncidentTask} {db : Db} (h : (db.saveTask task).1 = false) :
    (db.saveTask task).2 = db := by
  unfold Db.saveTask at h ⊢
  split at h
  · cases h
  · rename_i hnone
    rw [if_neg hnone]

theorem follows_saveTask {task : IncidentTask} (hincident : task.incident = i) :
    (saveTask task).Follows (Fetching i) (Rest c past i k) { held := held, owes := false } := by
  refine Prog.follows_rest (Rest.storing (incidents_saveTask task) fun db => ?_)
  cases hstored : (db.saveTask task).1 with
  | false => exact Or.inl ⟨saveTask_false hstored, .crash, by simp [hstored]; rfl⟩
  | true => exact Or.inr (Or.inl ⟨_, by simp [hstored, hincident]; rfl⟩)

theorem follows_fetch {j : IncidentId} {view : Incident → View} (hj : j = i)
    (h : ∀ incident, (view incident).Follows (Fetching i) (Rest c past i k)
      { held := some incident, owes := false }) :
    (do match ← Prog.read fun db => db.incidents.get? j with
        | none => pure .crash
        | some incident => view incident : View).Follows (Fetching i) (Rest c past i k)
      { held := held, owes := false } := by
  subst hj
  refine Prog.follows_read fun db => ?_
  split
  · exact ⟨_, .read, Prog.follows_pure (rest_pure _ _)⟩
  · rename_i incident hincident
    exact ⟨_, .fetch hincident, h incident⟩

theorem insertTask_none {task : IncidentTask} {db : Db} (h : (db.insertTask task).1 = none) :
    (db.insertTask task).2 = db := by
  refine @saveTask_false { task with id := db.tasks.freshKey } db ?_
  unfold Db.insertTask at h
  dsimp only at h
  split at h
  · cases h
  · rename_i hstored
    simpa using hstored

theorem follows_createTask {data : TaskData} :
    (createTask auth i data).Follows (Fetching i) (Rest c past i k) .start := by
  refine follows_authenticate fetching_read (rest_pure _) fun user =>
    follows_permitLeaderOrContributor fetching_read (rest_pure _) ?_
  refine Prog.follows_read fun db => ⟨_, .read, follows_refuseIf (rest_pure _) fun _ => ?_⟩
  refine follows_validated (rest_pure _) (follows_fetch rfl fun incident => ?_)
  refine follows_refuseIf (rest_pure _) fun _ => Prog.follows_rest (Rest.storing ?_ fun db => ?_)
  · exact fun db => incidents_saveTask _ db
  · cases hstored : (db.insertTask (data.over (.blank i user.id))).1 with
    | none => exact Or.inl ⟨insertTask_none hstored, .crash, by simp only [hstored]; rfl⟩
    | some task => exact Or.inr (Or.inr ⟨incident, _, rfl, by simp only [hstored]; rfl⟩)

theorem follows_updateTask {partialUpdate : Bool} {data : TaskData} :
    (updateTask auth i pk partialUpdate data).Follows (Fetching i) (Rest c past i k) .start := by
  refine follows_authenticate fetching_read (rest_pure _) fun user =>
    follows_permitLeaderOrContributor fetching_read (rest_pure _) ?_
  refine follows_getTask fetching_read (rest_pure _) fun task htask => ?_
  refine Prog.follows_read fun db => ⟨_, .read, follows_refuseIf (rest_pure _) fun _ => ?_⟩
  refine follows_fetch htask fun incident => follows_validated (rest_pure _) ?_
  refine Prog.follows_rest (Rest.storing (incidents_saveTask (data.over task)) fun db => ?_)
  cases hstored : (db.saveTask (data.over task)).1 with
  | false => exact Or.inl ⟨saveTask_false hstored, .crash, by simp [hstored]; rfl⟩
  | true => exact Or.inr (Or.inr ⟨incident, _, rfl, by simp [hstored]; rfl⟩)

theorem follows_deleteTask :
    (deleteTask auth i pk).Follows (Fetching i) (Rest c past i k) .start := by
  refine follows_authenticate fetching_read (rest_pure _) fun user =>
    follows_permitLeaderOrContributor fetching_read (rest_pure _) ?_
  refine follows_getTask fetching_read (rest_pure _) fun task htask => ?_
  refine follows_fetch htask fun incident => ?_
  refine Prog.follows_rest (Rest.storing (fun _ => rfl) fun db => ?_)
  exact Or.inr (Or.inr ⟨incident, _, rfl, rfl⟩)

theorem follows_confirmTask :
    (confirmTask auth i pk).Follows (Fetching i) (Rest c past i k) .start := by
  refine follows_authenticate fetching_read (rest_pure _) fun user => ?_
  refine follows_permitLeader fetching_read (rest_pure _) ?_
  exact follows_getTask fetching_read (rest_pure _) fun task htask => follows_saveTask htask

theorem follows_completeTask {proofImage proofVideo : Given} :
    (completeTask auth i pk proofImage proofVideo).Follows (Fetching i) (Rest c past i k)
      .start := by
  refine follows_authenticate fetching_read (rest_pure _) fun user => ?_
  refine follows_permitLeaderOrContributor fetching_read (rest_pure _) ?_
  refine follows_getTask fetching_read (rest_pure _) fun task htask => ?_
  refine follows_refuseIf (rest_pure _) fun _ => follows_refuseIf (rest_pure _) fun _ => ?_
  exact follows_saveTask htask

theorem follows_failTask {reason : Given} :
    (failTask auth i pk reason).Follows (Fetching i) (Rest c past i k) .start := by
  refine follows_authenticate fetching_read (rest_pure _) fun user => ?_
  refine follows_permitLeaderOrContributor fetching_read (rest_pure _) ?_
  refine follows_getTask fetching_read (rest_pure _) fun task htask => ?_
  cases reason with
  | nothing | unusable => exact Prog.follows_pure (rest_pure _ _)
  | text reason => exact follows_saveTask htask

theorem follows_relaunchTask :
    (relaunchTask auth i pk).Follows (Fetching i) (Rest c past i k) .start := by
  refine follows_authenticate fetching_read (rest_pure _) fun user => ?_
  refine follows_permitLeader fetching_read (rest_pure _) ?_
  refine follows_getTask fetching_read (rest_pure _) fun task htask => ?_
  exact follows_refuseIf (rest_pure _) fun _ => follows_saveTask htask

theorem follows_closeIncident {startDate endDate : Arg Date} :
    (closeIncident auth i startDate endDate).Follows (Fetching i) (Rest c past i k) .start := by
  refine follows_authenticate fetching_read (rest_pure _) fun user => ?_
  refine follows_permit (rest_pure _) ?_
  refine follows_permitLeader fetching_read (rest_pure _) ?_
  refine follows_getIncident fetching_read (rest_pure _) fun incident hid => ?_
  refine follows_refuseIf (rest_pure _) fun _ => follows_refuseIf (rest_pure _) fun _ => ?_
  refine Prog.follows_read fun db => ⟨_, .read, follows_refuseIf (rest_pure _) fun _ => ?_⟩
  split
  · exact Prog.follows_rest (Rest.closing hid rfl fun _ => ⟨_, rfl⟩)
  · exact Prog.follows_pure (rest_pure _ _)

theorem follows_validateResolution :
    (validateResolution auth i).Follows (Fetching i) (Rest c past i k) .start := by
  refine follows_authenticate fetching_read (rest_pure _) fun user => ?_
  refine follows_permit (rest_pure _) ?_
  refine follows_getIncident fetching_read (rest_pure _) fun incident hid => ?_
  exact follows_refuseIf (rest_pure _) fun _ => Prog.follows_rest (Rest.validating hid)

theorem ProgressOp.follows (op : ProgressOp) :
    op.view.Follows (Fetching op.incident) (Rest c past op.incident k) .start := by
  cases op with
  | close auth i startDate endDate => exact follows_closeIncident
  | validate auth i => exact follows_validateResolution
  | task request =>
      cases request with
      | create auth i data => exact follows_createTask
      | update auth i pk partialUpdate data => exact follows_updateTask
      | delete auth i pk => exact follows_deleteTask
      | confirm auth i pk => exact follows_confirmTask
      | complete auth i pk proofImage proofVideo => exact follows_completeTask
      | fail auth i pk reason => exact follows_failTask
      | relaunch auth i pk => exact follows_relaunchTask

end Follows

/-! ## What a save leaves -/

def Db.ProgressRightAt (db : Db) (i : IncidentId) : Prop :=
  ∀ row, db.incidents.get? i = some row → db.ProgressRight row

/-- Who has taken the incident for finished was right. -/
def Db.Holds (db : Db) (i : IncidentId) (held : Option Incident) : Prop :=
  ∀ incident, held = some incident → incident.id = i ∧
    (incident.isFinished = true → ∀ row, db.incidents.get? i = some row → row.isFinished = true)

/-- An incident that is there is finished, or was there, as finished as it is. -/
def Db.KeepsFinished (db db' : Db) (i : IncidentId) : Prop :=
  ∀ row', db'.incidents.get? i = some row' → row'.isFinished = true ∨
    ∃ row, db.incidents.get? i = some row ∧ row'.isFinished = row.isFinished

section Saves

variable {db db' : Db} {i : IncidentId} {incident row : Incident} {progress : Nat}

theorem Db.KeepsFinished.of_eq (h : db'.incidents = db.incidents) : db.KeepsFinished db' i :=
  fun row' hrow' => Or.inr ⟨row', h ▸ hrow', rfl⟩

theorem Db.Holds.keeps {held : Option Incident} (h : db.Holds i held)
    (hkeeps : db.KeepsFinished db' i) : db'.Holds i held := by
  intro incident hincident
  obtain ⟨hid, hfinished⟩ := h incident hincident
  refine ⟨hid, fun hfin row' hrow' => ?_⟩
  rcases hkeeps row' hrow' with hrow | ⟨row, hrow, hsame⟩
  · exact hrow
  · rw [hsame, hfinished hfin row hrow]

theorem Db.holds_of_get? (h : db.incidents.get? i = some incident) :
    db.Holds i (some incident) := by
  rintro incident' ⟨⟩
  refine ⟨Table.key_of_get? h, fun hfin row hrow => ?_⟩
  rw [h] at hrow
  cases hrow
  exact hfin

theorem writeColumns_withProgress (incident row : Incident) (progress : Nat) :
    (incident.withProgress progress).writeColumns [.progress] row =
      row.withProgress (if incident.isFinished = true then 100 else progress) := by
  unfold Incident.writeColumns Incident.savedColumns Incident.pinProgress
  have hfin : (incident.withProgress progress).isFinished = incident.isFinished := rfl
  rw [hfin]
  by_cases h : incident.isFinished = true
  · rw [if_pos h, if_pos h]
    split <;> rfl
  · rw [if_neg h, if_neg h, if_neg fun hand => h hand.1]
    rfl

theorem get?_saveProgress (db : Db) (incident : Incident) (progress : Nat) (j : IncidentId) :
    (db.saveProgress incident progress).incidents.get? j =
      if j = incident.id then (db.incidents.get? j).map fun row =>
        row.withProgress (if incident.isFinished = true then 100 else progress)
      else db.incidents.get? j := by
  unfold Db.saveProgress
  rw [Db.get?_saveIncidentFields]
  refine if_congr Iff.rfl (congrArg (fun f => (db.incidents.get? j).map f) ?_) rfl
  funext row
  exact writeColumns_withProgress incident row progress

/-- The three saves of the row are told apart from every other write by some
store in which they change the incidents; so a turn that is known to leave
them alone is none of the three. -/
theorem SavesIncident.writes {write : Db → Db} {next : Db → View}
    (h : SavesIncident (.act write next)) : ∃ db, (write db).incidents ≠ db.incidents := by
  generalize hp : Prog.act write next = p at h
  cases h with
  | @progress incident progress reply =>
      obtain ⟨rfl, -⟩ := Prog.act.inj (hp : _ = Prog.act _ _)
      let row : Incident :=
        { Incident.new incident.id none "" "" with progress := progress + 101 }
      refine ⟨Db.start [] [] row, fun heq => ?_⟩
      have hrow := congrArg (fun incidents => incidents.get? incident.id) heq
      have hget : (Db.start [] [] row).incidents.get? incident.id = some row :=
        Table.get?_eq_some.mpr ⟨List.mem_singleton_self row, rfl⟩
      rw [get?_saveProgress, if_pos rfl, hget] at hrow
      have hprogress := congrArg Incident.progress (Option.some.inj hrow)
      dsimp only [Incident.withProgress, row] at hprogress
      split at hprogress <;> omega
  | @close incident next' hfinished =>
      obtain ⟨rfl, -⟩ := Prog.act.inj (hp : _ = Prog.act _ _)
      let db := { Db.start [] [] (.new 0 none "" "") with incidents := Table.empty }
      refine ⟨db, fun heq => ?_⟩
      have hrow := congrArg (fun incidents => incidents.get? incident.id) heq
      rw [Db.incidents_saveIncident, if_pos rfl] at hrow
      cases hrow
  | @validate incident next' =>
      obtain ⟨rfl, -⟩ := Prog.act.inj (hp : _ = Prog.act _ _)
      let row := Incident.new incident.id none "" ""
      refine ⟨Db.start [] [] row, fun heq => ?_⟩
      have hrow := congrArg (fun incidents => incidents.get? incident.id) heq
      have hget : (Db.start [] [] row).incidents.get? incident.id = some row :=
        Table.get?_eq_some.mpr ⟨List.mem_singleton_self row, rfl⟩
      rw [Db.row_writeColumns hget (by rfl), hget, Incident.writeColumns_etat rfl] at hrow
      have hetat := congrArg Incident.etat (Option.some.inj hrow)
      cases hetat

theorem not_saves {write : Db → Db} {next : Db → View}
    (h : ∀ db, (write db).incidents = db.incidents) : ¬ SavesIncident (.act write next) := by
  intro hsaves
  obtain ⟨db, hdb⟩ := hsaves.writes
  exact hdb (h db)

theorem not_saves_done (response : Response) : ¬ SavesIncident (.done response) := by
  intro h
  generalize hp : Prog.done response = p at h
  cases h <;> cases hp

end Saves

/-! ## One turn -/

section Turn

variable {ι : Type} [DecidableEq ι] {c : Pool Db ι Response} {past : List ι} {i : IncidentId}
  {k j : ι} {p : View} {t : Phase}

theorem Counted.snoc {total : Nat} (h : Counted c past i k total) :
    Counted c (past ++ [j]) i k total := by
  obtain ⟨pre, rest, incident, reply, rfl, hprog, htotal⟩ := h
  exact ⟨pre, rest ++ [j], incident, reply, by simp, hprog, htotal⟩

theorem CountedDone.snoc {done : Nat} (h : CountedDone c past i k done) :
    CountedDone c (past ++ [j]) i k done := by
  obtain ⟨pre, rest, incident, total, reply, rfl, hprog, hdone⟩ := h
  exact ⟨pre, rest ++ [j], incident, total, reply, by simp, hprog, hdone⟩

theorem Computed.snoc {incident : Incident} {progress : Nat}
    (h : Computed c past i k incident progress) :
    Computed c (past ++ [j]) i k incident progress := by
  rcases h with h | ⟨total, htotal, ⟨hzero, hprogress⟩ | ⟨hsome, done, hdone, hprogress⟩⟩
  · exact Or.inl h
  · exact Or.inr ⟨total, htotal.snoc, Or.inl ⟨hzero, hprogress⟩⟩
  · exact Or.inr ⟨total, htotal.snoc, Or.inr ⟨hsome, done, hdone.snoc, hprogress⟩⟩

/-- What a program has counted does not depend on the turns of the others. -/
theorem Rest.snoc (h : Rest c past i k p t) : Rest c (past ++ [j]) i k p t := by
  cases h with
  | ended => exact .ended
  | storing hincidents hnext => exact .storing hincidents hnext
  | closing hid hfinished hnext => exact .closing hid hfinished hnext
  | validating hid => exact .validating hid
  | terminating => exact .terminating
  | due => exact .due
  | computing => exact .computing
  | counted hopen hcounted => exact .counted hopen hcounted.snoc
  | saving hcomputed => exact .saving hcomputed.snoc

/-- A save that is not stale leaves the right progress. -/
theorem right_saveProgress {incident : Incident} {progress : Nat}
    (hheld : (c.exec past).store.Holds i (some incident))
    (hcomputed : Computed c past i k incident progress) (hfresh : ¬ Stale c past i k) :
    ((c.exec past).store.saveProgress incident progress).ProgressRightAt i := by
  obtain ⟨hid, hfinished⟩ := hheld incident rfl
  intro row' hrow'
  rw [get?_saveProgress, if_pos hid.symm] at hrow'
  obtain ⟨row, hrow, rfl⟩ := Option.map_eq_some_iff.mp hrow'
  have hi : row.id = i := Table.key_of_get? hrow
  unfold Db.ProgressRight Db.computedProgress
  have hfin : ∀ n, (row.withProgress n).isFinished = row.isFinished := fun _ => rfl
  rw [hfin]
  by_cases hinc : incident.isFinished = true
  · rw [if_pos (hfinished hinc row hrow), if_pos hinc]
    rfl
  · rcases hcomputed with ⟨h, -⟩ | ⟨total, htotal, hprogress⟩
    · exact absurd h hinc
    have hopen : row.isFinished ≠ true := fun h => hfresh (.closed htotal hrow h)
    have hsame : ((c.exec past).store.confirmedTasks i).length = total := by
      by_contra hchanged
      exact hfresh (.confirmed htotal hchanged)
    rw [if_neg hopen, if_neg hinc]
    change progress = if ((c.exec past).store.confirmedTasks row.id).length = 0 then 0
      else roundHalfEven (((c.exec past).store.doneTasks row.id).length * 100)
        ((c.exec past).store.confirmedTasks row.id).length
    rw [hi, hsame]
    rcases hprogress with ⟨hzero, rfl⟩ | ⟨hsome, done, hdone, rfl⟩
    · rw [if_pos hzero]
    · have hsame' : ((c.exec past).store.doneTasks i).length = done := by
        by_contra hchanged
        exact hfresh (.done hdone hchanged)
      rw [if_neg hsome, hsame']

/-- What one turn does to the incident, in the store `db`: nothing, and then a task is
only stored by a program that owes a recomputation from then on; or it saves it. -/
inductive TurnOf (c : Pool Db ι Response) (past : List ι) (i : IncidentId) (k : ι) (p : View)
    (t t' : Phase) (db db' : Db) : Prop where
  | quiet (hsaves : ¬ SavesIncident p) (hincidents : db'.incidents = db.incidents)
      (htasks : t'.owes = true ∨ db'.tasks = db.tasks)
      (howes : t.owes = true → t'.owes = true ∨ db.incidents.get? i = none) :
      TurnOf c past i k p t t' db db'
  | saves (hsaves : SavesIncident p) (hright : ¬ Stale c past i k → db'.ProgressRightAt i)
      (hkeeps : db.KeepsFinished db' i) : TurnOf c past i k p t t' db db'

theorem TurnOf.keeps {t' : Phase} {db db' : Db} (h : TurnOf c past i k p t t' db db') :
    db.KeepsFinished db' i := by
  cases h with
  | quiet _ hincidents _ _ => exact .of_eq hincidents
  | saves _ _ hkeeps => exact hkeeps

theorem turn_save {incident : Incident} {progress : Nat} {reply : Response}
    {held : Option Incident} (hheld : (c.exec past).store.Holds i (some incident))
    (hcomputed : Computed c past i k incident progress) :
    TurnOf c past i k (updateProgress.save incident progress reply) t
      { held := held, owes := false } (c.exec past).store
      ((c.exec past).store.saveProgress incident progress) := by
  refine .saves .progress (right_saveProgress hheld hcomputed) fun row' hrow' => ?_
  obtain ⟨hid, -⟩ := hheld incident rfl
  rw [get?_saveProgress, if_pos hid.symm] at hrow'
  obtain ⟨row, hrow, rfl⟩ := Option.map_eq_some_iff.mp hrow'
  exact Or.inr ⟨row, hrow, rfl⟩

theorem turn_close {incident : Incident} {next : Db → View} {t' : Phase} {db : Db}
    (hid : incident.id = i) (hfinished : incident.isFinished = true) :
    TurnOf c past i k (.act (Db.saveIncident incident) next) t t' db
      (db.saveIncident incident) := by
  have hrow : (db.saveIncident incident).incidents.get? i = some incident.pinProgress := by
    rw [Db.incidents_saveIncident, if_pos hid.symm]
  refine .saves (.close hfinished) (fun _ row' hrow' => ?_) fun row' hrow' => Or.inl ?_
  all_goals
    rw [hrow] at hrow'
    obtain rfl := Option.some.inj hrow'
  · exact Db.progressRight_pinProgress hfinished
  · rw [Incident.pinProgress_isFinished, hfinished]

theorem turn_validate {incident : Incident} {next : Db → View} {t' : Phase}
    (hid : incident.id = i)
    (hprog : (c.exec past).progs k = .act (Db.saveIncidentFields
      { incident with etat := .resolvedDefinitive } [.etat]) next) :
    TurnOf c past i k (.act (Db.saveIncidentFields
        { incident with etat := .resolvedDefinitive } [.etat]) next) t t' (c.exec past).store
      ((c.exec past).store.saveIncidentFields
        { incident with etat := .resolvedDefinitive } [.etat]) := by
  have hrow : ∀ row', ((c.exec past).store.saveIncidentFields
      { incident with etat := .resolvedDefinitive } [.etat]).incidents.get? i = some row' →
        ∃ row, (c.exec past).store.incidents.get? i = some row ∧
          row' = { row with
            etat := .resolvedDefinitive
            progress := if incident.progress = 100 then row.progress else 100 } := by
    intro row' hrow'
    rw [Db.get?_saveIncidentFields, if_pos (by exact hid.symm)] at hrow'
    obtain ⟨row, hrow, rfl⟩ := Option.map_eq_some_iff.mp hrow'
    exact ⟨row, hrow, Incident.writeColumns_etat rfl row⟩
  refine .saves .validate (fun hfresh row' hrow' => ?_) fun row' hrow' => Or.inl ?_
  · obtain ⟨row, hold, rfl⟩ := hrow row' hrow'
    change (if incident.progress = 100 then row.progress else 100) = 100
    split
    · rename_i hfull
      by_contra hchanged
      exact hfresh (.full hid hprog hfull hold hchanged)
    · rfl
  · obtain ⟨row, -, rfl⟩ := hrow row' hrow'
    rfl

/-- What a turn of a request does, by the phase that the request is in:
whether it saves the row of the incident, what of the row it holds from then
on, and whether it still owes a recomputation. The cases are the constructors
of `Rest`, so a request never leaves the phases that its program was shown to
follow. -/
theorem Rest.turn (h : Rest c past i k p t) (hprog : (c.exec past).progs k = p)
    (hheld : (c.exec past).store.Holds i t.held) :
    ∃ t', Rest c (past ++ [k]) i k (p.step (c.exec past).store).1 t' ∧
      (t'.held = t.held ∨
        ∃ row, (c.exec past).store.incidents.get? i = some row ∧ t'.held = some row) ∧
      TurnOf c past i k p t t' (c.exec past).store (p.step (c.exec past).store).2 := by
  cases h with
  | @ended response held =>
      exact ⟨_, .ended, Or.inl rfl, .quiet (not_saves_done response) rfl (Or.inr rfl) nofun⟩
  | @storing write next held hincidents hnext =>
      rcases hnext (c.exec past).store with
        ⟨hwrite, response, hstep⟩ | ⟨reply, hstep⟩ | ⟨incident, reply, rfl, hstep⟩
      · refine ⟨{ held := held, owes := false }, ?_, Or.inl rfl, .quiet (not_saves hincidents)
          (hincidents _) (Or.inr (congrArg Db.tasks hwrite)) nofun⟩
        change Rest c (past ++ [k]) i k (next (c.exec past).store) _
        rw [hstep]
        exact .ended
      · refine ⟨{ held := held, owes := true }, ?_, Or.inl rfl, .quiet (not_saves hincidents)
          (hincidents _) (Or.inl rfl) nofun⟩
        change Rest c (past ++ [k]) i k (next (c.exec past).store) _
        rw [hstep]
        exact .due
      · refine ⟨{ held := some incident, owes := true }, ?_, Or.inl rfl,
          .quiet (not_saves hincidents) (hincidents _) (Or.inl rfl) nofun⟩
        change Rest c (past ++ [k]) i k (next (c.exec past).store) _
        rw [hstep]
        exact .computing
  | @closing incident next held hid hfinished hnext =>
      obtain ⟨response, hresponse⟩ := hnext (c.exec past).store
      refine ⟨{ held := held, owes := false }, ?_, Or.inl rfl, turn_close hid hfinished⟩
      change Rest c (past ++ [k]) i k (next (c.exec past).store) _
      rw [hresponse]
      exact .ended
  | validating hid => exact ⟨_, .terminating, Or.inl rfl, turn_validate hid hprog⟩
  | terminating =>
      exact ⟨_, .ended, Or.inl rfl, .quiet (not_saves fun _ => rfl) rfl (Or.inr rfl) nofun⟩
  | @due reply held =>
      have hquiet : ¬ SavesIncident (fetchAndUpdate i reply) := not_saves fun _ => rfl
      cases hrow : (c.exec past).store.incidents.get? i with
      | none =>
          refine ⟨{ held := held, owes := false }, ?_, Or.inl rfl,
            .quiet hquiet rfl (Or.inr rfl) fun _ => Or.inr hrow⟩
          have hstep : ((fetchAndUpdate i reply).step (c.exec past).store).1 = .done reply := by
            unfold fetchAndUpdate
            rw [Prog.step_read, hrow]
            rfl
          exact hstep ▸ .ended
      | some row =>
          refine ⟨{ held := some row, owes := true }, ?_, Or.inr ⟨row, rfl, rfl⟩,
            .quiet hquiet rfl (Or.inl rfl) fun _ => Or.inl rfl⟩
          have hstep : ((fetchAndUpdate i reply).step (c.exec past).store).1 =
              updateProgress row reply := by
            unfold fetchAndUpdate
            rw [Prog.step_read, hrow]
          exact hstep ▸ .computing
  | @computing incident reply =>
      by_cases hfin : incident.isFinished = true
      · have hsave : updateProgress incident reply = updateProgress.save incident 100 reply :=
          if_pos hfin
        rw [hsave]
        exact ⟨_, .ended, Or.inl rfl, turn_save hheld (Or.inl ⟨hfin, rfl⟩)⟩
      · have hcount : updateProgress incident reply =
            (do let total ← Prog.read fun db => (db.confirmedTasks incident.id).length
                updateProgress.countDone incident total reply) := if_neg hfin
        have hcounted : Counted c (past ++ [k]) i k
            ((c.exec past).store.confirmedTasks incident.id).length := by
          refine ⟨past, [], incident, reply, rfl, hprog, ?_⟩
          rw [(hheld incident rfl).1]
        rw [hcount]
        exact ⟨_, .counted (by simpa using hfin) hcounted, Or.inl rfl,
          .quiet (not_saves fun _ => rfl) rfl (Or.inl rfl) fun _ => Or.inl rfl⟩
  | @counted incident total reply hopen hcounted =>
      by_cases htotal : total = 0
      · have hsave : updateProgress.countDone incident total reply =
            updateProgress.save incident 0 reply := if_pos htotal
        rw [hsave]
        exact ⟨_, .ended, Or.inl rfl,
          turn_save hheld (Or.inr ⟨total, hcounted, Or.inl ⟨htotal, rfl⟩⟩)⟩
      · have hcount : updateProgress.countDone incident total reply =
            (do let done ← Prog.read fun db => (db.doneTasks incident.id).length
                updateProgress.save incident (roundHalfEven (done * 100) total) reply) :=
          if_neg htotal
        have hdone : CountedDone c (past ++ [k]) i k
            ((c.exec past).store.doneTasks incident.id).length := by
          refine ⟨past, [], incident, total, reply, rfl, hprog, ?_⟩
          rw [(hheld incident rfl).1]
        rw [hcount]
        exact ⟨_, .saving (Or.inr ⟨total, hcounted.snoc, Or.inr ⟨htotal, _, hdone, rfl⟩⟩),
          Or.inl rfl, .quiet (not_saves fun _ => rfl) rfl (Or.inl rfl) fun _ => Or.inl rfl⟩
  | saving hcomputed => exact ⟨_, .ended, Or.inl rfl, turn_save hheld hcomputed⟩

end Turn

/-! ## Runs -/

section Runs

variable {ι : Type} [DecidableEq ι] {c : Pool Db ι Response} {past rest : List ι}
  {i : IncidentId} {k : ι} {phase : ι → Phase}

structure ProgressInv (c : Pool Db ι Response) (past : List ι) (i : IncidentId)
    (phase : ι → Phase) : Prop where
  follows : ∀ k, ((c.exec past).progs k).Follows (Fetching i) (Rest c past i k) (phase k)
  held : ∀ k, (c.exec past).store.Holds i (phase k).held

/-- The progress is right, or somebody is about to recompute it. No turn
breaks this but a save, and of the saves only one that is stale; so after the
last save it says that the progress is right. -/
def Settled (db : Db) (i : IncidentId) (phase : ι → Phase) : Prop :=
  db.ProgressRightAt i ∨ ∃ k, (phase k).owes = true

/-- A turn of one request leaves all the others in the phases they were in.
What they hold of the row stays true of the store, because no turn takes back
that an incident is finished. -/
theorem ProgressInv.update (h : ProgressInv c past i phase) {t' : Phase}
    (hnext : (((c.exec past).progs k).step (c.exec past).store).1.Follows (Fetching i)
      (Rest c (past ++ [k]) i k) t')
    (hheld : t'.held = (phase k).held ∨
      ∃ row, (c.exec past).store.incidents.get? i = some row ∧ t'.held = some row)
    (hkeeps : (c.exec past).store.KeepsFinished (c.exec (past ++ [k])).store i) :
    ProgressInv c (past ++ [k]) i (Function.update phase k t') := by
  constructor
  · intro j
    rw [Pool.exec_snoc]
    unfold Pool.step
    dsimp only
    by_cases hj : j = k
    · subst hj
      rw [Function.update_self, Function.update_self]
      exact hnext
    · rw [Function.update_of_ne hj, Function.update_of_ne hj]
      exact Prog.follows_mono (h.follows j) fun _ _ hrest => hrest.snoc
  · intro j
    by_cases hj : j = k
    · subst hj
      rw [Function.update_self]
      rcases hheld with hheld | ⟨row, hrow, hheld⟩
      · rw [hheld]
        exact (h.held j).keeps hkeeps
      · rw [hheld]
        exact (Db.holds_of_get? hrow).keeps hkeeps
    · rw [Function.update_of_ne hj]
      exact (h.held j).keeps hkeeps

theorem ProgressInv.turn (h : ProgressInv c past i phase) (k : ι) :
    ∃ t', ProgressInv c (past ++ [k]) i (Function.update phase k t') ∧
      TurnOf c past i k ((c.exec past).progs k) (phase k) t' (c.exec past).store
        (c.exec (past ++ [k])).store := by
  have hstore : (c.exec (past ++ [k])).store =
      (((c.exec past).progs k).step (c.exec past).store).2 := by
    rw [Pool.exec_snoc]
    rfl
  rcases Prog.follows_cases (h.follows k) (c.exec past).store with
    hrest | ⟨write, next, t', hprog, hallowed, hnext⟩
  · obtain ⟨t', hrest', hheld, hturn⟩ := hrest.turn rfl (h.held k)
    rw [← hstore] at hturn
    exact ⟨t', h.update (Prog.follows_rest hrest') hheld hturn.keeps, hturn⟩
  · have hread : write = id ∧ t'.owes = (phase k).owes ∧ (t'.held = (phase k).held ∨
        ∃ row, (c.exec past).store.incidents.get? i = some row ∧ t'.held = some row) := by
      generalize phase k = t at hallowed
      cases hallowed with
      | read => exact ⟨rfl, rfl, Or.inl rfl⟩
      | fetch hrow => exact ⟨rfl, rfl, Or.inr ⟨_, hrow, rfl⟩⟩
    obtain ⟨rfl, howes, hheld⟩ := hread
    have hsame : (c.exec (past ++ [k])).store = (c.exec past).store := by
      rw [hstore, hprog]
      rfl
    refine ⟨t', h.update ?_ hheld (.of_eq (congrArg Db.incidents hsame)), ?_⟩
    · rw [hprog]
      exact Prog.follows_mono hnext fun _ _ hrest => hrest.snoc
    · rw [hprog, hsame]
      exact .quiet (not_saves fun _ => rfl) rfl (Or.inr rfl) fun hk => Or.inl (howes.trans hk)

/-- A turn that saves no incident leaves the progress right, or a recomputation due. -/
theorem TurnOf.settled {p : View} {t' : Phase} {db db' : Db}
    (h : TurnOf c past i k p (phase k) t' db db') (hsaves : ¬ SavesIncident p)
    (hsettled : Settled db i phase) : Settled db' i (Function.update phase k t') := by
  cases h with
  | saves hsave => exact absurd hsave hsaves
  | quiet _ hincidents htasks howes =>
      rcases hsettled with hright | ⟨j, hj⟩
      · rcases htasks with htasks | htasks
        · exact Or.inr ⟨k, by rw [Function.update_self, htasks]⟩
        · refine Or.inl fun row hrow => ?_
          have hrow' := hright row (hincidents ▸ hrow)
          unfold Db.ProgressRight Db.computedProgress Db.confirmedTasks Db.doneTasks at hrow' ⊢
          rw [htasks]
          exact hrow'
      · by_cases hjk : j = k
        · subst hjk
          rcases howes hj with howes | hnone
          · exact Or.inr ⟨j, by rw [Function.update_self, howes]⟩
          · refine Or.inl fun row hrow => ?_
            rw [hincidents, hnone] at hrow
            cases hrow
        · exact Or.inr ⟨j, by rw [Function.update_of_ne hjk, hj]⟩

theorem ProgressInv.exec (h : ProgressInv c past i phase) (rest : List ι) :
    ∃ phase, ProgressInv c (past ++ rest) i phase := by
  induction rest using List.reverseRecOn with
  | nil => exact ⟨phase, by rwa [List.append_nil]⟩
  | append_singleton rest k ih =>
      obtain ⟨phase, hinv⟩ := ih
      obtain ⟨t', hinv', -⟩ := hinv.turn k
      exact ⟨_, by rwa [← List.append_assoc]⟩

/-- As long as no incident is saved. -/
theorem ProgressInv.settled (h : ProgressInv c past i phase) (rest : List ι)
    (hsettled : Settled (c.exec past).store i phase)
    (hquiet : ∀ mid k rest', rest = mid ++ k :: rest' →
      ¬ SavesIncident ((c.exec (past ++ mid)).progs k)) :
    ∃ phase, ProgressInv c (past ++ rest) i phase ∧
      Settled (c.exec (past ++ rest)).store i phase := by
  induction rest using List.reverseRecOn with
  | nil => exact ⟨phase, by rwa [List.append_nil], by rwa [List.append_nil]⟩
  | append_singleton rest k ih =>
      obtain ⟨phase, hinv, hsettled⟩ := ih fun mid j rest' hrest =>
        hquiet mid j (rest' ++ [k]) (by rw [hrest, List.append_assoc, List.cons_append])
      obtain ⟨t', hinv', hturn⟩ := hinv.turn k
      have hk := hquiet rest k [] rfl
      rw [← List.append_assoc]
      exact ⟨_, hinv', hturn.settled hk hsettled⟩

theorem Rest.owes_of_done {response : Response} {t : Phase}
    (h : Rest c past i k (.done response) t) : t.owes = false := by
  generalize hp : Prog.done response = p at h
  cases h with
  | ended | storing | closing | validating | terminating => rfl
  | due => cases hp
  | @computing incident reply =>
      unfold updateProgress at hp
      split at hp <;> cases hp
  | @counted incident total reply =>
      unfold updateProgress.countDone at hp
      split at hp <;> cases hp
  | saving => cases hp

theorem ProgressInv.right (h : ProgressInv c past i phase)
    (hsettled : Settled (c.exec past).store i phase)
    (hdone : ∀ k, (c.exec past).result k ≠ none) : (c.exec past).store.ProgressRightAt i := by
  rcases hsettled with hright | ⟨k, hk⟩
  · exact hright
  · have hfollows := h.follows k
    cases hprog : (c.exec past).progs k with
    | done response =>
        rw [hprog] at hfollows
        have hend := Rest.owes_of_done (hfollows : Rest c past i k (.done response) (phase k))
        rw [hend] at hk
        cases hk
    | act write next =>
        exact absurd (Pool.result_act hprog) (hdone k)

end Runs

theorem progressPool_inv {ι : Type} [DecidableEq ι] (db : Db) {i : IncidentId}
    {ops : ι → ProgressOp} (hops : ∀ k, (ops k).incident = i) :
    ProgressInv (progressPool db ops) [] i fun _ => .start := by
  refine ⟨fun k => ?_, fun k incident => nofun⟩
  have hfollows : (ops k).view.Follows (Fetching (ops k).incident)
      (Rest (progressPool db ops) [] (ops k).incident k) .start := (ops k).follows
  rwa [hops k] at hfollows

/-- Once all the operations have finished, the progress of the incident is
right, if the last save of the schedule was not stale. Saves before it may be
stale: each is undone by a later one, and whoever stores a task saves after it
(`Settled`). -/
theorem progress_right_of_fresh {ι : Type} [DecidableEq ι] (db : Db) (i : IncidentId)
    (ops : ι → ProgressOp) (hops : ∀ k, (ops k).incident = i) (hstart : db.ProgressRightAt i)
    (schedule : List ι) (hdone : ∀ k, ((progressPool db ops).exec schedule).result k ≠ none)
    (hfresh : ∀ past k, LastSave (progressPool db ops) past k schedule →
      ¬ Stale (progressPool db ops) past i k) :
    ((progressPool db ops).exec schedule).store.ProgressRightAt i := by
  have hinv := progressPool_inv db hops
  rcases @last_or_never _ _ Pool.step (fun c k => SavesIncident (c.progs k)) (progressPool db ops)
      schedule with
    ⟨past, k, rest, rfl, hsaves, hlast⟩ | hnever
  · obtain ⟨phase, hpast⟩ := hinv.exec past
    rw [List.nil_append] at hpast
    obtain ⟨t', hinv', hturn⟩ := hpast.turn k
    have hright : ((progressPool db ops).exec (past ++ [k])).store.ProgressRightAt i := by
      cases hturn with
      | quiet hquiet => exact absurd hsaves hquiet
      | saves _ hright => exact hright (hfresh past k ⟨rest, rfl, hsaves, hlast⟩)
    obtain ⟨phase', hfinal, hsettled⟩ := hinv'.settled rest (Or.inl hright)
      fun mid j rest' hrest => by
        rw [List.append_assoc]
        exact hlast mid j rest' hrest
    rw [List.append_assoc, List.singleton_append] at hfinal hsettled
    exact hfinal.right hsettled hdone
  · obtain ⟨phase', hfinal, hsettled⟩ := hinv.settled schedule (Or.inl hstart)
      fun mid j rest' hrest => hnever mid j rest' hrest
    exact hfinal.right hsettled hdone

theorem ProgressInv.saves_of_ne {ι : Type} [DecidableEq ι] {c : Pool Db ι Response}
    {past : List ι} {i : IncidentId} {k : ι} {phase : ι → Phase} (h : ProgressInv c past i phase)
    (hchange : (c.exec (past ++ [k])).store.incidents ≠ (c.exec past).store.incidents) :
    SavesIncident ((c.exec past).progs k) := by
  obtain ⟨t', -, hturn⟩ := h.turn k
  cases hturn with
  | quiet _ hincidents => exact absurd hincidents hchange
  | saves hsaves => exact hsaves

theorem LastSave.eq_of_saves {ι : Type} [DecidableEq ι] {c : Pool Db ι Response}
    {past schedule : List ι} {j k : ι} (h : LastSave c past k (schedule ++ [j]))
    (hsaves : SavesIncident ((c.exec schedule).progs j)) : past = schedule ∧ k = j := by
  obtain ⟨rest, heq, -, hlast⟩ := h
  rcases snoc_eq_append_cons heq with ⟨-, rfl, rfl⟩ | ⟨rest', hrest, rfl⟩
  · exact ⟨rfl, rfl⟩
  · exact absurd hsaves (hlast rest' j [] hrest)

theorem not_full_of_open {ι : Type} [DecidableEq ι] {c : Pool Db ι Response} {past : List ι}
    {i : IncidentId} {k : ι} {incident row row' : Incident} {next : Db → View}
    (hid : incident.id = i) (hrow : (c.exec past).store.incidents.get? i = some row)
    (hrow' : (c.exec (past ++ [k])).store.incidents.get? i = some row')
    (hopen : row'.isFinished = false) :
    (c.exec past).progs k ≠ .act (Db.saveIncidentFields
      { incident with etat := .resolvedDefinitive } [.etat]) next := by
  intro hvalidates
  rw [Pool.store_exec_snoc hvalidates,
    Db.row_writeColumns hrow (by exact hid)] at hrow'
  obtain rfl := Option.some.inj hrow'
  rw [Incident.writeColumns_etat rfl] at hopen
  cases hopen

def plannedStore : Db :=
  let task : IncidentTask := { IncidentTask.blank 1 2 with isConfirmed := true }
  { Db.start [] [.member 2 "admin@example.org" .orgAdmin 1]
      { Incident.new 1 none "Bamako" "01-01-2025" with etat := .taken, takenBy := some 2 } with
    tasks := (Table.empty.put { task with id := 1, title := "Colmater" }).put
      { task with id := 2, title := "Curer" } }

theorem plannedStore_right : plannedStore.ProgressRightAt 1 := by
  intro row hrow
  obtain rfl := List.mem_singleton.mp (Table.mem_of_get? hrow)
  decide

def completions : Bool → ProgressOp
  | true => .task (.complete (some 2) 1 1 .photo .nothing)
  | false => .task (.complete (some 2) 1 2 .photo .nothing)

def threeRequests : Fin 3 → ProgressOp
  | 0 => completions true
  | 1 => completions false
  | 2 => .task (.create (some 2) 1 (threeDays "Signaler"))

/-- Both tasks are stored as done before the creation begins. It saves after the request
that has counted one. -/
def savedAgain : List (Fin 3) :=
  List.replicate 7 0 ++ List.replicate 4 1 ++ List.replicate 6 2 ++ List.replicate 4 1 ++ [2, 0]

theorem progress_right_of_fresh_savedAgain :
    let c := (progressPool plannedStore threeRequests).exec (savedAgain ++ [2])
    c.store.ProgressRightAt 1 := by
  have hops : ∀ k, (threeRequests k).incident = 1 := by decide
  refine progress_right_of_fresh plannedStore 1 threeRequests hops plannedStore_right
    (savedAgain ++ [2]) (by decide) fun past k hlast => ?_
  obtain ⟨phase, hinv⟩ := (progressPool_inv plannedStore hops).exec savedAgain
  rw [List.nil_append] at hinv
  obtain ⟨rfl, rfl⟩ := hlast.eq_of_saves <| hinv.saves_of_ne fun heq =>
    absurd (congrArg Table.rows heq) (by decide)
  have hopen : (((progressPool plannedStore threeRequests).exec
      savedAgain).store.incidents.get? 1).map Incident.isFinished = some false := by decide
  have hopen' : (((progressPool plannedStore threeRequests).exec
      (savedAgain ++ [2])).store.incidents.get? 1).map Incident.isFinished = some false := by
    decide
  obtain ⟨row, hrow, hfin⟩ := Option.map_eq_some_iff.mp hopen
  obtain ⟨row', hrow', hfin'⟩ := Option.map_eq_some_iff.mp hopen'
  -- the creation has all its turns after the tasks were stored
  have hsame : ∀ n < savedAgain.length, savedAgain[n]? = some 2 →
      (((progressPool plannedStore threeRequests).exec
        (savedAgain.take n)).store.confirmedTasks 1).length = 2 ∧
      (((progressPool plannedStore threeRequests).exec
        (savedAgain.take n)).store.doneTasks 1).length = 2 := by
    decide
  have hcounts : ∀ pre rest, savedAgain = pre ++ 2 :: rest →
      (((progressPool plannedStore threeRequests).exec pre).store.confirmedTasks 1).length = 2 ∧
      (((progressPool plannedStore threeRequests).exec pre).store.doneTasks 1).length = 2 := by
    intro pre rest heq
    have hn := hsame pre.length (by simp [heq]) (by simp [heq])
    rwa [heq, List.take_left] at hn
  intro hstale
  cases hstale with
  | closed _ hrow₂ hfinished =>
      obtain rfl := Option.some.inj (hrow.symm.trans hrow₂)
      rw [hfin] at hfinished
      cases hfinished
  | confirmed hcounted hchanged =>
      obtain ⟨pre, rest, incident, reply, heq, -, rfl⟩ := hcounted
      rw [(hcounts pre rest heq).1] at hchanged
      exact hchanged (by decide)
  | done hcounted hchanged =>
      obtain ⟨pre, rest, incident, total, reply, heq, -, rfl⟩ := hcounted
      rw [(hcounts pre rest heq).2] at hchanged
      exact hchanged (by decide)
  | full hid hvalidates _ hrow₂ _ => exact not_full_of_open hid hrow hrow' hfin' hvalidates

/-- The first request has counted when the second one is served, and saves after it. -/
def countedTooEarly : List Bool := List.replicate 7 true ++ List.replicate 8 false ++ [true]

/-- Both tasks are done, and the progress is 50 %. -/
theorem half_though_done :
    let c := (progressPool plannedStore completions).exec countedTooEarly
    plannedStore.ProgressRightAt 1 ∧ (∀ k, (completions k).incident = 1) ∧
      (∀ k, c.result k ≠ none) ∧
      c.store.tasks.rows.map (fun task => (task.state, task.isConfirmed)) =
        [(.done, true), (.done, true)] ∧
      c.store.incidents.rows.map (fun row => (row.etat, row.progress)) = [(.taken, 50)] ∧
      ¬ c.store.ProgressRightAt 1 := by
  refine ⟨plannedStore_right, by decide, by decide, by decide, by decide, fun hright => ?_⟩
  have hwrong : (((progressPool plannedStore completions).exec
      countedTooEarly).store.incidents.get? 1).map
        (fun row => decide (((progressPool plannedStore completions).exec
          countedTooEarly).store.ProgressRight row)) = some false := by
    decide
  obtain ⟨row, hrow, hnot⟩ := Option.map_eq_some_iff.mp hwrong
  exact of_decide_eq_false hnot (hright row hrow)

end Mapapi
