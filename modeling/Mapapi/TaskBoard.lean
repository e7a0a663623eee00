import Mapapi.Consumers
import Mapapi.Lib.Delivery

/-!
# The board of an incident

`IncidentTaskListCreateView.get` serves the tasks of an incident, and its socket is
pushed what becomes of them later. The list and the pushes together are a replica of
the board: one card for each task (`Db.cards`), changed by the payloads that the
socket has sent since.

The board is right as long as no write is silent (`Silent`): `QuerySet.update` and the
`SET_NULL` of a deletion run no receiver. It takes a list that was read after the
socket was connected; one that was read before misses what happened in between.

The messages of a discussion are pushed one by one, and none of them ever changes, so
that its socket is told of all but deletions.
-/

namespace Mapapi

open Lib Broker

/-! ## Cards -/

/-- What a client shows of a task. Saving other columns pushes a payload that
changes nothing. -/
def IncidentTask.card (task : IncidentTask) : TaskPayload :=
  { id := task.id, incident := task.incident, title := task.title, state := task.state
    assignedTo := task.assignedTo }

def Db.cards (i : IncidentId) (db : Db) (id : TaskId) : Option TaskPayload :=
  ((db.tasks.get? id).filter fun task => decide (task.incident = i)).map IncidentTask.card

def cardsOf (tasks : List IncidentTask) (id : TaskId) : Option TaskPayload :=
  (tasks.find? fun task => decide (task.id = id)).map IncidentTask.card

/-- How a client applies a payload: it overwrites the card under that id, or
removes it. -/
def Payload.changes : Payload → List (Change TaskId TaskPayload)
  | taskCreated task | taskUpdated task => [⟨task.id, some task⟩]
  | taskDeleted id _ => [⟨id, none⟩]
  | discussionMessage .. => []

/-- The socket of an incident as a feed of the library: the cards by id, and
payloads that overwrite one of them. -/
def taskFeed (i : IncidentId) :
    channelLayer.Feed (TaskId → Option TaskPayload) (Change TaskId TaskPayload) :=
  Feed.keyed (.tasks i) (Db.cards i) Payload.changes

/-- A write to the board of the incident that no receiver is told of: one that runs no
receiver, or that moves a task to another incident. -/
def Silent (i : IncidentId) (s : Live) : LiveEvent → Prop
  | .write (.other write) => (write s.store).cards i ≠ s.store.cards i
  | .write (.saveTask task) => task.incident ≠ i ∧
      (s.store.incidents.get? task.incident).isSome = true ∧ s.store.cards i task.id ≠ none
  | _ => False

section Cards

variable {db : Db} {i : IncidentId} {id : TaskId} {task : IncidentTask}

theorem cards_eq_some {card : TaskPayload} :
    db.cards i id = some card ↔
      ∃ task, db.tasks.get? id = some task ∧ task.incident = i ∧ task.card = card := by
  unfold Db.cards
  simp only [Option.map_eq_some_iff, Option.filter_eq_some_iff, decide_eq_true_eq, and_assoc]

theorem cards_congr {db' : Db} (h : db'.tasks = db.tasks) : db'.cards i = db.cards i := by
  unfold Db.cards
  rw [h]

/-- The list of the view shows the board. -/
theorem cardsOf_tasksOf (db : Db) (i : IncidentId) : cardsOf (db.tasksOf i) = db.cards i := by
  funext id
  have hmem (task : IncidentTask) :
      task ∈ db.tasksOf i ↔ db.tasks.get? task.id = some task ∧ task.incident = i := by
    unfold Db.tasksOf
    rw [mem_ascending, Table.mem_select, decide_eq_true_eq]
    exact Iff.rfl
  ext card
  rw [cards_eq_some]
  unfold cardsOf
  rw [Option.map_eq_some_iff]
  constructor
  · rintro ⟨task, hfind, rfl⟩
    obtain ⟨hget, hincident⟩ := (hmem task).mp (List.mem_of_find?_eq_some hfind)
    have hid := List.find?_some hfind
    rw [decide_eq_true_eq] at hid
    exact ⟨task, hid ▸ hget, hincident, rfl⟩
  · rintro ⟨task, hget, hincident, rfl⟩
    have hid : task.id = id := Table.key_of_get? hget
    subst hid
    refine ⟨task, ?_, rfl⟩
    cases hfind : (db.tasksOf i).find? fun row => decide (row.id = task.id) with
    | none =>
        have hnone := List.find?_eq_none.mp hfind task ((hmem task).mpr ⟨hget, hincident⟩)
        exact absurd (decide_eq_true rfl) hnone
    | some row =>
        have hrow := List.find?_some hfind
        rw [decide_eq_true_eq] at hrow
        have hget' := ((hmem row).mp (List.mem_of_find?_eq_some hfind)).1
        rw [hrow, hget] at hget'
        exact hget'.symm

theorem cardsOf_listTasks {auth : Option UserId} {tasks : List IncidentTask}
    (h : listTasks auth i db = .ok tasks) : cardsOf tasks = db.cards i := by
  unfold listTasks at h
  split at h
  · cases h
  · split at h
    · cases h
      exact cardsOf_tasksOf db i
    · cases h

/-- Saving a task sets its card, on the board of its incident. -/
theorem cards_put (hincident : task.incident = i) :
    (db.withTasks (db.tasks.put task)).cards i =
      Function.update (db.cards i) task.id (some task.card) := by
  funext id
  unfold Db.cards Db.withTasks
  rw [Table.get?_put, Function.update_apply]
  by_cases hid : id = task.id
  · rw [if_pos hid, if_pos (show id = key task from hid)]
    simp [hincident]
  · rw [if_neg hid, if_neg (show ¬ id = key task from hid)]

theorem cards_put_of_ne (hincident : task.incident ≠ i) :
    (db.withTasks (db.tasks.put task)).cards i =
      Function.update (db.cards i) task.id none := by
  funext id
  unfold Db.cards Db.withTasks
  rw [Table.get?_put, Function.update_apply]
  by_cases hid : id = task.id
  · rw [if_pos hid, if_pos (show id = key task from hid)]
    simp [hincident]
  · rw [if_neg hid, if_neg (show ¬ id = key task from hid)]

theorem cards_deleteTask :
    (db.deleteTask id).cards i = Function.update (db.cards i) id none := by
  funext id'
  unfold Db.cards Db.deleteTask
  rw [Table.get?_erase, Function.update_apply]
  by_cases hid : id' = id
  · rw [if_pos hid, if_pos hid]
    rfl
  · rw [if_neg hid, if_neg hid]

end Cards

/-! ## Which writes are told of -/

section Told

variable {s : Live} {i : IncidentId} {event : LiveEvent}

theorem changes_write {w : Write} :
    (taskFeed i).changes s (.write w) =
      ((w.pushes s.store).filter fun p => decide (p.group = .tasks i)).flatMap Payload.changes :=
  rfl

theorem changes_wsPushTask (task : IncidentTask) (created : Bool) :
    (wsPushTask task created).changes = [⟨task.id, some task.card⟩] := by
  cases created <;> rfl

theorem published_saveTask {task : IncidentTask} :
    (taskFeed i).Published s (.write (.saveTask task)) ↔
      ¬ Silent i s (.write (.saveTask task)) := by
  change (Write.apply (.saveTask task) s.store).cards i =
    replay (s.store.cards i) ((taskFeed i).changes s (.write (.saveTask task))) ↔ _
  rw [changes_write, Silent]
  cases hinc : (s.store.incidents.get? task.incident).isSome with
  | false =>
      have hkept : s.store.saveTask task = (false, s.store) := if_neg (by simp [hinc])
      rw [Write.apply, Write.pushes, hkept]
      simp
  | true =>
      rw [Write.apply, Write.pushes, saveTask_of_isSome hinc]
      by_cases hincident : task.incident = i
      · subst hincident
        dsimp only
        rw [if_pos rfl, cards_put rfl]
        simp [group_wsPushTask, changes_wsPushTask, Change.apply]
      · have hsame : Function.update (s.store.cards i) task.id none = s.store.cards i ↔
            s.store.cards i task.id = none := Function.update_eq_self_iff.trans eq_comm
        dsimp only
        rw [if_pos rfl, cards_put_of_ne hincident]
        simp [group_wsPushTask, hincident, -Function.update_eq_self_iff, hsame]

theorem published_deleteTask (id : TaskId) :
    (taskFeed i).Published s (.write (.deleteTask id)) := by
  change (s.store.deleteTask id).cards i =
    replay (s.store.cards i) ((taskFeed i).changes s (.write (.deleteTask id)))
  rw [cards_deleteTask, changes_write, Write.pushes]
  cases hget : s.store.tasks.get? id with
  | none =>
      have hnone : s.store.cards i id = none := by simp [Db.cards, hget]
      rw [Function.update_eq_self_iff.mpr hnone.symm]
      rfl
  | some task =>
      have hid : task.id = id := Table.key_of_get? hget
      by_cases hincident : task.incident = i
      · simp [wsPushTaskDeleted, Payload.group, hincident, Payload.changes, Change.apply, hid]
      · have hnone : s.store.cards i id = none := by simp [Db.cards, hget, hincident]
        rw [Function.update_eq_self_iff.mpr hnone.symm]
        simp [wsPushTaskDeleted, Payload.group, hincident]

/-- A write to the board is told of unless it is silent. -/
theorem published_iff_not_silent : (taskFeed i).Published s event ↔ ¬ Silent i s event := by
  cases event with
  | join channel auth group =>
      refine iff_of_true ?_ id
      change ((s.join channel auth group).store).cards i = s.store.cards i
      rw [store_join]
  | leave channel => exact iff_of_true rfl id
  | take channel => exact iff_of_true rfl id
  | write w =>
      cases w with
      | saveMessage message => exact iff_of_true (cards_congr rfl) id
      | saveTask task => exact published_saveTask
      | deleteTask id => exact iff_of_true (published_deleteTask id) fun h => h
      | other write =>
          change (write s.store).cards i = s.store.cards i ↔ ¬ (write s.store).cards i ≠ _
          exact not_not.symm

end Told

/-! ## Boards -/

section Boards

variable {s : Live} {channel : ChannelId} {auth viewer : Option UserId} {u : UserId}
  {i : IncidentId} {since events : List LiveEvent} {tasks : List IncidentTask}

def Live.run (s : Live) (events : List LiveEvent) : Live := exec State.step s events

def Live.connected (s : Live) (channel : ChannelId) (auth : Option UserId) (i : IncidentId)
    (since : List LiveEvent) : Live :=
  Live.run (s.join channel auth (.tasks i)) since

/-- The board of the incident is what the client shows and what waits for it: the client
shows the tasks that it was served at `served`, and what its socket has sent since then. -/
def Live.Shows (served : Live) (channel : ChannelId) (i : IncidentId)
    (tasks : List IncidentTask) (events : List LiveEvent) : Prop :=
  (taskFeed i).UpToDate channel ((taskFeed i).follow channel (cardsOf tasks) served events)
    (served.run events)

/-- A board that is filled from the list after the socket has been connected,
and changed by what the socket sends, is the board of the incident but for
what waits: at every later moment, exactly as long as no write is silent.
Pushes that the list has already taken into account do no harm when they are
applied again. -/
theorem board_shows_iff (hnew : s.subscriber? channel = none)
    (huser : scopeUser auth s.store = some u)
    (hstays : ∀ event ∈ since ++ events, event ≠ .leave channel)
    (htold : ∀ pre event post, since = pre ++ event :: post →
      ¬ Silent i (s.connected channel auth i pre) event)
    (hlist : listTasks viewer i (s.connected channel auth i since).store = .ok tasks) :
    (∀ pre post, events = pre ++ post →
        (s.connected channel auth i since).Shows channel i tasks pre) ↔
      ∀ pre event post, events = pre ++ event :: post →
        ¬ Silent i ((s.connected channel auth i since).run pre) event := by
  have hsocket : (s.join channel auth (.tasks i)).subscriber? channel =
      some (.fresh channel u (.tasks i)) := subscriber?_join_self hnew huser
  have htold' : Along State.step (taskFeed i).Published (s.join channel auth (.tasks i))
      since :=
    along_iff.mpr fun pre event post h =>
      published_iff_not_silent.mpr (htold pre event post h)
  have hstart : (taskFeed i).UpToDate channel (cardsOf tasks)
      (s.connected channel auth i since) := by
    rw [cardsOf_listTasks hlist]
    exact upToDate_view hsocket rfl rfl
      (fun event hmem => hstays event (List.mem_append_left _ hmem)) htold'
  have hboard := upToDate_iff hstart fun event hmem =>
    hstays event (List.mem_append_right _ hmem)
  simp only [along_iff, published_iff_not_silent] at hboard
  exact hboard

/-- The admin of the organisation in charge looks at the board while the task is deleted. -/
theorem board_shows_deletion :
    Live.Shows ((Live.start reportedStore).connected 3 (some 2) 1 []) 3 1
      (reportedStore.tasksOf 1) [.write (.deleteTask 1), .take 3] := by
  let events : List LiveEvent := [.write (.deleteTask 1), .take 3]
  have hstays : ∀ event ∈ [] ++ events, event ≠ .leave 3 := by simp [events]
  have hloud : ∀ pre event post, events = pre ++ event :: post →
      ¬ Silent 1 (((Live.start reportedStore).connected 3 (some 2) 1 []).run pre) event := by
    intro pre event post h
    have hmem : event ∈ events := h ▸ List.mem_append_right _ List.mem_cons_self
    simp only [events, List.mem_cons, List.not_mem_nil, or_false] at hmem
    rcases hmem with rfl | rfl <;> exact id
  exact (@board_shows_iff (Live.start reportedStore) 3 (some 2) (some 2) 2 1 [] events _ rfl rfl
    hstays (by simp) rfl).mpr hloud events [] rfl

/-- A board that was filled before the socket was connected is right at the end, exactly if
the cards that no later write is about were right when the socket came. -/
theorem board_early_shows_iff (hnew : s.subscriber? channel = none)
    (huser : scopeUser auth s.store = some u)
    (hstays : ∀ event ∈ events, event ≠ .leave channel)
    (htold : ∀ pre event post, events = pre ++ event :: post →
      ¬ Silent i (s.connected channel auth i pre) event) :
    Live.Shows (s.connected channel auth i []) channel i tasks events ↔
      ∀ id, Untouched id (collected State.step (taskFeed i).changes
          (s.connected channel auth i []) events) →
        cardsOf tasks id = s.store.cards i id := by
  have hsocket : (s.join channel auth (.tasks i)).subscriber? channel =
      some (.fresh channel u (.tasks i)) := subscriber?_join_self hnew huser
  have htold' : Along State.step (taskFeed i).Published (s.join channel auth (.tasks i))
      events :=
    along_iff.mpr fun pre event post h =>
      published_iff_not_silent.mpr (htold pre event post h)
  refine (upToDate_early_iff hsocket rfl rfl hstays htold').trans ?_
  rw [store_join]
  exact Iff.rfl

/-- The board that the admin had read before the task was renamed, and before its socket was
connected, shows the old title for good. -/
theorem board_misses_rename :
    let renamed := reportedStore.withTasks (reportedStore.tasks.put
      { IncidentTask.blank 1 2 with id := 1, title := "Réparer" })
    ¬ Live.Shows ((Live.start renamed).connected 3 (some 2) 1 []) 3 1
      (reportedStore.tasksOf 1) [.take 3] := by
  intro renamed h
  have hright := (@board_early_shows_iff (Live.start renamed) 3 (some 2) 2 1 [.take 3]
    (reportedStore.tasksOf 1) rfl rfl (by simp) (fun pre event post hevents => ?_)).mp h 1
      (fun c hc => absurd hc List.not_mem_nil)
  · exact absurd hright (by decide)
  · have hmem : event ∈ ([.take 3] : List LiveEvent) :=
      hevents ▸ List.mem_append_right _ List.mem_cons_self
    rw [List.mem_singleton.mp hmem]
    exact id

end Boards

/-! ## The requests to the task endpoints -/

section Requests

variable {s : Live} {i : IncidentId} {request : TaskRequest} {out : Response × Db}

/-- A request that changes a task stores a row of the incident, or deletes
one. Either is a write with one push, to the board of the incident, and the
second write, of the progress, is about no card. -/
theorem TaskRequest.Stores.told {db db' : Db} (h : request.Stores db i db') :
    ∃ w, (∃ payload, Write.pushes w db = [payload] ∧ payload.group = .tasks i) ∧
      db' = (w.apply db).recompute i ∧
      ∀ {s : Live} {j : IncidentId}, s.store = db → ¬ Silent j s (.write w) := by
  obtain ⟨hinc, tasks, hstored, rfl⟩ := h
  have hsaved : ∀ task : IncidentTask, task.incident = i →
      (∀ old, db.tasks.get? task.id = some old → old.incident = i) →
      ∃ w, (∃ payload, Write.pushes w db = [payload] ∧ payload.group = .tasks i) ∧
        (db.withTasks (db.tasks.put task)).recompute i = (w.apply db).recompute i ∧
        ∀ {s : Live} {j : IncidentId}, s.store = db → ¬ Silent j s (.write w) := by
    rintro task rfl hold
    refine ⟨.saveTask task, ⟨wsPushTask task (db.tasks.get? task.id).isNone, ?_, ?_⟩, ?_, ?_⟩
    · rw [Write.pushes, saveTask_of_isSome hinc, if_pos rfl]
    · exact group_wsPushTask
    · rw [Write.apply, saveTask_of_isSome hinc]
    · rintro s j rfl ⟨hne, -, hcard⟩
      obtain ⟨card, hcard⟩ := Option.ne_none_iff_exists'.mp hcard
      obtain ⟨old, hget, hincident, -⟩ := cards_eq_some.mp hcard
      exact hne ((hold old hget).symm.trans hincident)
  have hchanged : ∀ {pk : TaskId} {task : IncidentTask}, db.task? i pk = some task →
      ∀ {row : IncidentTask}, row.id = task.id →
        ∀ old, db.tasks.get? row.id = some old → old.incident = i := by
    intro pk task htask row hid old hget
    obtain ⟨hrow, hincident⟩ := task?_eq_some.mp htask
    rw [hid, id_of_task? htask, hrow] at hget
    exact Option.some.inj hget ▸ hincident
  cases hstored with
  | create hinc hopen hincident hid =>
      refine hsaved _ hincident fun old hget => ?_
      cases hid.symm.trans hget
  | update hinc hopen htask => exact hsaved _ (task?_eq_some.mp htask).2 (hchanged htask rfl)
  | confirm htask => exact hsaved _ (task?_eq_some.mp htask).2 (hchanged htask rfl)
  | complete htask => exact hsaved _ (task?_eq_some.mp htask).2 (hchanged htask rfl)
  | fail htask => exact hsaved _ (task?_eq_some.mp htask).2 (hchanged htask rfl)
  | relaunch hauth hleads htask hfailed =>
      exact hsaved _ (task?_eq_some.mp htask).2 (hchanged htask rfl)
  | @delete auth pk task htask =>
      obtain ⟨hrow, rfl⟩ := task?_eq_some.mp htask
      refine ⟨.deleteTask pk, ⟨wsPushTaskDeleted task, ?_, rfl⟩, rfl, fun _ => id⟩
      rw [Write.pushes, hrow]
      rfl

/-- A request to a task endpoint is refused and changes nothing, or it is two
writes: one that pushes one payload to the board of its incident, and the
progress. Boards that were right, of this incident and of any other, stay
right. A task of an incident that is gone is not among them: such a request is
refused. -/
theorem board_taskRequest (h : request.view.run s.store = out) :
    Refused s.store out ∨
      ∃ w, (∃ payload, Write.pushes w s.store = [payload] ∧
          payload.group = .tasks request.incident) ∧
        (s.run [.write w, .write (.other (Db.recompute request.incident))]).store = out.2 ∧
        ∀ {j channel copy}, (taskFeed j).UpToDate channel copy s →
          (taskFeed j).UpToDate channel copy
            (s.run [.write w, .write (.other (Db.recompute request.incident))]) := by
  rcases TaskRequest.run request h with hrefused | hstores
  · exact Or.inl hrefused
  obtain ⟨w, hpushes, hout, hsilent⟩ := hstores.told
  refine Or.inr ⟨w, hpushes, hout.symm, fun {j channel copy} hstart => ?_⟩
  have hsaved := (upToDate_write_iff hstart).mpr (published_iff_not_silent.mpr (hsilent rfl))
  refine (upToDate_write_iff hsaved).mpr (published_iff_not_silent.mpr (not_not.mpr ?_))
  exact cards_congr (tasks_recompute _ _)

theorem board_taskRequest_fails :
    Refused reportedStore ((failTask (some 2) 1 1 (.text ⟨"Panne", by decide⟩)).run reportedStore) ∨
      ∃ w, (∃ payload, Write.pushes w reportedStore = [payload] ∧ payload.group = .tasks 1) ∧
        ((Live.start reportedStore).run
            [.write w, .write (.other (Db.recompute 1))]).store =
          ((failTask (some 2) 1 1 (.text ⟨"Panne", by decide⟩)).run reportedStore).2 ∧
        ∀ {j channel copy}, (taskFeed j).UpToDate channel copy (Live.start reportedStore) →
          (taskFeed j).UpToDate channel copy
            ((Live.start reportedStore).run [.write w, .write (.other (Db.recompute 1))]) :=
  @board_taskRequest (Live.start reportedStore)
    (.fail (some 2) 1 1 (.text ⟨"Panne", by decide⟩)) _ rfl

end Requests

/-! ## The removal of a user -/

section Removal

/-- The task goes with the user, who has created it or has reported its incident. -/
def Db.goesWith (u : UserId) (db : Db) (task : IncidentTask) : Bool :=
  decide (task.createdBy = u) ||
    (db.incidents.get? task.incident).any fun row => decide (row.userId = some u)

/-- `user.delete()`, with the deletions of tasks that a receiver is told of. What the
deletion updates (`SET_NULL`) runs no receiver. -/
def Db.removalWrites (u : UserId) (db : Db) : List Write :=
  (db.tasks.select (db.goesWith u)).map (fun task => .deleteTask task.id) ++
    [.other (Db.deleteUser u)]

def Live.removal (s : Live) (u : UserId) : List LiveEvent := (s.store.removalWrites u).map .write

variable {db : Db} {s : Live} {u : UserId} {i : IncidentId} {id : TaskId}

/-- Deleting incidents takes their tasks along, and nothing about the tasks matters to it. -/
theorem foldl_deleteIncident_withTasks (incidents : List Incident) (tasks : Table IncidentTask) :
    incidents.foldl (fun db incident => db.deleteIncident incident.id) (db.withTasks tasks) =
      (incidents.foldl (fun db incident => db.deleteIncident incident.id) db).withTasks
        (tasks.eraseWhere fun task => decide (task.incident ∈ incidents.map Incident.id)) := by
  induction incidents generalizing db tasks with
  | nil =>
      have hkept : tasks.eraseWhere (fun task : IncidentTask =>
          decide (task.incident ∈ ([] : List Incident).map Incident.id)) = tasks := by
        cases tasks
        simp [Table.eraseWhere]
      rw [hkept]
      rfl
  | cons incident incidents ih =>
      have hfirst : (db.withTasks tasks).deleteIncident incident.id =
          (db.deleteIncident incident.id).withTasks
            (tasks.eraseWhere fun task => decide (task.incident = incident.id)) := rfl
      rw [List.foldl_cons, hfirst, ih, List.foldl_cons]
      congr 1
      refine (Table.mk.injEq ..).mpr ?_
      simp only [Table.eraseWhere, List.filter_filter]
      refine List.filter_congr fun task _ => ?_
      by_cases h : task.incident = incident.id <;> simp [h]

theorem mem_reports {task : IncidentTask} :
    task.incident ∈ (db.incidents.select fun row => decide (row.userId = some u)).map Incident.id ↔
      (db.incidents.get? task.incident).any (fun row => decide (row.userId = some u)) = true := by
  rw [List.mem_map, Option.any_eq_true]
  constructor
  · rintro ⟨row, hrow, hid⟩
    obtain ⟨hget, hreported⟩ := Table.mem_select.mp hrow
    exact ⟨row, hid ▸ hget, hreported⟩
  · rintro ⟨row, hget, hreported⟩
    have hid : row.id = task.incident := Table.key_of_get? hget
    exact ⟨row, Table.mem_select.mpr ⟨by rw [← hid] at hget; exact hget, hreported⟩, hid⟩

/-- The tasks that the removal leaves: the others, without the user as the one they are
assigned to. -/
theorem tasks_deleteUser_withTasks (tasks : Table IncidentTask) :
    (db.withTasks tasks).deleteUser u = (db.deleteUser u).withTasks
      ((tasks.eraseWhere (db.goesWith u)).mapRows (IncidentTask.detach u)
        (IncidentTask.key_detach u)) := by
  have hreports : (db.withTasks tasks).deleteReports u = (db.deleteReports u).withTasks
      (tasks.eraseWhere fun task => decide (task.incident ∈
        (db.incidents.select fun row => decide (row.userId = some u)).map Incident.id)) :=
    foldl_deleteIncident_withTasks _ _
  have hrows : (tasks.eraseWhere fun task => decide (task.incident ∈
      (db.incidents.select fun row => decide (row.userId = some u)).map Incident.id)).eraseWhere
        (fun task => decide (task.createdBy = u)) = tasks.eraseWhere (db.goesWith u) := by
    refine (Table.mk.injEq ..).mpr ?_
    simp only [Table.eraseWhere, List.filter_filter]
    refine List.filter_congr fun task _ => ?_
    rw [Db.goesWith, ← Bool.not_or]
    congr 2
    exact Bool.eq_iff_iff.mpr (decide_eq_true_iff.trans mem_reports)
  unfold Db.deleteUser
  rw [hreports, ← hrows]
  rfl

theorem foldl_deleteTask (tasks : List IncidentTask) :
    (tasks.map fun task => Write.deleteTask task.id).foldl (fun db w => w.apply db) db =
      db.withTasks
        (db.tasks.eraseWhere fun row => decide (row.id ∈ tasks.map IncidentTask.id)) := by
  induction tasks generalizing db with
  | nil =>
      have hkept : db.tasks.eraseWhere (fun row : IncidentTask =>
          decide (row.id ∈ ([] : List IncidentTask).map IncidentTask.id)) = db.tasks := by
        simp [Table.eraseWhere]
      rw [List.map_nil, hkept]
      rfl
  | cons task tasks ih =>
      rw [List.map_cons, List.foldl_cons, ih]
      unfold Write.apply Db.deleteTask Db.withTasks
      congr 1
      refine (Table.mk.injEq ..).mpr ?_
      simp only [Table.erase, Table.eraseWhere, List.filter_filter]
      refine List.filter_congr fun row _ => ?_
      by_cases h : row.id = task.id <;> simp [h, key]

theorem foldl_deleteTask_goesWith :
    ((db.tasks.select (db.goesWith u)).map fun task => Write.deleteTask task.id).foldl
        (fun db w => w.apply db) db =
      db.withTasks (db.tasks.eraseWhere (db.goesWith u)) := by
  rw [foldl_deleteTask]
  congr 1
  refine (Table.mk.injEq ..).mpr ?_
  refine List.filter_congr fun row hrow => ?_
  congr 1
  refine Bool.eq_iff_iff.mpr (decide_eq_true_iff.trans ?_)
  rw [List.mem_map]
  constructor
  · rintro ⟨task, htask, hid⟩
    obtain ⟨hget, hgoes⟩ := Table.mem_select.mp htask
    have hsame : db.tasks.get? (key task) = some row := by
      rw [show key task = key row from hid]
      exact Table.get?_of_mem hrow
    rwa [← Option.some.inj (hget.symm.trans hsame)]
  · intro hgoes
    exact ⟨row, Table.mem_select.mpr ⟨Table.get?_of_mem hrow, hgoes⟩, rfl⟩

/-- The writes of the removal do what `user.delete()` does. The deletions of
tasks come first, since a receiver is told of each; what remains of the
cascade is one write without one. -/
theorem foldl_removalWrites (u : UserId) (db : Db) :
    (db.removalWrites u).foldl (fun db w => w.apply db) db = db.deleteUser u := by
  unfold Db.removalWrites
  rw [List.foldl_append, foldl_deleteTask_goesWith]
  change (db.withTasks (db.tasks.eraseWhere (db.goesWith u))).deleteUser u = db.deleteUser u
  have hself : (db.withTasks db.tasks).deleteUser u = db.deleteUser u := rfl
  rw [← hself, tasks_deleteUser_withTasks, tasks_deleteUser_withTasks]
  congr 2
  refine (Table.mk.injEq ..).mpr ?_
  simp [Table.eraseWhere, List.filter_filter]

/-- The card of a task that stays changes when it was assigned to the user. -/
theorem card_detach {task : IncidentTask} :
    (task.detach u).card = task.card ↔ task.assignedTo ≠ some u := by
  unfold IncidentTask.card IncidentTask.detach
  rw [TaskPayload.mk.injEq]
  cases hassigned : task.assignedTo with
  | none => simp
  | some v => by_cases hv : v = u <;> simp [hv]

/-- The last write of the removal is silent if a task that stays was assigned to the user. -/
theorem cards_deleteUser_iff (hgone : ∀ task ∈ db.tasks.rows, db.goesWith u task = false) :
    (db.deleteUser u).cards i = db.cards i ↔
      ∀ task ∈ db.tasks.rows, task.incident = i → task.assignedTo ≠ some u := by
  have hrows : db.tasks.eraseWhere (db.goesWith u) = db.tasks := by
    refine (Table.mk.injEq ..).mpr (List.filter_eq_self.mpr fun task htask => ?_)
    rw [hgone task htask]
    rfl
  have hself : (db.withTasks db.tasks).deleteUser u = db.deleteUser u := rfl
  have hget (id : TaskId) : (db.deleteUser u).tasks.get? id =
      (db.tasks.get? id).map (IncidentTask.detach u) := by
    rw [← hself, tasks_deleteUser_withTasks, hrows]
    exact Table.get?_mapRows _ _ (IncidentTask.key_detach u) id
  constructor
  · intro h task htask hincident
    have hcard := congrFun h task.id
    unfold Db.cards at hcard
    rw [hget, show db.tasks.get? task.id = some task from Table.get?_of_mem htask] at hcard
    have hincident' : (task.detach u).incident = i := hincident
    simp only [Option.map_some, Option.filter_some, hincident, hincident', decide_true,
      if_true, Option.some.injEq] at hcard
    exact card_detach.mp hcard
  · intro h
    funext id
    unfold Db.cards
    rw [hget]
    cases hrow : db.tasks.get? id with
    | none => rfl
    | some task =>
        by_cases hincident : task.incident = i
        · have hincident' : (task.detach u).incident = i := hincident
          have hcard := card_detach.mpr (h task (Table.mem_of_get? hrow) hincident)
          simp only [Option.map_some, Option.filter_some, hincident, hincident', decide_true,
            if_true, hcard]
        · have hincident' : (task.detach u).incident ≠ i := hincident
          simp only [Option.map_some, Option.filter_some, hincident, hincident', decide_false,
            Bool.false_eq_true, if_false]

/-- The writes of a removal leave what `user.delete()` leaves; a board that was right stays
right, exactly if no task of the incident that stays was assigned to the user. -/
theorem board_removal_iff {channel : ChannelId} {copy : TaskId → Option TaskPayload}
    (hstart : (taskFeed i).UpToDate channel copy s) :
    (s.run (s.removal u)).store = s.store.deleteUser u ∧
      ((taskFeed i).UpToDate channel copy (s.run (s.removal u)) ↔
        ∀ task ∈ s.store.tasks.rows, task.incident = i → s.store.goesWith u task = false →
          task.assignedTo ≠ some u) := by
  refine ⟨(store_exec_writes _).trans (foldl_removalWrites u s.store), ?_⟩
  let deletions := (s.store.tasks.select (s.store.goesWith u)).map fun task =>
    Write.deleteTask task.id
  let before : Live := s.run (deletions.map .write)
  have hstore : before.store =
      s.store.withTasks (s.store.tasks.eraseWhere (s.store.goesWith u)) :=
    (store_exec_writes _).trans foldl_deleteTask_goesWith
  have hsplit : s.run (s.removal u) = before.write (.other (Db.deleteUser u)) := by
    unfold Live.removal Db.removalWrites
    rw [List.map_append]
    exact exec_snoc _ s _ _
  -- the deletions are told of, one by one
  have hbefore : (taskFeed i).UpToDate channel copy before := by
    refine upToDate_writes hstart (along_of_forall fun s' event hmem => ?_)
    obtain ⟨w, hw, rfl⟩ := List.mem_map.mp hmem
    obtain ⟨task, -, rfl⟩ := List.mem_map.mp hw
    exact published_deleteTask task.id
  rw [hsplit, upToDate_write_iff hbefore]
  change (before.store.deleteUser u).cards i = before.store.cards i ↔ _
  have hgoes : before.store.goesWith u = s.store.goesWith u := by
    rw [hstore]
    rfl
  have hgone : ∀ task ∈ before.store.tasks.rows, before.store.goesWith u task = false := by
    rw [hgoes, hstore]
    intro task htask
    simpa using (List.mem_filter.mp htask).2
  rw [cards_deleteUser_iff hgone, hstore]
  constructor
  · intro h task htask hincident hstays
    refine h task (List.mem_filter.mpr ⟨htask, ?_⟩) hincident
    rw [hstays]
    rfl
  · intro h task htask hincident
    obtain ⟨hrow, hstays⟩ := List.mem_filter.mp htask
    exact h task hrow hincident (by simpa using hstays)

/-- The task of the incident goes with the admin who has planned it. -/
theorem board_removal_planner :
    let s : Live := (Live.start reportedStore).join 3 (some 2) (.tasks 1)
    (s.run (s.removal 2)).store = s.store.deleteUser 2 ∧
      ((taskFeed 1).UpToDate 3 (s.store.cards 1) (s.run (s.removal 2)) ↔
        ∀ task ∈ s.store.tasks.rows, task.incident = 1 → s.store.goesWith 2 task = false →
          task.assignedTo ≠ some 2) :=
  board_removal_iff ⟨.fresh 3 2 (.tasks 1), rfl, rfl, rfl⟩

end Removal

/-! ## The discussion -/

section Discussion

def Db.discussionOf (i : IncidentId) (db : Db) : List Payload :=
  (db.discussionMessages.filter fun message => decide (message.incident = i)).map
    wsPushDiscussion

def discussionFeed (i : IncidentId) : channelLayer.Feed (List Payload) Payload :=
  Feed.journal (.discussion i) (Db.discussionOf i) fun payload => [payload]

variable {s : Live} {channel : ChannelId} {auth : Option UserId} {u : UserId} {i : IncidentId}
  {event : LiveEvent} {events : List LiveEvent}

theorem posts_tasks {p : Payload} {j : IncidentId} (h : p.group = .tasks j) :
    decide (p.group = .discussion i) = false := by
  rw [h]
  rfl

/-- Saving a message posts it; nothing else does. -/
theorem discussion_published_iff :
    (discussionFeed i).Published s event ↔
      (s.step event).store.discussionOf i = s.store.discussionOf i ∨
        ∃ message, event = .write (.saveMessage message) := by
  refine journal_published_iff.trans ?_
  cases event with
  | join c credentials topic => simp [State.posts]
  | leave c => simp [State.posts]
  | take c => simp [State.posts]
  | write w =>
      cases w with
      | saveMessage message =>
          refine iff_of_true ?_ (Or.inr ⟨message, rfl⟩)
          change Db.discussionOf i (Write.apply (.saveMessage message) s.store) = _ ++
            (([wsPushDiscussion message] : List Payload).filter fun p =>
              decide (p.group = .discussion i)).flatMap fun p => [p]
          unfold Db.discussionOf Write.apply
          by_cases hincident : message.incident = i <;>
            simp [hincident, wsPushDiscussion, Payload.group]
      | saveTask task =>
          have hposts : s.posts (.discussion i) (.write (.saveTask task)) = [] := by
            change (Write.pushes (.saveTask task) s.store).filter _ = []
            rw [Write.pushes]
            split
            · exact List.filter_cons_of_neg (Bool.eq_false_iff.mp (posts_tasks group_wsPushTask))
            · rfl
          rw [hposts]
          simp
      | deleteTask id =>
          have hposts : s.posts (.discussion i) (.write (.deleteTask id)) = [] := by
            change (Write.pushes (.deleteTask id) s.store).filter _ = []
            rw [Write.pushes]
            cases s.store.tasks.get? id <;> rfl
          rw [hposts]
          simp
      | other write =>
          have hposts : s.posts (.discussion i) (.write (.other write)) = [] := rfl
          rw [hposts]
          simp

/-- What a socket of the discussion has sent and what waits for it are the messages that
have come since it was connected, each once and in their order, at every moment: exactly as
long as no message that was stored goes. -/
theorem discussion_delivered_iff (hnew : s.subscriber? channel = none)
    (huser : scopeUser auth s.store = some u)
    (hstays : ∀ event ∈ events, event ≠ .leave channel) :
    let connected : Live := s.join channel auth (.discussion i)
    (∀ pre post, events = pre ++ post →
        ∃ socket, (connected.run pre).subscriber? channel = some socket ∧
          s.store.discussionOf i ++ (collected State.step (State.gives channel) connected pre ++
            socket.queue) = (connected.run pre).store.discussionOf i) ↔
      ∀ pre event post, events = pre ++ event :: post →
        ((connected.run pre).step event).store.discussionOf i =
            (connected.run pre).store.discussionOf i ∨
          ∃ message, event = .write (.saveMessage message) := by
  intro connected
  have hsocket : connected.subscriber? channel = some (.fresh channel u (.discussion i)) :=
    subscriber?_join_self hnew huser
  have hstore : connected.store = s.store := store_join
  have hdelivered := @journal_delivered_iff _ _ _ _ _ _ _ channelLayer _ _ channel connected
    events _ _ (.discussion i) (Db.discussionOf i) (fun payload => [payload]) hsocket rfl rfl
    hstays
  simp only [List.flatMap_singleton', hstore] at hdelivered
  refine hdelivered.trans (along_iff.trans ?_)
  refine forall_congr' fun pre => forall_congr' fun event => forall_congr' fun post => ?_
  exact forall_congr' fun _ => discussion_published_iff

/-- The citizen who eavesdrops has been sent what the admin has written. -/
theorem discussion_delivered_eavesdropper :
    let connected : Live := (Live.start reportedStore).join 7 (some 5) (.discussion 1)
    let message : DiscussionMessage :=
      { incident := 1, collaboration := 1, sender := 2, message := some "On ferme la rue"
        recipient := none }
    let events : List LiveEvent := [.write (.saveMessage message), .take 7]
    ∃ socket, (connected.run events).subscriber? 7 = some socket ∧
      reportedStore.discussionOf 1 ++ (collected State.step (State.gives 7) connected events ++
        socket.queue) = (connected.run events).store.discussionOf 1 := by
  intro connected message events
  refine (@discussion_delivered_iff (Live.start reportedStore) 7 (some 5) 5 1 events rfl rfl
    (by simp [events])).mpr (fun pre event post h => ?_) events [] rfl
  have hmem : event ∈ events := h ▸ List.mem_append_right _ List.mem_cons_self
  simp only [events, List.mem_cons, List.not_mem_nil, or_false] at hmem
  rcases hmem with rfl | rfl
  · exact Or.inr ⟨message, rfl⟩
  · exact Or.inl rfl

end Discussion

end Mapapi
