import Mapapi.Lib.Broker
import Mapapi.Chat
import Mapapi.PermissionChain
import Mapapi.UserRemoval

/-!
# The WebSockets of an incident

The receivers of `signals.py` push every new message of a discussion, and every
task that is saved or deleted, to a group of the incident; a socket joins the
group when it connects. The same messages and tasks are served by
`DiscussionMessageView` and `IncidentTaskListCreateView`, to those who take part
in the incident (`Db.participates`).

The consumers only ask whether the user of a socket is signed in. So a socket
shows more than the two views when a payload finds the socket of somebody who
does not take part, or waits for somebody who does not take part any longer.

A payload that has been sent to a group waits in the channel of each socket
until its turn comes, and the socket does not ask again when it takes it. So
the law has two halves: what is pushed, and what changes while something
waits.
-/

namespace Mapapi

open Lib

/-! ## Groups and payloads -/

/-- A group of the channel layer. Its name carries the id of the incident, so
groups of different incidents never share a payload. -/
inductive Group where
  | discussion (i : IncidentId)
  | tasks (i : IncidentId)
  deriving DecidableEq

/-- What clients are sent about a task: the few columns that a card shows, and
not the whole row. -/
structure TaskPayload where
  id : TaskId
  incident : IncidentId
  title : String
  state : TaskState
  assignedTo : Option UserId
  deriving DecidableEq

/-- What is pushed. The three kinds about a task go to the group of tasks of
its incident, the message to the group of the discussion. -/
inductive Payload where
  | discussionMessage (incident : IncidentId) (collaboration : CollaborationId) (sender : UserId)
      (message : Option String)
  | taskCreated (task : TaskPayload)
  | taskUpdated (task : TaskPayload)
  | taskDeleted (id : TaskId) (incident : IncidentId)
  deriving DecidableEq

def Payload.group : Payload → Group
  | discussionMessage incident _ _ _ => .discussion incident
  | taskCreated task | taskUpdated task => .tasks task.incident
  | taskDeleted _ incident => .tasks incident

/-! ## The receivers -/

def wsPushDiscussion (message : DiscussionMessage) : Payload :=
  .discussionMessage message.incident message.collaboration message.sender message.message

/-- `ws_push_task`: the receiver of `post_save`, so it runs for every task
that is saved through the model, whichever column was saved, and not for an
`update` of the query set. -/
def wsPushTask (task : IncidentTask) (created : Bool) : Payload :=
  let payload : TaskPayload :=
    { id := task.id, incident := task.incident, title := task.title, state := task.state
      assignedTo := task.assignedTo }
  if created then .taskCreated payload else .taskUpdated payload

def wsPushTaskDeleted (task : IncidentTask) : Payload := .taskDeleted task.id task.incident

/-- A write to the store. Deletions that cascade delete the tasks first, one by one. -/
inductive Write where
  | saveMessage (message : DiscussionMessage)
  | saveTask (task : IncidentTask)
  | deleteTask (id : TaskId)
  /-- A write that no receiver of these pushes anything about. -/
  | other (write : Db → Db)

namespace Write

def apply : Write → Db → Db
  | saveMessage message, db =>
      { db with discussionMessages := db.discussionMessages ++ [message] }
  | saveTask task, db => (db.saveTask task).2
  | deleteTask id, db => db.deleteTask id
  | other write, db => write db

/-- What the receivers push. A task that could not be stored is not pushed,
and a task that goes with its incident is: `post_delete` is sent for each row
of a cascade. -/
def pushes : Write → Db → List Payload
  | saveMessage message, _ => [wsPushDiscussion message]
  | saveTask task, db =>
      if (db.saveTask task).1 then [wsPushTask task (db.tasks.get? task.id).isNone] else []
  | deleteTask id, db => (db.tasks.get? id).toList.map wsPushTaskDeleted
  | other _, _ => []

end Write

/-! ## The consumers -/

abbrev ChannelId := Nat

/-- `JWTCookieAuthMiddleware`: the user of the token, active or not. -/
def scopeUser (auth : Option UserId) (db : Db) : Option UserId := (db.user? auth).map User.id

/-- The channel layer between the receivers and the sockets. A subscription is
`_GroupConsumer.connect`, which asks for a user only, and its end `disconnect`; what a
subscriber takes is what `broadcast` sends to its client. -/
def channelLayer : Broker Db Write (Option UserId) UserId Group Payload where
  apply := Write.apply
  publishes := Write.pushes
  topic := Payload.group
  identify := scopeUser

/-- The database and the sockets at one moment: who has joined which group,
and what waits in each socket's queue. -/
abbrev Live := channelLayer.State ChannelId

abbrev LiveEvent := channelLayer.Event ChannelId

def Live.start (db : Db) : Live where
  store := db
  subscribers := []

def Live.after (db : Db) (events : List LiveEvent) : Live :=
  exec Broker.State.step (Live.start db) events

/-! ## The views -/

/-- `IncidentTask.objects.filter(incident_id=...)`, in the order of the view. -/
def Db.tasksOf (db : Db) (i : IncidentId) : List IncidentTask :=
  ascending (fun task => toLex (task.startDate, task.id))
    (db.tasks.select fun task => decide (task.incident = i))

def listTasks (auth : Option UserId) (i : IncidentId) (db : Db) :
    Except Response (List IncidentTask) :=
  match db.authenticated auth with
  | none => .error .unauthorized
  | some user =>
    if IsIncidentLeaderOrContributor.hasPermission db .get (some user) i then .ok (db.tasksOf i)
    else .error (.error 403 isIncidentLeaderOrContributorMessage)

/-- The view that serves what a group is about answers the user. -/
def Db.Serves (db : Db) (u : UserId) : Group → Prop
  | .discussion i => ((readDiscussion (some u) i).run db).1.status = 200
  | .tasks i => ∃ tasks, listTasks (some u) i db = .ok tasks

/-- The discussion of the incident is open to the user: on an internal incident to the
organisation in charge, otherwise to collaborators and to whoever has taken it. -/
def Db.discusses (db : Db) (user : User) (i : IncidentId) : Bool :=
  (db.incidents.get? i).any fun incident =>
    if incident.takeInChargeMode = some .internal then db.internalOrgMember incident user
    else db.acceptedCollaborationExists i user.id || decide (incident.takenBy = some user.id)

/-- Who takes part in an incident, for each kind of group: those whom the
discussion lets in, or those who have an accepted row. The sockets do not ask
for it. -/
def Db.participates (db : Db) (user : User) : Group → Bool
  | .discussion i => isSuperAdmin user || db.discusses user i
  | .tasks i => IsIncidentCollaborator.hasPermission db (some user) i

def Db.MayRead (db : Db) (u : UserId) (g : Group) : Prop :=
  ∃ user, db.authenticated (some u) = some user ∧ db.participates user g = true

/-- The store `db'` is `db` but for the collaborations and the log, and has the row `c`. -/
structure LetsIn (db db' : Db) (i : IncidentId) (u : UserId) (c : Collaboration) : Prop where
  users : db'.users = db.users
  messages : db'.discussionMessages = db.discussionMessages
  row : db'.collaboration? i u = some c

section Views

variable {db db' : Db} {u : UserId} {i : IncidentId} {user : User} {incident : Incident} {g : Group}

theorem letsIn_createLeader (htaken : (db.user? incident.takenBy).isSome = true)
    (hfree : db.collaboration? i user.id = none) :
    ∃ c, (db.createCollaborationAtomic incident
        (Db.newCollaboration i user.id .leader .accepted)).1 = some c ∧ c.status = .accepted ∧
      LetsIn db (db.createCollaborationAtomic incident
        (Db.newCollaboration i user.id .leader .accepted)).2 i user.id c := by
  obtain ⟨leader, hleader⟩ := Option.isSome_iff_exists.mp htaken
  let c := { Db.newCollaboration i user.id .leader .accepted with id := db.freshCollaborationId }
  have hinsert : db.insertCollaboration incident c =
      (false, { db with collaborations := db.collaborations.put c }.wsPushCollaborationCreated
        incident c) := by
    have huser : ({ db with collaborations :=
        db.collaborations.put c }.wsPushCollaborationCreated incident c).user? incident.takenBy =
        some leader := hleader
    unfold Db.insertCollaboration Db.notifyOrganisationOnCollaboration
    rw [huser]
    exact if_pos (Or.inr rfl)
  have hcreate : db.createCollaborationAtomic incident
      (Db.newCollaboration i user.id .leader .accepted) =
      (some c, { db with collaborations := db.collaborations.put c }.wsPushCollaborationCreated
        incident c) := by
    unfold Db.createCollaborationAtomic
    rw [show db.collaboration? (Db.newCollaboration i user.id .leader .accepted).incident
      (Db.newCollaboration i user.id .leader .accepted).user = none from hfree]
    dsimp only
    rw [hinsert]
    rfl
  rw [hcreate]
  exact ⟨c, rfl, rfl, rfl, rfl, (Table.get?_put ..).trans (if_pos rfl)⟩

/-- Whoever joins the discussion of an incident that has a `taken_by` is let
in with a seat. With nobody in charge the new row would be deleted by its
receiver, which is why the hypothesis is there. -/
theorem joinDiscussion_letsIn (htaken : (db.user? incident.takenBy).isSome = true) :
    ∃ c db', LetsIn db db' incident.id user.id c ∧
      ∀ view : Collaboration → View,
        (joinDiscussion incident user view).run db = (view c).run db' := by
  unfold joinDiscussion getOrCreateCollaboration getOrCreate
  cases hrow : db.collaboration? incident.id user.id with
  | some row =>
      obtain ⟨hincident, huser⟩ := Db.collaboration?_key hrow
      have hread : db.collaboration? (Db.newCollaboration incident.id user.id .leader
          .accepted).incident (Db.newCollaboration incident.id user.id .leader .accepted).user =
          some row := hrow
      by_cases haccepted : row.status = .accepted
      · refine ⟨row, db, ⟨rfl, rfl, hrow⟩, fun view => ?_⟩
        simp only [Prog.run_bind, Prog.run_read, hread, Prog.run_pure, haccepted, if_true]
      · refine ⟨{ row with status := .accepted }, db.saveCollaboration { row with
          status := .accepted }, ⟨?_, ?_, ?_⟩, fun view => ?_⟩
        · unfold Db.saveCollaboration
          dsimp only
          split <;> rfl
        · unfold Db.saveCollaboration
          dsimp only
          split <;> rfl
        · have hput : (db.collaborations.put { row with status := .accepted }).get?
              (incident.id, user.id) = some { row with status := .accepted } :=
            (Table.get?_put ..).trans (if_pos (by rw [← hincident, ← huser]; rfl))
          unfold Db.saveCollaboration Db.collaboration?
          dsimp only
          split <;> exact hput
        · simp only [Prog.run_bind, Prog.run_read, hread, Prog.run_pure, haccepted, if_false,
            Prog.run_modify]
  | none =>
      obtain ⟨c, hcreated, haccepted, hlets⟩ := letsIn_createLeader htaken hrow
      refine ⟨c, _, hlets, fun view => ?_⟩
      have hread : db.collaboration? (Db.newCollaboration incident.id user.id .leader
          .accepted).incident (Db.newCollaboration incident.id user.id .leader .accepted).user =
          none := hrow
      simp only [Prog.run_bind, Prog.run_read, hread, Prog.run_atomic, hcreated, Prog.run_pure,
        haccepted, if_true]

/-- Whoever may read goes on with an own row that is stored. -/
theorem getUserCollaboration_letsIn (huser : db.users.get? user.id = some user)
    (hinc : db.incidents.get? i = some incident) (hread : db.discusses user i = true) :
    ∃ c db', LetsIn db db' i user.id c ∧
      ∀ view : Incident → Collaboration → View,
        (getUserCollaboration i user view).run db = (view incident c).run db' := by
  have hid : incident.id = i := Table.key_of_get? hinc
  subst hid
  unfold Db.discusses at hread
  rw [hinc, Option.any_some] at hread
  by_cases hmode : incident.takeInChargeMode = some .internal
  · rw [if_pos hmode] at hread
    unfold Db.internalOrgMember at hread
    rw [decide_eq_true hmode, Bool.true_and, Option.any_eq_true] at hread
    obtain ⟨organisation, howner, hmember⟩ := hread
    obtain ⟨owner, hown, -⟩ := Option.bind_eq_some_iff.mp howner
    obtain ⟨c, db', hlets, hruns⟩ := @joinDiscussion_letsIn db user incident
      (Option.isSome_iff_exists.mpr ⟨owner, hown⟩)
    refine ⟨c, db', hlets, fun view => ?_⟩
    unfold getUserCollaboration
    rw [getIncident_passes hinc, if_pos hmode, Prog.run_bind, Prog.run_read, howner]
    refine (refuseIf_passes ?_).trans (hruns (view incident))
    rw [of_decide_eq_true hmember]
    exact decide_eq_false fun hne => hne rfl
  · rw [if_neg hmode] at hread
    cases hrow : (db.collaboration? incident.id user.id).filter fun c =>
        decide (c.status = .accepted) with
    | some c =>
        obtain ⟨hc, -⟩ := Option.filter_eq_some_iff.mp hrow
        refine ⟨c, db, ⟨rfl, rfl, hc⟩, fun view => ?_⟩
        unfold getUserCollaboration
        rw [getIncident_passes hinc, if_neg hmode, Prog.run_bind, Prog.run_read, hrow]
    | none =>
        have hnone : db.acceptedCollaborationExists incident.id user.id = false := by
          refine (Option.any_eq_false ..).mpr fun c hc => ?_
          simpa using Option.filter_eq_none_iff.mp hrow c hc
        rw [hnone, Bool.false_or, decide_eq_true_eq] at hread
        have hsome : (db.user? incident.takenBy).isSome := by
          rw [hread]
          exact Option.isSome_iff_exists.mpr ⟨user, huser⟩
        obtain ⟨c, db', hlets, hruns⟩ := @joinDiscussion_letsIn db user incident hsome
        refine ⟨c, db', hlets, fun view => ?_⟩
        unfold getUserCollaboration
        rw [getIncident_passes hinc, if_neg hmode, Prog.run_bind, Prog.run_read, hrow]
        dsimp only
        rw [if_pos hread]
        exact hruns (view incident)

/-- Somebody who has nothing to do with the incident is answered 404, the
status for an incident that does not exist, and not 403. -/
theorem getUserCollaboration_refuses (h : db.discusses user i = false)
    (view : Incident → Collaboration → View) :
    ((getUserCollaboration i user view).run db).1.status = 404 := by
  unfold Db.discusses at h
  unfold getUserCollaboration
  cases hinc : db.incidents.get? i with
  | none =>
      unfold getIncident
      rw [Prog.run_bind, Prog.run_read, hinc]
      rfl
  | some incident =>
      rw [hinc, Option.any_some] at h
      rw [getIncident_passes hinc]
      by_cases hmode : incident.takeInChargeMode = some .internal
      · rw [if_pos hmode] at h
        unfold Db.internalOrgMember at h
        rw [decide_eq_true hmode, Bool.true_and] at h
        rw [if_pos hmode, Prog.run_bind, Prog.run_read]
        cases howner : (db.user? incident.takenBy).bind User.organisationMember with
        | none => rfl
        | some organisation =>
            rw [howner, Option.any_some, decide_eq_false_iff_not] at h
            simp [refuseIf, h, Response.error, Response.status]
      · rw [if_neg hmode, Bool.or_eq_false_iff, decide_eq_false_iff_not] at h
        have hnone : (db.collaboration? i user.id).filter (fun c =>
            decide (c.status = .accepted)) = none := by
          refine Option.filter_eq_none_iff.mpr fun c hc => ?_
          simpa using (Option.any_eq_false ..).mp h.1 c hc
        rw [if_neg hmode, Prog.run_bind, Prog.run_read, hnone]
        dsimp only
        rw [if_neg h.2]
        rfl

theorem getUserCollaboration_status {view : View} (huser : db.users.get? user.id = some user)
    (hview : ∀ db, (view.run db).1.status = 200) :
    ((getUserCollaboration i user fun _ _ => view).run db).1.status = 200 ↔
      db.discusses user i = true := by
  cases h : db.discusses user i with
  | false =>
      rw [getUserCollaboration_refuses h]
      exact iff_of_false (by decide) (by decide)
  | true =>
      obtain ⟨incident, hinc⟩ : ∃ incident, db.incidents.get? i = some incident := by
        obtain ⟨incident, hinc, -⟩ := Option.any_eq_true _ _ |>.mp h
        exact ⟨incident, hinc⟩
      obtain ⟨c, db', -, hruns⟩ := getUserCollaboration_letsIn huser hinc h
      rw [hruns fun _ _ => view]
      exact iff_of_true (hview db') rfl

/-- The views answer those who take part. -/
theorem serves_iff : db.Serves u g ↔ db.MayRead u g := by
  unfold Db.MayRead
  cases hauth : db.authenticated (some u) with
  | none =>
      refine iff_of_false ?_ (by simp)
      cases g with
      | discussion i =>
          change ¬ ((readDiscussion (some u) i).run db).1.status = 200
          unfold readDiscussion authenticate
          rw [Prog.run_bind, Prog.run_read, hauth]
          exact (show ¬ 401 = 200 by decide)
      | tasks i =>
          rintro ⟨tasks, h⟩
          unfold listTasks at h
          rw [hauth] at h
          cases h
  | some user =>
      simp only [Option.some.injEq, exists_eq_left']
      cases g with
      | discussion i =>
          change ((readDiscussion (some u) i).run db).1.status = 200 ↔
            (isSuperAdmin user || db.discusses user i) = true
          unfold readDiscussion
          rw [authenticate_passes hauth]
          cases hsuper : isSuperAdmin user with
          | true => exact iff_of_true rfl (Bool.true_or _)
          | false =>
              rw [Bool.false_or]
              exact getUserCollaboration_status (authenticated_id hauth).2 fun _ => rfl
      | tasks i =>
          unfold Db.Serves listTasks
          rw [hauth]
          have hread : IsIncidentLeaderOrContributor.hasPermission db .get (some user) i =
            db.participates user (.tasks i) := rfl
          simp only [hread]
          cases db.participates user (.tasks i) <;> simp

theorem mayRead_congr (husers : db'.users = db.users) (hincidents : db'.incidents = db.incidents)
    (hcollaborations : db'.collaborations = db.collaborations) :
    db'.MayRead u g ↔ db.MayRead u g := by
  obtain ⟨_, _, _, _, _, _, _, _, _, _⟩ := db'
  dsimp only at husers hincidents hcollaborations
  subst husers hincidents hcollaborations
  cases g <;> exact Iff.rfl

end Views

/-! ## The writes of the endpoints -/

section Endpoints

variable {db db' : Db} {auth : Option UserId} {i : IncidentId} {out : Response × Db}

theorem saveTask_of_isSome {task : IncidentTask}
    (h : (db.incidents.get? task.incident).isSome = true) :
    db.saveTask task = (true, db.withTasks (db.tasks.put task)) :=
  if_pos h

theorem group_wsPushTask {task : IncidentTask} {created : Bool} :
    (wsPushTask task created).group = .tasks task.incident := by
  cases created <;> rfl

end Endpoints

/-! ## What the sockets show -/

/-- Whatever a socket may send to its client next, the views serve to its user. -/
def ShowsNoMore (s : Live) : Prop :=
  ∀ socket ∈ s.subscribers, ∀ payload, socket.queue.head? = some payload →
    s.store.Serves socket.user payload.group

/-- The write pushes to the socket of somebody who does not take part, or ends the part of
somebody for whom a payload still waits. -/
def Leaks (s : Live) : LiveEvent → Prop
  | .write w => ∃ socket ∈ s.subscribers,
      socket.Reached (w.pushes s.store) ∧ ¬ s.store.MayRead socket.user socket.topic ∨
      socket.queue ≠ [] ∧ ¬ (w.apply s.store).MayRead socket.user socket.topic
  | _ => False

/-- Who takes part is not changed by what is pushed. -/
theorem mayRead_apply {w : Write} {db : Db} {u : UserId} {g : Group} (h : w.pushes db ≠ []) :
    (w.apply db).MayRead u g ↔ db.MayRead u g := by
  cases w with
  | saveMessage message => exact mayRead_congr rfl rfl rfl
  | saveTask task =>
      cases hinc : (db.incidents.get? task.incident).isSome with
      | true =>
          rw [Write.apply, saveTask_of_isSome hinc]
          exact mayRead_congr rfl rfl rfl
      | false =>
          have hkept : db.saveTask task = (false, db) := if_neg (by simp [hinc])
          rw [Write.apply, hkept]
  | deleteTask id => exact mayRead_congr rfl rfl rfl
  | other write => exact absurd rfl h

theorem leaks_iff_lapses {s : Live} {event : LiveEvent} :
    Leaks s event ↔ Broker.State.Lapses Db.MayRead s event := by
  cases event with
  | write w =>
      refine exists_congr fun socket => and_congr_right fun _ => ?_
      change _ ↔ (socket.queue ≠ [] ∨ socket.Reached (w.pushes s.store)) ∧
        ¬ (w.apply s.store).MayRead socket.user socket.topic
      constructor
      · rintro (⟨hreached, hnot⟩ | ⟨hwaits, hnot⟩)
        · refine ⟨Or.inr hreached, ?_⟩
          obtain ⟨payload, hpayload, -⟩ := hreached
          rwa [mayRead_apply (List.ne_nil_of_mem hpayload)]
        · exact ⟨Or.inl hwaits, hnot⟩
      · rintro ⟨hwaits | hreached, hnot⟩
        · exact Or.inr ⟨hwaits, hnot⟩
        · refine Or.inl ⟨hreached, ?_⟩
          obtain ⟨payload, hpayload, -⟩ := hreached
          rwa [← mayRead_apply (List.ne_nil_of_mem hpayload)]
  | join channel auth group => exact Iff.rfl
  | leave channel => exact Iff.rfl
  | take channel => exact Iff.rfl

theorem showsNoMore_iff_discreet {s : Live} :
    ShowsNoMore s ↔ Broker.State.Discreet Db.MayRead s := by
  unfold ShowsNoMore Broker.State.Discreet
  simp only [serves_iff]
  exact Iff.rfl

/-- The sockets show no more than the views at every moment of a run, exactly
when no step pushes to somebody who does not take part, or ends the part of
somebody for whom a payload still waits. This is the law of brokers
(`Broker.discreet_iff`), with taking part in the incident as what a subscriber
needs. -/
theorem ws_shows_no_more_iff (db : Db) (events : List LiveEvent) :
    (∀ pre post, events = pre ++ post → ShowsNoMore (Live.after db pre)) ↔
      ∀ past event rest, events = past ++ event :: rest → ¬ Leaks (Live.after db past) event := by
  have hstart : (Live.start db).Guarded Db.MayRead := fun _ hx => absurd hx List.not_mem_nil
  simp only [showsNoMore_iff_discreet, leaks_iff_lapses]
  exact (Broker.discreet_iff hstart).trans along_iff

/-- The checks that the consumers lack would be enough: nobody connects who does not take
part, and whoever is connected goes on taking part. -/
theorem shows_no_more_of_checked {db : Db} {events : List LiveEvent}
    (h : Along Broker.State.step (fun s event => s.Checked Db.MayRead event) (Live.start db)
      events) {pre post : List LiveEvent} (hevents : events = pre ++ post) :
    ShowsNoMore (Live.after db pre) := by
  have hnobody : ∀ x ∈ (Live.start db).subscribers,
      (Live.start db).store.MayRead x.user x.topic := fun _ hx => absurd hx List.not_mem_nil
  have hstart : (Live.start db).Guarded Db.MayRead := fun x hx _ => hnobody x hx
  rw [showsNoMore_iff_discreet]
  exact (Broker.discreet_iff hstart).mpr (Broker.along_not_lapses h hnobody) pre post hevents

/-- The citizen who has reported an incident connects to its discussion, which is one of
the organisation in charge. -/
def eavesdropping : List LiveEvent :=
  [.join 7 (some 5) (.discussion 1),
    .write (.saveMessage { incident := 1, collaboration := 1, sender := 2
                           message := some "On ferme la rue", recipient := none })]

theorem ws_shows_more : ¬ ShowsNoMore (Live.after reportedStore eavesdropping) := by
  intro h
  have hserves := h _ List.mem_cons_self _ rfl
  revert hserves
  exact (show ¬ 404 = 200 by decide)

end Mapapi
