import Mapapi.Refinement

/-!
# Tacit and explicit acceptance

An assignment that nobody answers is accepted by
`auto_accept_overdue_assignments`, for an admin of the organisation. The task
has its own copy of what `AcceptOrgAssignmentView` does through
`engage_incident`. The two are compared on a reachable store, by the rows they
leave of the assignment and of its incident (`acceptance?`).

In a reachable store an incident waits for one organisation at a time
(`oneWaiting_exec`), so the other assignments that the task treats in the same
run are about other incidents and do not show.
-/

namespace Mapapi

open Lib

/-! ## One assignment waits -/

def Db.KeepsWaiting (db db' : Db) : Prop :=
  ∀ a ∈ db'.orgAssignments.rows, a.status = .pending → a ∈ db.orgAssignments.rows

namespace Db

variable {db db' : Db}

theorem KeepsWaiting.of_eq (h : db'.orgAssignments = db.orgAssignments) :
    db.KeepsWaiting db' :=
  fun _ ha _ => h ▸ ha

theorem KeepsWaiting.trans {db'' : Db} (h : db.KeepsWaiting db') (h' : db'.KeepsWaiting db'') :
    db.KeepsWaiting db'' :=
  fun a ha hpending => h a (h' a ha hpending) hpending

theorem KeepsWaiting.oneWaiting (h : db.KeepsWaiting db') (hone : db.OneWaiting) :
    db'.OneWaiting :=
  fun a ha b hb hincident hpending hpending' =>
    hone a (h a ha hpending) b (h b hb hpending') hincident hpending hpending'

/-- An assignment that is answered waits no more. -/
theorem keepsWaiting_answerAssignment (db : Db) (pk : OrgAssignmentId)
    {status : OrgAssignmentStatus} (reason : Option String → Option String) (now : Instant)
    (hstatus : status ≠ .pending) :
    db.KeepsWaiting (db.answerAssignment pk status reason now) := by
  intro a ha hpending
  obtain ⟨b, hb, rfl⟩ := List.mem_map.mp ha
  split at hpending
  · exact absurd hpending hstatus
  · rename_i hother
    rw [if_neg hother]
    exact hb

theorem keepsWaiting_deleteIncident (i : IncidentId) : db.KeepsWaiting (db.deleteIncident i) :=
  fun _ ha _ => (List.mem_filter.mp ha).1

/-- A new assignment waits, for an incident that no other one waits for. -/
theorem oneWaiting_put {assignment : IncidentOrgAssignment}
    (hid : assignment.id = db.orgAssignments.freshKey)
    (hfree : (db.orgAssignments.select fun a =>
      decide (a.incident = assignment.incident ∧ a.status = .pending)) = [])
    (hrows : db'.orgAssignments = db.orgAssignments.put assignment) (hone : db.OneWaiting) :
    db'.OneWaiting := by
  have hnew : db.orgAssignments.get? (key assignment) = none := by
    rw [show key assignment = db.orgAssignments.freshKey from hid]
    exact db.orgAssignments.get?_freshKey
  have halone : ∀ a ∈ db.orgAssignments.rows, a.incident = assignment.incident →
      a.status ≠ .pending := by
    intro a ha hincident hpending
    have := List.filter_eq_nil_iff.mp hfree a ha
    exact this (decide_eq_true ⟨hincident, hpending⟩)
  intro a ha b hb hincident hpending hpending'
  rw [hrows, Table.rows_put _ _ hnew, List.mem_append, List.mem_singleton] at ha hb
  rcases ha with ha | rfl <;> rcases hb with hb | rfl
  · exact hone a ha b hb hincident hpending hpending'
  · exact absurd hpending (halone a ha hincident)
  · exact absurd hpending' (halone b hb hincident.symm)
  · rfl

end Db

section Waiting

variable {db : Db} {now : Instant}

def Op.WritesAssignments : Op → Prop
  | .assignToOrganisation .. | .acceptOrgAssignment .. | .declineOrgAssignment ..
  | .purgeExpiredTrash | .autoAcceptOverdueAssignments => True
  | _ => False

theorem orgAssignments_takeInCharge {auth : Option UserId} {i : IncidentId}
    {mode : Choice TakeInChargeMode} {role : Choice CollabRole} :
    ((takeInCharge now auth i mode role).run db).2.orgAssignments = db.orgAssignments := by
  rcases takeInCharge_run (Eq.refl ((takeInCharge now auth i mode role).run db)) with
    h | ⟨user, incident, hauth, -, -, -, ⟨-, h⟩ | ⟨r, -, -, h⟩⟩
  · rw [h.1]
  · rcases takeInternal_run (authenticated_id hauth).2 h with h | ⟨-, -, -, hset⟩
    · rw [h.1]
    · exact hset.rows.orgAssignments
  · rcases takeCollaborative_run h with h | ⟨-, hnone, ⟨-, h⟩ | ⟨-, h⟩⟩
    · rw [h.1]
    · rcases takeLeader_run (authenticated_id hauth).2 hnone h with h | ⟨-, db', hset, hreset⟩
      · rw [h.1]
      · exact hreset.rows.orgAssignments.trans hset.rows.orgAssignments
    · obtain ⟨db', -, hset, hout⟩ := takeJoin_run hnone h
      have hopened : (db'.joinIncident incident).orgAssignments = db'.orgAssignments := by
        unfold Db.joinIncident
        split <;> rfl
      rcases hout with hout | ⟨_, _, _, _, hout⟩ <;> rw [hout]
      · exact hopened.trans hset.rows.orgAssignments
      · exact hopened.trans hset.rows.orgAssignments

theorem orgAssignments_saveCollaboration (c : Collaboration) :
    (db.saveCollaboration c).orgAssignments = db.orgAssignments :=
  (Db.setsSeat_saveCollaboration rfl rfl).rows.orgAssignments

theorem orgAssignments_acceptRow {c : Collaboration} {incident : Incident} {reply : Response} :
    ((acceptRow c incident reply).run db).2.orgAssignments = db.orgAssignments := by
  rw [(acceptRow_run rfl).2]
  split
  · exact orgAssignments_saveCollaboration _
  · exact orgAssignments_saveCollaboration _

theorem OpensDiscussion.orgAssignments {auth : Option UserId} {i : IncidentId} {db' : Db}
    (h : OpensDiscussion db auth i db') : db'.orgAssignments = db.orgAssignments := by
  rcases h with ⟨u, hset⟩ | ⟨_, _, -, -, -, -, hset⟩
  · exact hset.rows.orgAssignments
  · exact hset.rows.orgAssignments

theorem orgAssignments_autoValidate :
    ((autoValidateOverdueResolutions now).run db).2.orgAssignments = db.orgAssignments := by
  unfold autoValidateOverdueResolutions
  simp only [Prog.run_bind, Prog.run_read, Prog.run_forEach, Prog.run_pure]
  exact foldl_never _ (fun db : Db => db.orgAssignments) (I := fun _ => True)
    (fun _ _ _ => trivial) (fun _ _ _ _ => rfl) trivial

theorem orgAssignments_revertStale :
    ((revertStaleTakenIncidents now).run db).2.orgAssignments = db.orgAssignments := by
  unfold revertStaleTakenIncidents
  simp only [Prog.run_bind, Prog.run_read, Prog.run_forEach, Prog.run_pure]
  refine foldl_never _ (fun db : Db => db.orgAssignments) (I := fun _ => True)
    (fun _ _ _ => trivial) (fun db' r _ _ => ?_) trivial
  have hnotified (pct : Nat) :
      (notifyAntigelLeader r.1 pct db').orgAssignments = db'.orgAssignments := by
    unfold notifyAntigelLeader
    split <;> rfl
  rw [show r = (r.1, r.2) from rfl, revertStaleOne_run]
  cases antigelVerdict now r.2 r.1 with
  | revert => rfl
  | warn90 => exact hnotified 90
  | warn75 => exact hnotified 75
  | wait => rfl

/-- Only three operations write assignments: assigning, answering, and the
task that accepts what is overdue. The other cases each follow from the `_run`
lemma of their endpoint, whose result names every write, so that nothing has
to be unfolded here. -/
theorem orgAssignments_effect {op : Op} (hop : ¬ op.WritesAssignments) :
    (op.effect now db).orgAssignments = db.orgAssignments := by
  cases op with
  | takeInCharge => exact orgAssignments_takeInCharge
  | handleIncident auth i action =>
      rcases handleIncident_run (Eq.refl ((handleIncident auth i action).run db)) with
        h | ⟨_, _, -, -, ⟨-, -, h⟩ | ⟨-, -, h⟩⟩
      · exact congrArg Db.orgAssignments h.1
      all_goals
        rcases handled_run h with h | h
        all_goals exact (congrArg Db.orgAssignments h :)
  | closeIncident auth i start stop =>
      rcases closeIncident_run (Eq.refl ((closeIncident auth i start stop).run db)) with
        h | ⟨_, _, _, _, -, -, -, -, -, -, -, -, h⟩
      · exact congrArg Db.orgAssignments h.1
      · exact (congrArg Db.orgAssignments h :)
  | prepareResolution auth i =>
      rcases prepareResolution_run (Eq.refl ((prepareResolution now auth i).run db)) with
        h | ⟨_, _, -, -, -, -, h⟩
      · exact congrArg Db.orgAssignments h.1
      · exact (congrArg Db.orgAssignments h :)
  | returnForCompletion auth i =>
      rcases returnForCompletion_run (Eq.refl ((returnForCompletion auth i).run db)) with
        h | ⟨_, _, -, -, -, -, h⟩
      · exact congrArg Db.orgAssignments h.1
      · exact (congrArg Db.orgAssignments h :)
  | declareResolved auth i =>
      rcases declareResolved_run (Eq.refl ((declareResolved now auth i).run db)) with
        h | ⟨_, _, -, -, -, -, -, h⟩
      · exact congrArg Db.orgAssignments h.1
      · exact (congrArg Db.orgAssignments h :)
  | disengage auth i =>
      rcases disengage_run (Eq.refl ((disengage auth i).run db)) with
        h | ⟨_, _, -, -, -, -, -, ⟨-, h⟩ | ⟨-, h⟩⟩
      · exact congrArg Db.orgAssignments h.1
      · exact (congrArg Db.orgAssignments h :)
      · exact (congrArg Db.orgAssignments h :)
  | validateResolution auth i =>
      rcases validateResolution_run (Eq.refl ((validateResolution auth i).run db)) with
        h | ⟨_, _, -, -, -, -, h⟩
      · exact congrArg Db.orgAssignments h.1
      · exact (congrArg Db.orgAssignments h :)
  | rejectResolution auth i motif =>
      rcases rejectResolution_run (Eq.refl ((rejectResolution auth i motif).run db)) with
        h | ⟨_, _, _, -, -, -, -, -, h⟩
      · exact congrArg Db.orgAssignments h.1
      · exact (congrArg Db.orgAssignments h :)
  | requestCollaboration auth data =>
      rcases requestCollaboration_run (Eq.refl ((requestCollaboration now auth data).run db)) with
        h | ⟨_, _, _, -, -, -, -, hset, -, h⟩
      · exact congrArg Db.orgAssignments h.1
      · refine (congrArg Db.orgAssignments h).trans ?_
        split
        · exact hset.rows.orgAssignments
        · exact hset.rows.orgAssignments
  | bulkRequest auth requests =>
      rcases bulkRequest_run (Eq.refl ((bulkRequest now auth requests).run db)) with
        h | ⟨_, _, -, -, -, h⟩
      · exact congrArg Db.orgAssignments h.1
      · exact (bulkItems_run h).rows.orgAssignments
  | handleCollaboration auth id action =>
      rcases handleCollaboration_run (Eq.refl ((handleCollaboration auth id action).run db)) with
        h | ⟨_, c, _, -, ⟨-, h⟩ | ⟨-, h⟩⟩
      · exact congrArg Db.orgAssignments h.1
      · exact (congrArg (fun out => out.2.orgAssignments) h.symm).trans orgAssignments_acceptRow
      · exact (congrArg Db.orgAssignments h).trans (orgAssignments_saveCollaboration _)
  | acceptCollaboration auth id =>
      rcases acceptCollaboration_run (Eq.refl ((acceptCollaboration now auth id).run db)) with
        h | ⟨_, _, _, _, -, -, -, -, h⟩
      · exact congrArg Db.orgAssignments h.1
      · exact (congrArg (fun out => out.2.orgAssignments) h.symm).trans orgAssignments_acceptRow
  | declineCollaboration auth id =>
      rcases declineCollaboration_run (Eq.refl ((declineCollaboration auth id).run db)) with
        h | ⟨_, _, c, _, -, -, h⟩
      · exact congrArg Db.orgAssignments h.1
      · exact (congrArg Db.orgAssignments h).trans (orgAssignments_saveCollaboration _)
  | acceptSuggestion auth i pk =>
      rcases acceptSuggestion_run (Eq.refl ((acceptSuggestion auth i pk).run db)) with
        h | ⟨_, _, _, -, -, -, -, -, hset, h⟩
      · exact congrArg Db.orgAssignments h.1
      · exact (congrArg (fun out => out.2.orgAssignments) h).trans hset.rows.orgAssignments
  | rejectSuggestion auth i pk =>
      rcases rejectSuggestion_run (Eq.refl ((rejectSuggestion auth i pk).run db)) with
        h | ⟨_, h⟩
      · exact congrArg Db.orgAssignments h.1
      · exact (congrArg (fun out => out.2.orgAssignments) h :)
  | readDiscussion auth i =>
      rcases readDiscussion_run (Eq.refl ((readDiscussion auth i).run db)) with h | h
      · exact congrArg Db.orgAssignments h.1
      · exact h.orgAssignments
  | postDiscussion auth i data =>
      rcases postDiscussion_run (Eq.refl ((postDiscussion auth i data).run db)) with h | ⟨-, h⟩
      · exact congrArg Db.orgAssignments h.1
      · exact h.orgAssignments
  | autoValidateOverdueResolutions => exact orgAssignments_autoValidate
  | revertStaleTakenIncidents => exact orgAssignments_revertStale
  | assignToOrganisation | acceptOrgAssignment | declineOrgAssignment | purgeExpiredTrash
  | autoAcceptOverdueAssignments => exact absurd trivial hop

theorem keepsWaiting_autoAcceptOne (r : IncidentOrgAssignment × Incident) :
    db.KeepsWaiting ((autoAcceptOne now r).run db).2 := by
  have hanswered : db.KeepsWaiting (db.answerAssignment r.1.id .accepted id now) :=
    db.keepsWaiting_answerAssignment r.1.id id now (by decide)
  rw [show r = (r.1, r.2) from rfl, autoAcceptOne_run]
  split
  · exact hanswered
  · exact hanswered

/-- Only a super admin makes an incident wait. Every other operation leaves
the pending assignments among those there were. -/
theorem keepsWaiting_step {event : Event}
    (hop : ∀ auth i organisation, event.op ≠ .assignToOrganisation auth i organisation) :
    db.KeepsWaiting (db.step event) := by
  obtain ⟨now, op⟩ := event
  by_cases hwrites : op.WritesAssignments
  · cases op with
    | assignToOrganisation auth i organisation => exact absurd rfl (hop auth i organisation)
    | acceptOrgAssignment auth pk =>
        rcases acceptOrgAssignment_run (Eq.refl ((acceptOrgAssignment now auth pk).run db)) with
          h | ⟨user, assignment, incident, -, -, -, -, -, -, h⟩
        · exact .of_eq (congrArg Db.orgAssignments h.1 :)
        · have hanswered : db.KeepsWaiting (db.answerAssignment pk .accepted id now) :=
            db.keepsWaiting_answerAssignment pk id now (by decide)
          refine hanswered.trans (.of_eq ((congrArg Db.orgAssignments h :).trans ?_))
          unfold engageIncident
          split <;> rfl
    | declineOrgAssignment auth pk reason =>
        rcases declineOrgAssignment_run
            (Eq.refl ((declineOrgAssignment now auth pk reason).run db)) with
          h | ⟨declineReason, h⟩
        · exact .of_eq (congrArg Db.orgAssignments h.1 :)
        · have hanswered : db.KeepsWaiting (db.answerAssignment pk .declined declineReason now) :=
            db.keepsWaiting_answerAssignment pk declineReason now (by decide)
          exact hanswered.trans (.of_eq (congrArg Db.orgAssignments h :))
    | purgeExpiredTrash =>
        exact foldl_inv (fun (db' : Db) (r : Incident) => db'.deleteIncident r.id)
          db.KeepsWaiting _ (fun db' r _ h => h.trans (Db.keepsWaiting_deleteIncident r.id))
          (.of_eq rfl)
    | autoAcceptOverdueAssignments =>
        have hloop := foldl_inv (fun db' r => ((autoAcceptOne now r).run db').2)
          db.KeepsWaiting (overdueAssignments now db)
          (fun db' r _ h => h.trans (keepsWaiting_autoAcceptOne r)) (.of_eq rfl)
        rw [Db.step, Op.effect, autoAcceptOverdueAssignments]
        simp only [Prog.run_bind, Prog.run_read, Prog.run_forEach, Prog.run_pure]
        exact hloop
    | _ => exact hwrites.elim
  · exact .of_eq (orgAssignments_effect hwrites)

theorem oneWaiting_step (event : Event) (h : db.OneWaiting) : (db.step event).OneWaiting := by
  by_cases hop : ∃ auth i organisation, event.op = .assignToOrganisation auth i organisation
  · obtain ⟨auth, i, organisation, hassign⟩ := hop
    rw [Db.step, hassign]
    rcases assignToOrganisation_run
      (Eq.refl ((assignToOrganisation event.now auth i organisation).run db)) with
      h' | ⟨assignment, hid, rfl, -, hfree, notifications, hout⟩
    · exact (Db.KeepsWaiting.of_eq (congrArg Db.orgAssignments h'.1 :)).oneWaiting h
    · exact Db.oneWaiting_put hid hfree (congrArg Db.orgAssignments hout :) h
  · push Not at hop
    exact (keepsWaiting_step hop).oneWaiting h

/-- An incident waits for one organisation at a time, in every run. The check
of the assignment endpoint and the creation are one step here; under
interleavings this is a matter of its own (`AnsweredOnce.lean`). -/
theorem oneWaiting_exec {start : Db} (hfresh : start.Fresh) (events : List Event) :
    (start.exec events).OneWaiting :=
  Lib.exec_inv (fun _ event h => oneWaiting_step event h) hfresh.oneWaiting events

end Waiting

/-! ## The two ways -/

/-- What accepting an assignment may change of its row and of its incident. -/
structure Acceptance where
  status : OrgAssignmentStatus
  respondedAt : Option Instant
  etat : Etat
  takenBy : Option UserId
  takenInChargeAt : Option Instant
  takeInChargeMode : Option TakeInChargeMode
  antigelWarned75 : Bool
  antigelWarned90 : Bool
  deriving DecidableEq

/-- The columns that an acceptance writes. Who is responsible for the incident
and how long it may take follow from these. -/
def Acceptance.of (assignment : IncidentOrgAssignment) (incident : Incident) : Acceptance :=
  { status := assignment.status
    respondedAt := assignment.respondedAt
    etat := incident.etat
    takenBy := incident.takenBy
    takenInChargeAt := incident.takenInChargeAt
    takeInChargeMode := incident.takeInChargeMode
    antigelWarned75 := incident.antigelWarned75
    antigelWarned90 := incident.antigelWarned90 }

def Db.acceptance? (db : Db) (pk : OrgAssignmentId) : Option Acceptance :=
  (db.assignmentWithIncident? pk).map fun (assignment, incident) => .of assignment incident

def Db.acceptedTacitly (now : Instant) (db : Db) : Db :=
  ((autoAcceptOverdueAssignments now).run db).2

def Db.acceptedBy (u : UserId) (pk : OrgAssignmentId) (now : Instant) (db : Db) : Db :=
  ((acceptOrgAssignment now (some u) pk).run db).2

def IncidentOrgAssignment.acceptedAt (assignment : IncidentOrgAssignment) (now : Instant) :
    IncidentOrgAssignment :=
  { assignment with status := .accepted, respondedAt := some now }

section Outcomes

variable {db : Db} {now : Instant} {pk : OrgAssignmentId} {assignment : IncidentOrgAssignment}
  {incident : Incident} {admin : User}

theorem firstByPk_mem {users : List User} {u : User} (h : firstByPk users = some u) :
    u ∈ users := by
  induction users generalizing u with
  | nil => cases h
  | cons v rest ih =>
      unfold firstByPk at h
      split at h
      · cases h
        exact List.mem_cons_self ..
      · rename_i w hw
        split at h
        · cases h
          exact List.mem_cons_self ..
        · cases h
          exact List.mem_cons_of_mem _ (ih hw)

theorem firstByPk_adminsOf {organisation : OrganisationId}
    (h : firstByPk (db.adminsOf organisation) = some admin) :
    db.users.get? admin.id = some admin ∧ admin.organisationMember = some organisation ∧
      admin.orgRole = some .orgAdmin := by
  obtain ⟨hget, hadmin⟩ := Table.mem_select.mp (firstByPk_mem h)
  simp only [decide_eq_true_eq] at hadmin
  exact ⟨hget, hadmin.1, hadmin.2⟩

theorem acceptance?_eq {a : IncidentOrgAssignment} {r : Incident}
    (hassignment : db.orgAssignments.get? pk = some a)
    (hincident : db.incidents.get? a.incident = some r) :
    db.acceptance? pk = some (.of a r) := by
  rw [Db.acceptance?, assignmentWithIncident?_eq_some.mpr ⟨hassignment, hincident⟩]
  rfl

theorem get?_answerAssignment (db : Db) (pk : OrgAssignmentId) (now : Instant)
    (reason : Option String → Option String)
    (status : OrgAssignmentStatus) (k : OrgAssignmentId) :
    (db.answerAssignment pk status reason now).orgAssignments.get? k =
      if k = pk then (db.orgAssignments.get? k).map fun a =>
        { a with status := status, declineReason := reason a.declineReason
                 respondedAt := some now }
      else db.orgAssignments.get? k := by
  rw [Db.answerAssignment, Table.get?_update]

theorem autoAcceptOne_other {a : IncidentOrgAssignment} {r : Incident} {i : IncidentId}
    (hpk : a.id ≠ pk) (hi : r.id ≠ i) :
    ((autoAcceptOne now (a, r)).run db).2.orgAssignments.get? pk = db.orgAssignments.get? pk ∧
      ((autoAcceptOne now (a, r)).run db).2.incidents.get? i = db.incidents.get? i := by
  have hassignment := get?_answerAssignment db a.id now id .accepted pk
  rw [if_neg hpk.symm] at hassignment
  rw [autoAcceptOne_run]
  split
  · exact ⟨hassignment, Db.incidents_saveIncidentFields_other hi.symm⟩
  · exact ⟨hassignment, rfl⟩

/-- An incident that is no longer declared has been taken otherwise, and is
left alone by the acceptance. -/
def Incident.afterTacit (incident : Incident) (leader : Option UserId) (now : Instant) :
    Incident :=
  if incident.etat = .declared then incident.engagedTacitly leader now else incident

/-- The same for the endpoint. The two differ in `engaged` and
`engagedTacitly` alone. -/
def Incident.afterAccept (incident : Incident) (leader : UserId) (now : Instant) : Incident :=
  if incident.etat = .declared then incident.engaged leader now else incident

theorem autoAcceptOne_self (now : Instant)
    (hassignment : db.orgAssignments.get? assignment.id = some assignment)
    (hincident : db.incidents.get? incident.id = some incident) :
    ((autoAcceptOne now (assignment, incident)).run db).2.orgAssignments.get? assignment.id =
        some (assignment.acceptedAt now) ∧
      ((autoAcceptOne now (assignment, incident)).run db).2.incidents.get? incident.id =
        some (incident.afterTacit
          ((firstByPk (db.adminsOf assignment.organisation)).map User.id) now) := by
  have hanswered := get?_answerAssignment db assignment.id now id .accepted assignment.id
  rw [if_pos rfl, hassignment] at hanswered
  rw [autoAcceptOne_run, Incident.afterTacit]
  split
  · set leader := (firstByPk (db.adminsOf assignment.organisation)).map User.id
    have hread : (db.answerAssignment assignment.id .accepted id now).incidents.get?
        (incident.engagedTacitly leader now).id = some incident := hincident
    refine ⟨hanswered, ?_⟩
    exact (Db.incidents_saveIncidentFields hread rfl incident.id).trans (if_pos rfl)
  · exact ⟨hanswered, hincident⟩

/-- What a run of the task leaves of an assignment that is due. -/
theorem acceptance?_acceptedTacitly (hone : db.OneWaiting)
    (hassignment : db.orgAssignments.get? pk = some assignment)
    (hpending : assignment.status = .pending) (hoverdue : assignment.deadline < now)
    (hincident : db.incidents.get? assignment.incident = some incident) :
    (db.acceptedTacitly now).acceptance? pk =
      some (.of (assignment.acceptedAt now) (incident.afterTacit
        ((firstByPk (db.adminsOf assignment.organisation)).map User.id) now)) := by
  have hpk : assignment.id = pk := Table.key_of_get? hassignment
  have hid : incident.id = assignment.incident := Table.key_of_get? hincident
  have hmem : (assignment, incident) ∈ overdueAssignments now db :=
    mem_overdueAssignments.mpr
      ⟨Table.mem_of_get? hassignment, hpending, hoverdue, hincident⟩
  have hnodup : ((overdueAssignments now db).map fun r => r.1.id).Nodup := by
    unfold overdueAssignments
    rw [List.filterMap_reverse, List.map_reverse, List.nodup_reverse]
    refine db.orgAssignments.nodup_filterMap fun a r hr => ?_
    split at hr
    · obtain ⟨row, -, rfl⟩ := Option.map_eq_some_iff.mp hr
      rfl
    · cases hr
  -- the other due assignments are about other incidents
  have hothers : ∀ r ∈ overdueAssignments now db, r.1.id ≠ assignment.id →
      r.2.id ≠ assignment.incident := by
    rintro ⟨a, row⟩ hr hne hrow
    obtain ⟨ha, hwaits, -, harow⟩ := mem_overdueAssignments.mp hr
    have harow' : row.id = a.incident := Table.key_of_get? harow
    refine hne (congrArg IncidentOrgAssignment.id ?_)
    exact hone a ha assignment (Table.mem_of_get? hassignment) (harow'.symm.trans hrow) hwaits
      hpending
  obtain ⟨db₁, husers, hsame, hend⟩ := foldl_at (I := fun db' : Db => db'.users = db.users)
    (fun (db : Db) r => ((autoAcceptOne now r).run db).2)
    (fun db' : Db =>
      (db'.orgAssignments.get? assignment.id, db'.incidents.get? assignment.incident))
    (fun r : IncidentOrgAssignment × Incident => r.1.id) (b := (assignment, incident))
    (s := db) (fun db' r h => (users_autoAcceptOne r.1 r.2).trans h)
    (fun db' r hr _ hne => Prod.ext (autoAcceptOne_other hne (hothers r hr hne)).1
      (autoAcceptOne_other hne (hothers r hr hne)).2) hnodup hmem rfl
  obtain ⟨hassignment₁, hincident₁⟩ := Prod.mk.inj hsame
  obtain ⟨hassignment', hincident'⟩ := Prod.mk.inj hend
  rw [hpk, hassignment] at hassignment₁
  rw [hincident] at hincident₁
  have hadmins : db₁.adminsOf assignment.organisation = db.adminsOf assignment.organisation := by
    unfold Db.adminsOf
    rw [husers]
  have hself := autoAcceptOne_self now (hpk ▸ hassignment₁) (hid ▸ hincident₁)
  rw [hadmins, hid] at hself
  rw [Db.acceptedTacitly, autoAcceptOverdueAssignments]
  simp only [Prog.run_bind, Prog.run_read, Prog.run_forEach, Prog.run_pure]
  refine acceptance?_eq ?_ (hincident'.trans hself.2)
  rw [← hpk]
  exact hassignment'.trans hself.1

/-- What is left when an admin of the organisation accepts. -/
theorem acceptance?_acceptedBy (hassignment : db.orgAssignments.get? pk = some assignment)
    (hpending : assignment.status = .pending)
    (hincident : db.incidents.get? assignment.incident = some incident)
    (hadmin : firstByPk (db.adminsOf assignment.organisation) = some admin)
    (hactive : admin.isActive = true) (hsuper : admin.isSuperuser = false) :
    (db.acceptedBy admin.id pk now).acceptance? pk =
      some (.of (assignment.acceptedAt now) (incident.afterAccept admin.id now)) := by
  obtain ⟨huser, hmember, hrole⟩ := firstByPk_adminsOf hadmin
  have hauth : db.authenticated (some admin.id) = some admin :=
    authenticated_iff.mpr ⟨admin.id, rfl, huser, hactive⟩
  have hread : db.assignmentWithIncident? pk = some (assignment, incident) :=
    assignmentWithIncident?_eq_some.mpr ⟨hassignment, hincident⟩
  have hrun : db.acceptedBy admin.id pk now =
      engageIncident now incident admin.id (db.answerAssignment pk .accepted id now) := by
    unfold Db.acceptedBy acceptOrgAssignment getAssignment
    rw [authenticate_passes hauth, permit_passes (isOrgAdmin_iff.mpr ⟨hsuper, hrole⟩),
      Prog.run_bind, Prog.run_read, hread]
    dsimp only
    rw [refuseIf_passes (by simp [hmember]), refuseIf_passes (by simp [hpending])]
    rfl
  have hanswered := get?_answerAssignment db pk now id .accepted pk
  rw [if_pos rfl, hassignment] at hanswered
  have hid : incident.id = assignment.incident := Table.key_of_get? hincident
  rw [hrun, engageIncident, Incident.afterAccept]
  split
  · have hread : (db.answerAssignment pk .accepted id now).incidents.get?
        (incident.engaged admin.id now).id = some incident := hid ▸ hincident
    exact acceptance?_eq hanswered
      ((Db.incidents_saveIncidentFields hread rfl assignment.incident).trans (if_pos hid.symm))
  · exact acceptance?_eq hanswered hincident

/-- An inactive admin cannot sign in, and a super admin is no organisation admin:
the request is refused. -/
theorem acceptedBy_refused (hadmin : firstByPk (db.adminsOf assignment.organisation) = some admin)
    (hrefused : ¬ (admin.isActive = true ∧ admin.isSuperuser = false)) :
    db.acceptedBy admin.id pk now = db := by
  obtain ⟨huser, -, -⟩ := firstByPk_adminsOf hadmin
  rcases acceptOrgAssignment_run (Eq.refl ((acceptOrgAssignment now (some admin.id) pk).run db))
    with h | ⟨user, _, _, hauth, hisAdmin, -⟩
  · exact h.1
  · obtain ⟨u, hu, hget, hactive⟩ := authenticated_iff.mp hauth
    cases hu
    cases huser.symm.trans hget
    exact absurd ⟨hactive, (isOrgAdmin_iff.mp hisAdmin).1⟩ hrefused

/-- The task leaves the flags as they were, the endpoint clears them. This is
the only column in which the two copies differ, so it decides whether the
acceptances are equal. -/
theorem acceptances_eq_iff {leader : UserId} :
    Acceptance.of (assignment.acceptedAt now) (incident.afterTacit (some leader) now) =
        .of (assignment.acceptedAt now) (incident.afterAccept leader now) ↔
      (incident.etat = .declared →
        incident.antigelWarned75 = false ∧ incident.antigelWarned90 = false) := by
  unfold Incident.afterTacit Incident.afterAccept
  by_cases hetat : incident.etat = .declared
  · simp [hetat, Acceptance.of, Incident.engagedTacitly, Incident.engaged]
  · simp [hetat]

end Outcomes

/-- Tacit acceptance leaves what the acceptance by the same admin leaves, if
and only if this admin may sign in as an organisation admin and no anti-gel
flag of an earlier engagement is left on a declared incident. Such a flag is
left where a warned leader gives the incident up. -/
theorem tacit_eq_explicit_iff {start : Db} (hfresh : start.Fresh) (events : List Event)
    (now : Instant) (pk : OrgAssignmentId) (assignment : IncidentOrgAssignment)
    (incident : Incident) (admin : User)
    (hassignment : (start.exec events).orgAssignments.get? pk = some assignment)
    (hpending : assignment.status = .pending) (hoverdue : assignment.deadline < now)
    (hincident : (start.exec events).incidents.get? assignment.incident = some incident)
    (hadmin : firstByPk ((start.exec events).adminsOf assignment.organisation) = some admin) :
    ((start.exec events).acceptedTacitly now).acceptance? pk =
        ((start.exec events).acceptedBy admin.id pk now).acceptance? pk ↔
      (admin.isActive = true ∧ admin.isSuperuser = false) ∧
        (incident.etat = .declared →
          incident.antigelWarned75 = false ∧ incident.antigelWarned90 = false) := by
  have htacit := acceptance?_acceptedTacitly (oneWaiting_exec hfresh events) hassignment hpending
    hoverdue hincident
  rw [hadmin, Option.map_some] at htacit
  by_cases hsigned : admin.isActive = true ∧ admin.isSuperuser = false
  · rw [htacit, acceptance?_acceptedBy hassignment hpending hincident hadmin hsigned.1 hsigned.2,
      Option.some.injEq, acceptances_eq_iff, and_iff_right hsigned]
  · rw [htacit, acceptedBy_refused hadmin hsigned, acceptance?_eq hassignment hincident]
    refine ⟨fun h => ?_, fun h => absurd h.1 hsigned⟩
    have hstatus : OrgAssignmentStatus.accepted = assignment.status :=
      congrArg Acceptance.status (Option.some.inj h)
    exact nomatch hstatus.trans hpending

def mairieStore : Db :=
  Db.start [{ id := 3, name := "Mairie" }]
    [.superAdmin 1 "super@map.ml", .member 2 "ali@mairie.ml" .orgAdmin 3]
    (.new 1 (some "Fuite") "Bamako" "01-02-2025")

/-- The incident is assigned to the organisation, which does not answer. -/
theorem tacit_eq_explicit_assigned :
    let db := mairieStore.exec [⟨0, .assignToOrganisation (some 1) 1 (.uuid 3)⟩]
    (db.acceptedTacitly (hours 73)).acceptance? 1 =
      (db.acceptedBy 2 1 (hours 73)).acceptance? 1 := by
  intro db
  have hassigned := tacit_eq_explicit_iff (show mairieStore.Fresh from Db.start_fresh _ _)
    [⟨0, .assignToOrganisation (some 1) 1 (.uuid 3)⟩] (hours 73) 1
    { id := 1, incident := 1, organisation := 3, assignedBy := some 1, status := .pending
      declineReason := none, deadline := hours 72, respondedAt := none }
    (.new 1 (some "Fuite") "Bamako" "01-02-2025") (.member 2 "ali@mairie.ml" .orgAdmin 3)
    (by decide) rfl (by decide) (by decide) (by decide)
  exact hassigned.mpr (by decide)

/-- The admin takes the incident in charge, is warned at 75 % of the delay and
leaves. The incident is then assigned to the organisation, which does not answer. -/
def warnedRun : List Event :=
  [⟨0, .takeInCharge (some 2) 1 (.one .internal) .unknown⟩,
    ⟨days 46, .revertStaleTakenIncidents⟩, ⟨days 47, .disengage (some 2) 1⟩,
    ⟨days 47, .assignToOrganisation (some 1) 1 (.uuid 3)⟩]

/-- Accepted tacitly, the new engagement starts as already warned. -/
theorem tacit_keeps_warning :
    mairieStore.Fresh ∧
      ((mairieStore.exec warnedRun).orgAssignments.get? 1).map (fun a =>
        (a.status, decide (a.deadline < days 51), a.organisation)) = some (.pending, true, 3) ∧
      (firstByPk ((mairieStore.exec warnedRun).adminsOf 3)).map User.id = some 2 ∧
      ((mairieStore.exec warnedRun).acceptedTacitly (days 51)).acceptance? 1 ≠
        ((mairieStore.exec warnedRun).acceptedBy 2 1 (days 51)).acceptance? 1 := by
  exact ⟨Db.start_fresh _ _, by decide +kernel, by decide +kernel, by decide +kernel⟩

end Mapapi
