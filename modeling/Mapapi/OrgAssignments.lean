import Mapapi.Seats

/-!
# Assigning an incident to an organisation

A super admin assigns an incident to an organisation, whose admin accepts or
declines within 72 hours. Accepting engages the incident (`engage_incident`).
Without an answer the assignment is accepted tacitly, by a Celery task.

The endpoint and the task each have a copy of what accepting does. Here is the
copy of the endpoint, with the assignment it belongs to; the task is with the
other tasks of the life cycle.
-/

namespace Mapapi

open Lib

/-! ## engage_incident -/

/-- The in-memory row of an incident that `engage_incident` engages: the
anti-gel clock starts at `now`, and the warnings of an earlier engagement are
forgotten. -/
def Incident.engaged (incident : Incident) (leader : UserId) (now : Instant) : Incident :=
  { incident with
    etat := .taken
    takenBy := some leader
    takenInChargeAt := some now
    antigelWarned75 := false
    antigelWarned90 := false }

/-- `engage_incident`: only a declared incident is engaged. -/
def engageIncident (now : Instant) (incident : Incident) (leader : UserId) (db : Db) : Db :=
  if incident.etat = .declared then
    db.saveIncidentFields (incident.engaged leader now)
      [.etat, .takenBy, .takenInChargeAt, .antigelWarned75, .antigelWarned90]
  else db

/-! ## The assignment and its incident -/

namespace Db

/-- `assignment.save(update_fields=[...])`, for an assignment that is
answered. -/
def answerAssignment (id : OrgAssignmentId) (status : OrgAssignmentStatus)
    (declineReason : Option String → Option String) (now : Instant) (db : Db) : Db :=
  { db with
    orgAssignments := db.orgAssignments.update id fun assignment =>
      { assignment with
        status := status
        declineReason := declineReason assignment.declineReason
        respondedAt := some now } }

def assignmentWithIncident? (db : Db) (id : OrgAssignmentId) :
    Option (IncidentOrgAssignment × Incident) := do
  let assignment ← db.orgAssignments.get? id
  let incident ← db.incidents.get? assignment.incident
  pure (assignment, incident)

def adminsOf (db : Db) (organisation : OrganisationId) : List User :=
  db.users.select fun user =>
    decide (user.organisationMember = some organisation ∧ user.orgRole = some .orgAdmin)

end Db

/-! ## AssignIncidentToOrganisationView -/

def assignmentMessage (incident : Incident) : String :=
  truncate 255 ("Le Super Admin vous a assigné l'incident « " ++
    (presentText incident.title).getD incident.zone ++
    " ». À accepter ou décliner sous 72 h.")

/-- `AssignIncidentToOrganisationView.post`. Whether the incident waits
already is read before the assignment is created, in another action. The
admins of the organisation are notified; the text about the incident is cut,
so it fits. -/
def assignToOrganisation (now : Instant) (auth : Option UserId) (i : IncidentId)
    (organisationId : RawId) : View :=
  authenticate auth fun user =>
  permit (isSuperAdmin user) isSuperAdminRoleMessage <|
  getIncident i incidentNotFound fun incident =>
  match organisationId with
  | .absent => pure (.error 400 "organisation_id est obligatoire.")
  | .malformed => pure .crash
  | .uuid organisationId => do
    match ← Prog.read fun db => db.organisations.get? organisationId with
    | none => pure (.error 400 "Organisation introuvable.")
    | some organisation =>
      -- one pending assignment at a time for an incident
      let waiting ← Prog.read fun db => db.orgAssignments.select fun assignment =>
        decide (assignment.incident = i ∧ assignment.status = .pending)
      refuseIf (!waiting.isEmpty)
        (.error 400 "Une assignation est déjà en attente pour cet incident.") do
      let assignment ← Prog.atomic fun db =>
        let assignment : IncidentOrgAssignment :=
          { id := db.orgAssignments.freshKey, incident := i, organisation := organisation.id,
            assignedBy := some user.id, status := .pending, declineReason := none,
            deadline := now + hours 72, respondedAt := none }
        (assignment, { db with orgAssignments := db.orgAssignments.put assignment })
      Prog.modify fun db => { db with
        notifications := db.notifications ++ (db.adminsOf organisation.id).map fun admin =>
          { user := admin.id, notifType := .incidentAssignment,
            message := assignmentMessage incident, colaboration := none, incident := some i } }
      pure (.ok 201 (.assignment assignment))

/-! ## AcceptOrgAssignmentView and DeclineOrgAssignmentView -/

def assignmentNotFound : String := "Assignation non trouvée."

/-- `IncidentOrgAssignment.objects.get(...)` and the check that the requester
belongs to the assigned organisation. -/
def getAssignment (user : User) (pk : OrgAssignmentId)
    (view : IncidentOrgAssignment → Incident → View) : View := do
  match ← Prog.read fun db => db.assignmentWithIncident? pk with
  | none => pure (.error 404 assignmentNotFound)
  | some (assignment, incident) =>
    refuseIf (decide (user.organisationMember ≠ some assignment.organisation))
      (.error 403 "Vous n'êtes pas administrateur de l'organisation assignée.") <|
    view assignment incident

/-- `AcceptOrgAssignmentView.post`. The status is checked on the row as it was
read; then the answer is saved, and then the incident is engaged, as it was
read with the assignment. -/
def acceptOrgAssignment (now : Instant) (auth : Option UserId) (pk : OrgAssignmentId) : View :=
  authenticate auth fun user =>
  permit (isOrgAdmin user) isOrgAdminMessage <|
  getAssignment user pk fun assignment incident =>
  refuseIf (decide (assignment.status ≠ .pending))
    (.error 400 "Seule une assignation « en attente » peut être acceptée.") do
  Prog.modify (Db.answerAssignment pk .accepted id now)
  Prog.modify (engageIncident now incident user.id)
  pure (.ok 200 (.assignment { assignment with status := .accepted, respondedAt := some now }))

/-- `DeclineOrgAssignmentView.post`; a reason that is blank once stripped is
`.unknown`. -/
def declineOrgAssignment (now : Instant) (auth : Option UserId) (pk : OrgAssignmentId)
    (reason : Choice String) : View :=
  authenticate auth fun user =>
  permit (isOrgAdmin user) isOrgAdminMessage <|
  getAssignment user pk fun assignment _ =>
  refuseIf (decide (assignment.status ≠ .pending))
    (.error 400 "Seule une assignation « en attente » peut être déclinée.") <|
  match reason with
  | .notText => pure .crash
  | .unknown => decline assignment none
  | .one reason => decline assignment (some reason)
where
  decline (assignment : IncidentOrgAssignment) (reason : Option String) : View := do
    Prog.modify (Db.answerAssignment pk .declined (fun _ => reason) now)
    pure (.ok 200 (.assignment { assignment with
      status := .declined, declineReason := reason, respondedAt := some now }))

/-! ## What the requests do -/

variable {db : Db} {now : Instant} {auth : Option UserId} {i : IncidentId}
  {pk : OrgAssignmentId} {user : User} {out : Response × Db}

theorem assignmentWithIncident?_eq_some {assignment : IncidentOrgAssignment}
    {incident : Incident} :
    db.assignmentWithIncident? pk = some (assignment, incident) ↔
      db.orgAssignments.get? pk = some assignment ∧
        db.incidents.get? assignment.incident = some incident := by
  unfold Db.assignmentWithIncident?
  cases h : db.orgAssignments.get? pk with
  | none => simp
  | some a =>
      cases h' : db.incidents.get? a.incident with
      | none =>
          simp only [Option.bind_eq_bind, Option.bind_some, h', Option.bind_none,
            Option.some.injEq, reduceCtorEq, false_iff, not_and]
          rintro rfl
          simp [h']
      | some b =>
          simp only [Option.bind_eq_bind, Option.bind_some, h', Option.some.injEq]
          constructor
          · rintro ⟨⟩
            exact ⟨rfl, h'⟩
          · rintro ⟨rfl, hb⟩
            rw [h'] at hb
            cases hb
            rfl

/-- An assignment is stored next to the others; the incident waits for nobody
else. This is the check that keeps an incident from waiting for two
organisations in any run. -/
theorem assignToOrganisation_run {organisationId : RawId}
    (h : (assignToOrganisation now auth i organisationId).run db = out) :
    Refused db out ∨
      ∃ assignment : IncidentOrgAssignment, assignment.id = db.orgAssignments.freshKey ∧
        assignment.incident = i ∧ assignment.status = .pending ∧
        (db.orgAssignments.select fun a => decide (a.incident = i ∧ a.status = .pending)) = [] ∧
        ∃ notifications, out.2 = { db with
          orgAssignments := db.orgAssignments.put assignment
          notifications := notifications } := by
  unfold assignToOrganisation at h
  rcases authenticate_run h with h | ⟨user, -, h⟩
  · exact Or.inl h
  rcases permit_run h with h | ⟨-, h⟩
  · exact Or.inl h
  rcases getIncident_run h with h | ⟨incident, -, h⟩
  · exact Or.inl h
  cases organisationId with
  | absent => exact Or.inl (pure_run (by decide) h)
  | malformed => exact Or.inl (pure_run (by decide) h)
  | uuid organisationId =>
      rw [Prog.run_bind, Prog.run_read] at h
      cases horg : db.organisations.get? organisationId with
      | none =>
          rw [horg] at h
          exact Or.inl (pure_run (by decide) h)
      | some organisation =>
          rw [horg] at h
          simp only [Prog.run_bind, Prog.run_read] at h
          rcases refuseIf_run (by decide) h with h | ⟨hwaiting, h⟩
          · exact Or.inl h
          subst h
          exact Or.inr ⟨_, rfl, rfl, rfl, by simpa using hwaiting, _, rfl⟩

theorem getAssignment_run {view : IncidentOrgAssignment → Incident → View}
    (h : (getAssignment user pk view).run db = out) :
    Refused db out ∨
      ∃ assignment incident, db.orgAssignments.get? pk = some assignment ∧
        db.incidents.get? assignment.incident = some incident ∧
        user.organisationMember = some assignment.organisation ∧
        (view assignment incident).run db = out := by
  unfold getAssignment at h
  rw [Prog.run_bind, Prog.run_read] at h
  rcases hrow : db.assignmentWithIncident? pk with _ | ⟨assignment, incident⟩
  · rw [hrow] at h
    exact Or.inl (pure_run (by decide) h)
  · rw [hrow] at h
    obtain ⟨hassignment, hincident⟩ := assignmentWithIncident?_eq_some.mp hrow
    rcases refuseIf_run (by decide) h with h | ⟨hmember, h⟩
    · exact Or.inl h
    · exact Or.inr ⟨assignment, incident, hassignment, hincident, by simpa using hmember, h⟩

theorem acceptOrgAssignment_run (h : (acceptOrgAssignment now auth pk).run db = out) :
    Refused db out ∨
      ∃ user assignment incident, db.authenticated auth = some user ∧
        isOrgAdmin user = true ∧ db.orgAssignments.get? pk = some assignment ∧
        db.incidents.get? assignment.incident = some incident ∧
        user.organisationMember = some assignment.organisation ∧
        assignment.status = .pending ∧
        out.2 = engageIncident now incident user.id (db.answerAssignment pk .accepted id now) := by
  unfold acceptOrgAssignment at h
  rcases authenticate_run h with h | ⟨user, hauth, h⟩
  · exact Or.inl h
  rcases permit_run h with h | ⟨hadmin, h⟩
  · exact Or.inl h
  rcases getAssignment_run h with h | ⟨assignment, incident, hassignment, hincident, hmember, h⟩
  · exact Or.inl h
  rcases refuseIf_run (by decide) h with h | ⟨hpending, rfl⟩
  · exact Or.inl h
  exact Or.inr ⟨user, assignment, incident, hauth, hadmin, hassignment, hincident, hmember,
    by simpa using hpending, rfl⟩

theorem declineOrgAssignment_run {reason : Choice String}
    (h : (declineOrgAssignment now auth pk reason).run db = out) :
    Refused db out ∨
      ∃ declineReason, out.2 = db.answerAssignment pk .declined declineReason now := by
  unfold declineOrgAssignment at h
  rcases authenticate_run h with h | ⟨user, -, h⟩
  · exact Or.inl h
  rcases permit_run h with h | ⟨-, h⟩
  · exact Or.inl h
  rcases getAssignment_run h with h | ⟨assignment, incident, -, -, -, h⟩
  · exact Or.inl h
  rcases refuseIf_run (by decide) h with h | ⟨-, h⟩
  · exact Or.inl h
  cases reason with
  | notText => exact Or.inl (pure_run (by decide) h)
  | unknown =>
      subst h
      exact Or.inr ⟨fun _ => none, rfl⟩
  | one reason =>
      subst h
      exact Or.inr ⟨fun _ => some reason, rfl⟩

end Mapapi
