import Mapapi.Interventions
import Mapapi.Membership
import Mapapi.Server

/-!
# Sending field agents

`IncidentAssignmentListCreateView` and `IncidentAssignmentDetailView`, with
`_can_manage_assignment` and `IncidentAssignmentSerializer`.

Whether a user may manage the assignments of an incident is decided from the
organisation of its reporter, that of its taker, or its public status. Which agent
may be sent there is decided by the serializer, from the organisation of the
reporter and, when there is none, from that of the taker. The two are not the same
organisation in general, and a request that changes an assignment is let through
for the incident the assignment had before.

`unique_together = (incident, agent)` makes the pair the key of the table. The
e-mail to the agent is left out: its errors are caught.

An offer is a request that nothing but the two checks on the agent can refuse
(`FieldDb.Offers`). So both halves of the result compare the checks with what
they are for, offer by offer, and the field checks and foreign keys stay out
of it.
-/

namespace Mapapi

open Lib

/-! ## The rows -/

inductive AssignmentStatus where
  | pending
  | inProgress
  | reported
  | cancelled
  deriving DecidableEq

structure FieldAssignment extends IncidentAssignment where
  deadline : Instant
  status : AssignmentStatus
  deriving DecidableEq

instance : Keyed FieldAssignment (IncidentId × UserId) := ⟨fun a => (a.incident, a.agent)⟩

structure FieldDb where
  db : Db
  isStaff : UserId → Bool
  isPublic : IncidentId → Bool
  assignments : Table FieldAssignment

namespace FieldDb

def assignment? (s : FieldDb) (i : IncidentId) (pk : Nat) : Option FieldAssignment :=
  s.assignments.rows.find? fun a => decide (a.incident = i ∧ a.id = pk)

def freshId (s : FieldDb) : Nat := above (s.assignments.rows.map fun a => a.id)

end FieldDb

/-- `organisation_member` of the user a nullable foreign key points to. -/
def Db.membership? (db : Db) (u : Option UserId) : Option OrganisationId :=
  (db.user? u).bind User.organisationMember

/-! ## Who may manage, who may be sent -/

/-- `_can_manage_assignment`: staff and super admins; an admin or office agent
of the organisation that has reported the incident or has taken it, and of any
organisation when the incident is public and taken by nobody. -/
def FieldDb.canManageAssignment (s : FieldDb) (user : User) (incident : Incident) : Bool :=
  if s.isStaff user.id || user.isSuperuser then true
  else if user.orgRole ≠ some .orgAdmin ∧ user.orgRole ≠ some .bureauAgent then false
  else
    match user.organisationMember with
    | none => false
    | some org =>
      if s.db.membership? incident.userId = some org then true
      else if s.db.membership? incident.takenBy = some org then true
      else if s.isPublic incident.id && incident.takenBy.isNone then true
      else false

/-- `incident_owner_org`: the organisation of the reporter, else that of the taker. -/
def Db.ownerOrganisation (db : Db) (incident : Incident) : Option OrganisationId :=
  (db.membership? incident.userId).or (db.membership? incident.takenBy)

/-- The comparison of `validate`: the agent and the incident have organisations, and
these differ. -/
def Db.wrongOrganisation (db : Db) (agent : User) (incident : Incident) : Bool :=
  agent.organisationMember.any fun org =>
    (db.ownerOrganisation incident).any fun owner => decide (org ≠ owner)

/-! ## IncidentAssignmentSerializer -/

structure AssignmentData where
  incident : Arg IncidentId
  agent : Arg UserId
  deadline : Arg Instant
  status : Arg AssignmentStatus
  deriving DecidableEq

/-- A required field may be missing from a PATCH. -/
def leftOut {α : Type} (partialUpdate : Bool) (problem : Arg α → Option FieldProblem) :
    Arg α → Option FieldProblem
  | .absent => if partialUpdate then none else problem .absent
  | sent => problem sent

/-- The problem of a required reference to a user. Any user will do here; that
it is a field agent is for `validate` to see. -/
def agentFieldProblem (db : Db) : Arg UserId → Option FieldProblem
  | .absent => some .required
  | .null => some .null
  | .invalid => some .invalid
  | .value u => if (db.users.get? u).isSome then none else some .doesNotExist

/-- Incident and agent are looked up here, and what they have to do with each
other is checked by `validateAssignment` afterwards, on the rows. -/
def assignmentFieldErrors (partialUpdate : Bool) (db : Db) (data : AssignmentData) :
    List FieldError :=
  fieldErrors
    [("incident", leftOut partialUpdate (incidentFieldProblem db) data.incident),
      ("agent", leftOut partialUpdate (agentFieldProblem db) data.agent),
      ("deadline", leftOut partialUpdate requiredProblem data.deadline),
      ("status", defaultProblem data.status)]

/-- What `validate` looks at: the value that was sent, or that of the instance. -/
structure AssignmentValues where
  agent : Option User
  incident : Option Incident
  deadline : Option Instant

/-- What `validate` looks at: the values that were sent, over those of the row
to update. -/
def FieldDb.assignmentValues (s : FieldDb) (inst : Option FieldAssignment)
    (data : AssignmentData) : AssignmentValues where
  agent := (data.agent.toOption.or (inst.map fun a => a.agent)).bind s.db.users.get?
  incident := (data.incident.toOption.or (inst.map fun a => a.incident)).bind s.db.incidents.get?
  deadline := data.deadline.toOption.or (inst.map fun a => a.deadline)

/-- `IncidentAssignmentSerializer.validate`: the message it refuses with. -/
def validateAssignment (db : Db) (values : AssignmentValues) : Option String :=
  if values.deadline.isNone then some "La deadline est obligatoire."
  else if values.agent.any fun agent => decide (agent.orgRole ≠ some .fieldAgent) then
    some "L'utilisateur assigné doit être un agent de terrain."
  else if values.agent.any fun agent =>
      values.incident.any fun incident => db.wrongOrganisation agent incident then
    some "L'agent doit appartenir à l'organisation liée à l'incident."
  else none

/-- `UniqueTogetherValidator`: a row of the pair exists, apart from the instance. -/
def FieldDb.pairTaken (s : FieldDb) (inst : Option FieldAssignment) (i : IncidentId)
    (u : UserId) : Bool :=
  (s.assignments.get? (i, u)).isSome && decide (inst.map key ≠ some (i, u))

def FieldDb.storeAssignment (s : FieldDb) (inst : Option FieldAssignment)
    (row : FieldAssignment) : FieldDb :=
  { s with assignments := (inst.elim s.assignments fun a => s.assignments.erase (key a)).put row }

/-- `is_valid(raise_exception=True)` and `save()`. A foreign key that points nowhere
makes the access to the related object raise. -/
def FieldDb.saveAssignment (s : FieldDb) (partialUpdate : Bool) (inst : Option FieldAssignment)
    (assignedBy : Option UserId) (data : AssignmentData) :
    Except Response (FieldAssignment × FieldDb) :=
  let refused (problem : FieldProblem) : Except Response (FieldAssignment × FieldDb) :=
    .error (.invalid [{ field := "non_field_errors", problem := problem }])
  match assignmentFieldErrors partialUpdate s.db data with
  | [] =>
    let values := s.assignmentValues inst data
    if values.agent.any fun agent => values.incident.any fun incident =>
        s.pairTaken inst incident.id agent.id then refused .notUnique
    else
      match validateAssignment s.db values, values.agent, values.incident, values.deadline with
      | some message, _, _, _ => refused (.text message)
      | none, some agent, some incident, some deadline =>
        let row : FieldAssignment :=
          { id := inst.elim s.freshId fun a => a.id
            incident := incident.id, agent := agent.id, assignedBy := assignedBy
            deadline := deadline, status := data.status.over (inst.elim .pending (·.status)) }
        .ok (row, s.storeAssignment inst row)
      | none, _, _, _ => .error .crash
  | errors => .error (.invalid errors)

/-! ## The views -/

/-- `IncidentAssignmentListCreateView.create`: the incident is that of the URL. -/
def FieldDb.createAssignment (s : FieldDb) (auth : Option UserId) (i : IncidentId)
    (data : AssignmentData) : Except Response (FieldAssignment × FieldDb) :=
  match s.db.authenticated auth with
  | none => .error .unauthorized
  | some user =>
    match s.db.incidents.get? i with
    | none => .error (.error 404 incidentNotFound)
    | some incident =>
      if s.canManageAssignment user incident then
        s.saveAssignment false none (some user.id) { data with incident := .value incident.id }
      else
        .error (.error 403 "Vous n'avez pas les droits pour assigner cet incident à un agent.")

/-- `IncidentAssignmentDetailView`, PUT and PATCH. `get_object` looks at the incident
the assignment has before. -/
def FieldDb.updateAssignment (s : FieldDb) (auth : Option UserId) (i : IncidentId) (pk : Nat)
    (partialUpdate : Bool) (data : AssignmentData) : Except Response (FieldAssignment × FieldDb) :=
  match s.db.authenticated auth with
  | none => .error .unauthorized
  | some user =>
    match s.assignment? i pk with
    | none => .error (.error 404 "Not found.")
    | some inst =>
      match s.db.incidents.get? inst.incident with
      | none => .error .crash
      | some incident =>
        if s.canManageAssignment user incident then
          s.saveAssignment partialUpdate (some inst) inst.assignedBy data
        else .error (.error 403 "Droits insuffisants.")

inductive DispatchRequest where
  | create (i : IncidentId) (data : AssignmentData)
  | update (i : IncidentId) (pk : Nat) (partialUpdate : Bool) (data : AssignmentData)

def DispatchRequest.run (s : FieldDb) (auth : Option UserId) :
    DispatchRequest → Except Response (FieldAssignment × FieldDb)
  | create i data => s.createAssignment auth i data
  | update i pk partialUpdate data => s.updateAssignment auth i pk partialUpdate data

/-! ## What is stored -/

section Runs

variable {s : FieldDb} {auth : Option UserId} {user agent : User} {incident : Incident}
  {inst : Option FieldAssignment} {partialUpdate : Bool} {data : AssignmentData}

/-- The values name this agent and this incident, and nothing but the two checks on
the agent can refuse them. -/
structure FieldDb.Offers (s : FieldDb) (partialUpdate : Bool) (inst : Option FieldAssignment)
    (data : AssignmentData) (agent : User) (incident : Incident) : Prop where
  fields : assignmentFieldErrors partialUpdate s.db data = []
  who : (s.assignmentValues inst data).agent = some agent
  place : (s.assignmentValues inst data).incident = some incident
  dated : (s.assignmentValues inst data).deadline.isSome = true
  free : s.pairTaken inst incident.id agent.id = false

/-- The serializer's own check of the agent: the role, and the organisation if
the incident has an owner. Without an owner agents of any organisation pass. -/
def Db.admitsAgent (db : Db) (agent : User) (incident : Incident) : Prop :=
  agent.orgRole = some .fieldAgent ∧ db.wrongOrganisation agent incident = false

theorem validateAssignment_eq_none {values : AssignmentValues} :
    validateAssignment s.db values = none ↔ values.deadline.isSome = true ∧
      (∀ agent, values.agent = some agent → agent.orgRole = some .fieldAgent) ∧
        ∀ agent incident, values.agent = some agent → values.incident = some incident →
          s.db.wrongOrganisation agent incident = false := by
  unfold validateAssignment
  obtain ⟨agent, incident, deadline⟩ := values
  cases deadline with
  | none => simp
  | some deadline =>
      cases agent with
      | none => simp
      | some agent =>
          by_cases hrole : agent.orgRole = some .fieldAgent
          · cases incident <;> simp [hrole]
          · simp [hrole]

/-- A save stores what was offered, when the agent is admitted. -/
theorem saveAssignment_of_offers {assignedBy : Option UserId}
    (h : s.Offers partialUpdate inst data agent incident)
    (hadmits : s.db.admitsAgent agent incident) :
    ∃ row, s.saveAssignment partialUpdate inst assignedBy data =
        .ok (row, s.storeAssignment inst row) ∧
      row.agent = agent.id ∧ row.incident = incident.id := by
  obtain ⟨deadline, hdeadline⟩ := Option.isSome_iff_exists.mp h.dated
  have hvalid : validateAssignment s.db (s.assignmentValues inst data) = none := by
    refine validateAssignment_eq_none.mpr ⟨h.dated, fun _ hagent => ?_,
      fun _ _ hagent hincident => ?_⟩
    · rw [h.who] at hagent
      cases hagent
      exact hadmits.1
    · rw [h.who] at hagent
      rw [h.place] at hincident
      cases hagent
      cases hincident
      exact hadmits.2
  unfold FieldDb.saveAssignment
  simp only [h.fields, hvalid, h.who, h.place, hdeadline, Option.any_some, h.free,
    Bool.false_eq_true, if_false]
  exact ⟨_, rfl, rfl, rfl⟩

theorem offers_of_saveAssignment {assignedBy : Option UserId} {out : FieldAssignment × FieldDb}
    (h : s.saveAssignment partialUpdate inst assignedBy data = .ok out) :
    ∃ agent incident, s.Offers partialUpdate inst data agent incident ∧
      s.db.admitsAgent agent incident ∧ out.1.agent = agent.id ∧ out.1.incident = incident.id ∧
        out.2 = s.storeAssignment inst out.1 := by
  unfold FieldDb.saveAssignment at h
  dsimp only at h
  split at h
  · rename_i hfields
    split at h
    · cases h
    · rename_i hfree
      split at h
      · cases h
      · rename_i hvalid hagent hincident hdeadline
        cases h
        rw [hagent, hincident] at hfree
        obtain ⟨-, hrole, horg⟩ := validateAssignment_eq_none.mp hvalid
        exact ⟨_, _, ⟨hfields, hagent, hincident, by rw [hdeadline]; rfl,
          eq_false_of_ne_true hfree⟩, ⟨hrole _ hagent, horg _ _ hagent hincident⟩,
          rfl, rfl, rfl⟩
      · cases h
  · cases h

theorem FieldDb.Offers.stored (h : s.Offers partialUpdate inst data agent incident) :
    s.db.users.get? agent.id = some agent ∧ s.db.incidents.get? incident.id = some incident := by
  obtain ⟨u, -, hagent⟩ := Option.bind_eq_some_iff.mp h.who
  obtain ⟨i, -, hincident⟩ := Option.bind_eq_some_iff.mp h.place
  have hu : agent.id = u := Table.key_of_get? hagent
  have hi : incident.id = i := Table.key_of_get? hincident
  rw [hu, hi]
  exact ⟨hagent, hincident⟩

/-- The request is let through, and offers to send the agent to the incident. -/
def DispatchRequest.Sends (s : FieldDb) (user agent : User) (incident : Incident) :
    DispatchRequest → Prop
  | create i data => ∃ own, s.db.incidents.get? i = some own ∧
      s.canManageAssignment user own = true ∧
        s.Offers false none { data with incident := .value own.id } agent incident
  | update i pk partialUpdate data => ∃ inst own, s.assignment? i pk = some inst ∧
      s.db.incidents.get? inst.incident = some own ∧ s.canManageAssignment user own = true ∧
        s.Offers partialUpdate (some inst) data agent incident

theorem DispatchRequest.Sends.stored {request : DispatchRequest}
    (h : request.Sends s user agent incident) :
    s.db.users.get? agent.id = some agent ∧ s.db.incidents.get? incident.id = some incident := by
  cases request with
  | create i data =>
      obtain ⟨own, -, -, hoffers⟩ := h
      exact hoffers.stored
  | update i pk partialUpdate data =>
      obtain ⟨inst, own, -, -, -, hoffers⟩ := h
      exact hoffers.stored

/-- A request stores exactly the offers whose agent is admitted. -/
theorem dispatch_of_sends (request : DispatchRequest) (hauth : s.db.authenticated auth = some user)
    (h : request.Sends s user agent incident) (hadmits : s.db.admitsAgent agent incident) :
    ∃ out, request.run s auth = .ok out ∧ out.1.agent = agent.id ∧
      out.1.incident = incident.id := by
  cases request with
  | create i data =>
      obtain ⟨own, hown, hmanages, hoffers⟩ := h
      obtain ⟨row, hsave, hagent, hincident⟩ := saveAssignment_of_offers hoffers hadmits
      refine ⟨(row, s.storeAssignment none row), ?_, hagent, hincident⟩
      simp only [DispatchRequest.run, FieldDb.createAssignment, hauth, hown, hmanages, if_true]
      exact hsave
  | update i pk partialUpdate data =>
      obtain ⟨inst, own, hinst, hown, hmanages, hoffers⟩ := h
      obtain ⟨row, hsave, hagent, hincident⟩ := saveAssignment_of_offers hoffers hadmits
      refine ⟨(row, s.storeAssignment (some inst) row), ?_, hagent, hincident⟩
      simp only [DispatchRequest.run, FieldDb.updateAssignment, hauth, hinst, hown, hmanages,
        if_true]
      exact hsave

/-- Whatever one of the two endpoints has stored was sent by somebody who may
manage the assignments of an incident. The update asks it of the incident that
the row is about before it is changed, and not of the one that it is changed
to. -/
theorem sends_of_dispatch (request : DispatchRequest) {out : FieldAssignment × FieldDb}
    (hauth : s.db.authenticated auth = some user) (h : request.run s auth = .ok out) :
    ∃ agent incident, request.Sends s user agent incident ∧
      s.db.admitsAgent agent incident ∧ out.1.agent = agent.id ∧ out.1.incident = incident.id ∧
        out.2.assignments.get? (key out.1) = some out.1 := by
  cases request with
  | create i data =>
      simp only [DispatchRequest.run, FieldDb.createAssignment, hauth] at h
      split at h
      · cases h
      · rename_i own hown
        split at h
        · rename_i hmanages
          obtain ⟨agent, incident, hoffers, hadmits, hagent, hincident, hstore⟩ :=
            offers_of_saveAssignment h
          exact ⟨agent, incident, ⟨own, hown, hmanages, hoffers⟩, hadmits, hagent, hincident, by
            rw [hstore]
            exact (Table.get?_put ..).trans (if_pos rfl)⟩
        · cases h
  | update i pk partialUpdate data =>
      simp only [DispatchRequest.run, FieldDb.updateAssignment, hauth] at h
      split at h
      · cases h
      · rename_i inst hinst
        split at h
        · cases h
        · rename_i own hown
          split at h
          · rename_i hmanages
            obtain ⟨agent, incident, hoffers, hadmits, hagent, hincident, hstore⟩ :=
              offers_of_saveAssignment h
            exact ⟨agent, incident, ⟨inst, own, hinst, hown, hmanages, hoffers⟩, hadmits, hagent,
              hincident, by
                rw [hstore]
                exact (Table.get?_put ..).trans (if_pos rfl)⟩
          · cases h

/-! ## Managers and their agents -/

/-- The row sends a field agent of the user's own organisation to an incident whose
assignments the user may manage. -/
structure FieldDb.DispatchesOwn (s : FieldDb) (user : User) (row : FieldAssignment) : Prop where
  own : ∃ agent, s.db.users.get? row.agent = some agent ∧ agent.orgRole = some .fieldAgent ∧
    agent.organisationMember.isSome ∧ agent.organisationMember = user.organisationMember
  managed : ∃ incident, s.db.incidents.get? row.incident = some incident ∧
    s.canManageAssignment user incident = true

/-- The agent is of the user's organisation, the incident one the user may manage. -/
def FieldDb.OwnPlace (s : FieldDb) (user agent : User) (incident : Incident) : Prop :=
  agent.organisationMember = user.organisationMember ∧
    s.canManageAssignment user incident = true

theorem organisation_of_manages (hstaff : s.isStaff user.id = false)
    (hsuper : user.isSuperuser = false) (h : s.canManageAssignment user incident = true) :
    user.organisationMember.isSome = true := by
  unfold FieldDb.canManageAssignment at h
  rw [hstaff, hsuper] at h
  cases horg : user.organisationMember with
  | some org => rfl
  | none => simp [horg] at h

theorem dispatchesOwn_iff {row : FieldAssignment} (hstaff : s.isStaff user.id = false)
    (hsuper : user.isSuperuser = false) (hrole : agent.orgRole = some .fieldAgent)
    (hagent : s.db.users.get? row.agent = some agent)
    (hincident : s.db.incidents.get? row.incident = some incident) :
    s.DispatchesOwn user row ↔ s.OwnPlace user agent incident := by
  constructor
  · rintro ⟨⟨agent', hagent', -, -, horg⟩, ⟨incident', hincident', hmanages⟩⟩
    rw [hagent] at hagent'
    rw [hincident] at hincident'
    cases hagent'
    cases hincident'
    exact ⟨horg, hmanages⟩
  · rintro ⟨horg, hmanages⟩
    refine ⟨⟨agent, hagent, hrole, ?_, horg⟩, ⟨incident, hincident, hmanages⟩⟩
    rw [horg]
    exact organisation_of_manages hstaff hsuper hmanages

/-- A new assignment names its agent and its deadline. -/
structure AssignmentData.Names (data : AssignmentData) (agent : User) : Prop where
  agent : data.agent = .value agent.id
  deadline : ∃ deadline, data.deadline = .value deadline
  status : defaultProblem data.status = none

theorem AssignmentData.Names.offers_iff (h : data.Names agent) {assigned : User}
    {place : Incident} (hagent : s.db.users.get? agent.id = some agent)
    (hincident : s.db.incidents.get? incident.id = some incident) :
    s.Offers false none { data with incident := .value incident.id } assigned place ↔
      assigned = agent ∧ place = incident ∧ s.assignments.get? (incident.id, agent.id) = none := by
  obtain ⟨deadline, hdeadline⟩ := h.deadline
  have hvalues : s.assignmentValues none { data with incident := .value incident.id } =
      ⟨some agent, some incident, some deadline⟩ := by
    simp [FieldDb.assignmentValues, h.agent, hdeadline, Arg.toOption, hagent, hincident]
  constructor
  · intro hoffers
    have hwho := hoffers.who
    have hplace := hoffers.place
    rw [hvalues] at hwho hplace
    cases hwho
    cases hplace
    refine ⟨rfl, rfl, ?_⟩
    simpa [FieldDb.pairTaken] using hoffers.free
  · rintro ⟨rfl, rfl, hfree⟩
    refine ⟨?_, by rw [hvalues], by rw [hvalues], by rw [hvalues]; rfl, ?_⟩
    · simp [assignmentFieldErrors, fieldErrors, leftOut, incidentFieldProblem, agentFieldProblem,
        requiredProblem, h.agent, hdeadline, h.status, hagent, hincident]
    · simp [FieldDb.pairTaken, hfree]

theorem wrongOrganisation_eq_false (db : Db) (incident : Incident) {org : OrganisationId}
    (horg : agent.organisationMember = some org) :
    db.wrongOrganisation agent incident = false ↔
      ∀ owner, db.ownerOrganisation incident = some owner → owner = org := by
  unfold Db.wrongOrganisation
  rw [horg, Option.any_some]
  cases db.ownerOrganisation incident with
  | none => simp
  | some owner =>
      rw [Option.any_some, decide_eq_false_iff_not, not_not]
      constructor
      · rintro rfl _ hsome
        exact (Option.some.inj hsome).symm
      · exact fun h => (h owner rfl).symm

/-- What a manager stores is an own agent at an own place when the checks on the agent
refuse every other offer. -/
theorem dispatchesOwn_run_iff (hauth : s.db.authenticated auth = some user)
    (hstaff : s.isStaff user.id = false) (hsuper : user.isSuperuser = false)
    (request : DispatchRequest) :
    (∀ out, request.run s auth = .ok out → s.DispatchesOwn user out.1) ↔
      ∀ agent incident, request.Sends s user agent incident → s.db.admitsAgent agent incident →
        s.OwnPlace user agent incident := by
  constructor
  · intro h agent incident hsends hadmits
    obtain ⟨out, hrun, hagent, hincident⟩ := dispatch_of_sends request hauth hsends hadmits
    obtain ⟨hagent', hincident'⟩ := hsends.stored
    exact (dispatchesOwn_iff hstaff hsuper hadmits.1 (hagent ▸ hagent')
      (hincident ▸ hincident')).mp (h out hrun)
  · intro h out hrun
    obtain ⟨agent, incident, hsends, hadmits, hagent, hincident, -⟩ :=
      sends_of_dispatch request hauth hrun
    obtain ⟨hagent', hincident'⟩ := hsends.stored
    exact (dispatchesOwn_iff hstaff hsuper hadmits.1 (hagent ▸ hagent')
      (hincident ▸ hincident')).mpr (h agent incident hsends hadmits)

theorem AssignmentData.Names.sends_iff {data : AssignmentData} (h : data.Names agent)
    (hincident : s.db.incidents.get? incident.id = some incident)
    (hmanages : s.canManageAssignment user incident = true)
    (hagent : s.db.users.get? agent.id = some agent) {assigned : User} {place : Incident} :
    (DispatchRequest.create incident.id data).Sends s user assigned place ↔
      assigned = agent ∧ place = incident ∧ s.assignments.get? (incident.id, agent.id) = none := by
  rw [← h.offers_iff hagent hincident]
  constructor
  · rintro ⟨own, hown, -, hoffers⟩
    rw [hincident] at hown
    cases hown
    exact hoffers
  · exact fun hoffers => ⟨incident, hincident, hmanages, hoffers⟩

theorem own_agent_iff {data : AssignmentData} (hauth : s.db.authenticated auth = some user)
    (hstaff : s.isStaff user.id = false) (hsuper : user.isSuperuser = false)
    (hincident : s.db.incidents.get? incident.id = some incident)
    (hmanages : s.canManageAssignment user incident = true)
    (hagent : s.db.users.get? agent.id = some agent) (hrole : agent.orgRole = some .fieldAgent)
    (horg : agent.organisationMember = user.organisationMember) (hnames : data.Names agent) :
    (∃ out, s.createAssignment auth incident.id data = .ok out ∧ out.1.agent = agent.id ∧
        out.1.incident = incident.id) ↔
      (∀ owner, s.db.ownerOrganisation incident = some owner →
          user.organisationMember = some owner) ∧
        s.assignments.get? (incident.id, agent.id) = none := by
  obtain ⟨org, horg'⟩ :=
    Option.isSome_iff_exists.mp (organisation_of_manages hstaff hsuper hmanages)
  have howner := wrongOrganisation_eq_false s.db incident (horg.trans horg')
  constructor
  · rintro ⟨out, hrun, -, -⟩
    obtain ⟨assigned, place, hsent, hadmits, -⟩ :=
      sends_of_dispatch (.create incident.id data) hauth hrun
    obtain ⟨rfl, rfl, hfree⟩ := (hnames.sends_iff hincident hmanages hagent).mp hsent
    refine ⟨fun owner hsome => ?_, hfree⟩
    rw [horg', howner.mp hadmits.2 owner hsome]
  · rintro ⟨hsame, hfree⟩
    refine dispatch_of_sends (.create incident.id data) hauth
      ((hnames.sends_iff hincident hmanages hagent).mpr ⟨rfl, rfl, hfree⟩)
      ⟨hrole, howner.mpr fun owner hsome => ?_⟩
    have huser := hsame owner hsome
    rw [horg'] at huser
    exact (Option.some.inj huser).symm

/-- Everything a manager stores is an own agent at an own place exactly when the
checks on the agent refuse every other offer. And a new assignment of an own agent is
stored exactly when the incident has no owner organisation but the manager's, and the
pair is not taken. -/
theorem managers_dispatch_own_iff (s : FieldDb) (auth : Option UserId) (user : User)
    (hauth : s.db.authenticated auth = some user) (hstaff : s.isStaff user.id = false)
    (hsuper : user.isSuperuser = false) :
    (∀ request : DispatchRequest,
      (∀ out, request.run s auth = .ok out → s.DispatchesOwn user out.1) ↔
        ∀ agent incident, request.Sends s user agent incident → s.db.admitsAgent agent incident →
          s.OwnPlace user agent incident) ∧
    ∀ (incident : Incident) (agent : User) (data : AssignmentData),
      s.db.incidents.get? incident.id = some incident →
      s.canManageAssignment user incident = true →
      s.db.users.get? agent.id = some agent → agent.orgRole = some .fieldAgent →
      agent.organisationMember = user.organisationMember → data.Names agent →
        ((∃ out, s.createAssignment auth incident.id data = .ok out ∧ out.1.agent = agent.id ∧
            out.1.incident = incident.id) ↔
          (∀ owner, s.db.ownerOrganisation incident = some owner →
              user.organisationMember = some owner) ∧
            s.assignments.get? (incident.id, agent.id) = none) := by
  constructor
  · exact dispatchesOwn_run_iff hauth hstaff hsuper
  · intro incident agent data hincident hmanages hagent hrole horg hnames
    exact own_agent_iff hauth hstaff hsuper hincident hmanages hagent hrole horg hnames

end Runs

/-- Two organisations: the first one has an admin and a field agent, the second one an
admin and a field agent. Incident 1 is public, incident 2 is private and nobody's;
incident 3 is reported by the second organisation and taken by the first one. -/
def dispatchStore : FieldDb where
  db := { Db.start [{ id := 1, name := "Voirie" }, { id := 2, name := "Eau" }]
      [.member 2 "voirie@map.ml" .orgAdmin 1, .member 3 "agent@voirie.ml" .fieldAgent 1,
        .member 4 "agent@eau.ml" .fieldAgent 2, .member 5 "eau@map.ml" .orgAdmin 2]
      (.new 1 (some "Fuite") "Bamako" "01-02-2025") with
    incidents := ⟨[.new 1 (some "Fuite") "Bamako" "01-02-2025",
      .new 2 (some "Panne") "Kayes" "01-02-2025",
      { Incident.new 3 (some "Nid") "Ségou" "01-02-2025" with
        userId := some 5, takenBy := some 2 }], by decide⟩ }
  isStaff _ := false
  isPublic i := decide (i = 1)
  assignments := ⟨[{ id := 1, incident := 1, agent := 3, assignedBy := some 2
                     deadline := days 1, status := .pending }], List.nodup_singleton _⟩

def AssignmentData.to (agent : UserId) : AssignmentData :=
  { incident := .absent, agent := .value agent, deadline := .value (days 2), status := .absent }

theorem managers_dispatch_own_free :
    let s := { dispatchStore with assignments := Table.empty }
    ∃ out, s.createAssignment (some 2) 1 (.to 3) = .ok out ∧ out.1.agent = 3 ∧
      out.1.incident = 1 :=
  ((managers_dispatch_own_iff { dispatchStore with assignments := Table.empty } (some 2)
      (.member 2 "voirie@map.ml" .orgAdmin 1) (by decide) (by decide) (by decide)).2
    (.new 1 (some "Fuite") "Bamako" "01-02-2025") (.member 3 "agent@voirie.ml" .fieldAgent 1)
    (.to 3) (by decide) (by decide) (by decide) (by decide) (by decide)
    ⟨rfl, ⟨_, rfl⟩, rfl⟩).mpr ⟨by decide, by decide⟩

/-- The admin sends an agent of the other organisation to the public incident; moves an
assignment to an incident that the admin may not manage; and cannot send the own agent
to the incident the own organisation has taken. -/
theorem managers_dispatch_others :
    let s := dispatchStore
    let admin := User.member 2 "voirie@map.ml" .orgAdmin 1
    (∃ out, s.createAssignment (some 2) 1 (.to 4) = .ok out ∧ ¬ s.DispatchesOwn admin out.1) ∧
      (∃ out, s.updateAssignment (some 2) 1 1 true
          { incident := .value 2, agent := .absent, deadline := .absent, status := .absent } =
            .ok out ∧ ¬ s.DispatchesOwn admin out.1) ∧
        (∃ incident, s.db.incidents.get? 3 = some incident ∧
          s.canManageAssignment admin incident = true) ∧
          ∀ out, s.createAssignment (some 2) 3 (.to 3) ≠ .ok out := by
  refine ⟨⟨_, rfl, ?_⟩, ⟨_, rfl, ?_⟩, ⟨_, rfl, by decide⟩, ?_⟩
  · rintro ⟨⟨agent, hagent, -, -, horg⟩, -⟩
    cases hagent
    revert horg
    decide
  · rintro ⟨-, ⟨incident, hincident, hmanages⟩⟩
    cases hincident
    revert hmanages
    decide
  · intro out h
    cases h

end Mapapi
