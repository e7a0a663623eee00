import Mapapi.Lib.Runs
import Mapapi.TakeInCharge
import Mapapi.Collaborations
import Mapapi.Participation
import Mapapi.Tasks

/-!
# Runs of the server

An operation is a request to one of the modelled endpoints, by whoever its
token says, or a run of one of the Celery tasks. An event is an operation at
an instant; a run is a list of events, one after the other. The requests of a
run may come from anybody, in any order, and be refused.

What the server guarantees is stated over these runs, from a fresh store. A
run has no order of its own: nothing says that an incident is taken before it
is closed, or that the token of a request belongs to a user at all. So an
invariant of runs is an invariant under every request at every point, and the
guards of the endpoints are the only hypotheses.
-/

namespace Mapapi

open Lib

/-- The operations of a run: requests to the endpoints of the life cycle, each
with the token and the whole body it comes with, and the four periodic tasks. -/
inductive Op where
  | takeInCharge (auth : Option UserId) (i : IncidentId) (mode : Choice TakeInChargeMode)
      (role : Choice CollabRole)
  | handleIncident (auth : Option UserId) (i : IncidentId) (action : Option HandleAction)
  | closeIncident (auth : Option UserId) (i : IncidentId) (startDate endDate : Arg Date)
  | prepareResolution (auth : Option UserId) (i : IncidentId)
  | returnForCompletion (auth : Option UserId) (i : IncidentId)
  | declareResolved (auth : Option UserId) (i : IncidentId)
  | disengage (auth : Option UserId) (i : IncidentId)
  | validateResolution (auth : Option UserId) (i : IncidentId)
  | rejectResolution (auth : Option UserId) (i : IncidentId) (motif : Choice String)
  | assignToOrganisation (auth : Option UserId) (i : IncidentId) (organisationId : RawId)
  | acceptOrgAssignment (auth : Option UserId) (pk : OrgAssignmentId)
  | declineOrgAssignment (auth : Option UserId) (pk : OrgAssignmentId) (reason : Choice String)
  | requestCollaboration (auth : Option UserId) (data : CollaborationData)
  | bulkRequest (auth : Option UserId) (requests : Option (List BulkItem))
  | handleCollaboration (auth : Option UserId) (id : CollaborationId)
      (action : Option HandleCollaborationAction)
  | acceptCollaboration (auth : Option UserId) (id : RawId)
  | declineCollaboration (auth : Option UserId) (id : RawId)
  | acceptSuggestion (auth : Option UserId) (i : IncidentId) (pk : SuggestionId)
  | rejectSuggestion (auth : Option UserId) (i : IncidentId) (pk : SuggestionId)
  | readDiscussion (auth : Option UserId) (i : IncidentId)
  | postDiscussion (auth : Option UserId) (i : IncidentId) (data : DiscussionData)
  | autoValidateOverdueResolutions
  | revertStaleTakenIncidents
  | purgeExpiredTrash
  | autoAcceptOverdueAssignments

def Op.effect (now : Instant) (db : Db) : Op → Db
  | takeInCharge auth i mode role => ((Mapapi.takeInCharge now auth i mode role).run db).2
  | handleIncident auth i action => ((Mapapi.handleIncident auth i action).run db).2
  | closeIncident auth i start stop => ((Mapapi.closeIncident auth i start stop).run db).2
  | prepareResolution auth i => ((Mapapi.prepareResolution now auth i).run db).2
  | returnForCompletion auth i => ((Mapapi.returnForCompletion auth i).run db).2
  | declareResolved auth i => ((Mapapi.declareResolved now auth i).run db).2
  | disengage auth i => ((Mapapi.disengage auth i).run db).2
  | validateResolution auth i => ((Mapapi.validateResolution auth i).run db).2
  | rejectResolution auth i motif => ((Mapapi.rejectResolution auth i motif).run db).2
  | assignToOrganisation auth i org => ((Mapapi.assignToOrganisation now auth i org).run db).2
  | acceptOrgAssignment auth pk => ((Mapapi.acceptOrgAssignment now auth pk).run db).2
  | declineOrgAssignment auth pk reason =>
    ((Mapapi.declineOrgAssignment now auth pk reason).run db).2
  | requestCollaboration auth data => ((Mapapi.requestCollaboration now auth data).run db).2
  | bulkRequest auth requests => ((Mapapi.bulkRequest now auth requests).run db).2
  | handleCollaboration auth id action =>
    ((Mapapi.handleCollaboration auth id action).run db).2
  | acceptCollaboration auth id => ((Mapapi.acceptCollaboration now auth id).run db).2
  | declineCollaboration auth id => ((Mapapi.declineCollaboration auth id).run db).2
  | acceptSuggestion auth i pk => ((Mapapi.acceptSuggestion auth i pk).run db).2
  | rejectSuggestion auth i pk => ((Mapapi.rejectSuggestion auth i pk).run db).2
  | readDiscussion auth i => ((Mapapi.readDiscussion auth i).run db).2
  | postDiscussion auth i data => ((Mapapi.postDiscussion auth i data).run db).2
  | autoValidateOverdueResolutions => ((Mapapi.autoValidateOverdueResolutions now).run db).2
  | revertStaleTakenIncidents => ((Mapapi.revertStaleTakenIncidents now).run db).2
  | purgeExpiredTrash => ((Mapapi.purgeExpiredTrash now).run db).2
  | autoAcceptOverdueAssignments => ((Mapapi.autoAcceptOverdueAssignments now).run db).2

/-- An operation, and when it runs. In a run the instants need not increase:
nothing is assumed about the clocks. -/
structure Event where
  now : Instant
  op : Op

/-- The system taking one step. Requests are whole steps here; their
interleavings are in the modules on schedules. -/
def Db.step (db : Db) (event : Event) : Db := event.op.effect event.now db

def Db.exec (db : Db) (events : List Event) : Db := Lib.exec Db.step db events

/-- An incident waits for one organisation at a time.
`AssignIncidentToOrganisationView` checks it before it assigns, so it holds in
every run that it holds at the start of. -/
def Db.OneWaiting (db : Db) : Prop :=
  ∀ a ∈ db.orgAssignments.rows, ∀ b ∈ db.orgAssignments.rows,
    a.incident = b.incident → a.status = .pending → b.status = .pending → a = b

/-- A store as runs start from it: incidents nobody has engaged yet, without
collaborations. Users, organisations, suggestions and pending assignments are
arbitrary, except that an incident waits for one organisation at a time. -/
structure Db.Fresh (db : Db) : Prop where
  declared : ∀ i incident, db.incidents.get? i = some incident →
    incident.etat = .declared ∧ incident.takenBy = none ∧ incident.takeInChargeMode = none ∧
      incident.takenInChargeAt = none ∧ incident.antigelWarned75 = false ∧
      incident.antigelWarned90 = false ∧ incident.validationDeadline = none
  alone : ∀ i u, db.collaboration? i u = none
  oneWaiting : db.OneWaiting

/-! ## Starting -/

/-- A new incident: what the client gives, and the defaults of the other
columns (of `severity` the medium one). -/
def Incident.new (id : IncidentId) (title : Option String) (zone createdOn : String) : Incident :=
  { id := id, title := title, zone := zone, createdOn := createdOn, etat := .declared
    takenBy := none, takeInChargeMode := none, takenInChargeAt := none, severity := some .medium
    antigelWarned75 := false, antigelWarned90 := false, progress := 0
    resolutionStartDate := none, resolutionEndDate := none, resolutionSubmittedBy := none
    resolutionSubmittedAt := none, validationDeadline := none, rejectionReason := none
    isDeleted := false, deletedAt := none }

def User.superAdmin (id : UserId) (email : String) : User :=
  { id := id, email := email, isActive := true, isSuperuser := true, orgRole := none
    organisationMember := none, organisation := none }

def User.member (id : UserId) (email : String) (role : OrgRole)
    (organisation : OrganisationId) : User :=
  { id := id, email := email, isActive := true, isSuperuser := false, orgRole := some role
    organisationMember := some organisation, organisation := none }

def Db.start (organisations : List Organisation) (users : List User) (incident : Incident)
    (horganisations : decide (organisations.map key).Nodup = true := by exact Eq.refl true)
    (husers : decide (users.map key).Nodup = true := by exact Eq.refl true) : Db :=
  { organisations := ⟨organisations, of_decide_eq_true horganisations⟩
    users := ⟨users, of_decide_eq_true husers⟩
    incidents := ⟨[incident], List.nodup_singleton _⟩
    tasks := Table.empty, collaborations := Table.empty, orgAssignments := Table.empty
    partnerSuggestions := Table.empty, notifications := [], userActions := []
    discussionMessages := [] }

theorem Db.start_fresh {organisations : List Organisation} {users : List User} {id : IncidentId}
    {title : Option String} {zone createdOn : String}
    (horganisations : decide (organisations.map key).Nodup = true)
    (husers : decide (users.map key).Nodup = true) :
    (Db.start organisations users (.new id title zone createdOn) horganisations husers).Fresh where
  declared i incident h := by
    obtain ⟨hmem, -⟩ := Table.get?_eq_some.mp h
    obtain rfl := List.mem_singleton.mp hmem
    exact ⟨rfl, rfl, rfl, rfl, rfl, rfl, rfl⟩
  alone _ _ := rfl
  oneWaiting _ ha := by cases ha

def Db.waitingFor (db : Db) (assignment : IncidentOrgAssignment) : Db :=
  { db with orgAssignments := ⟨[assignment], List.nodup_singleton _⟩ }

theorem Db.Fresh.waitingFor {db : Db} (h : db.Fresh) (assignment : IncidentOrgAssignment) :
    (db.waitingFor assignment).Fresh where
  declared := h.declared
  alone := h.alone
  oneWaiting a ha b hb _ _ _ := by
    rw [List.mem_singleton.mp ha, List.mem_singleton.mp hb]

end Mapapi
