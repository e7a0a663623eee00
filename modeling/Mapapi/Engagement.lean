import Mathlib.Logic.Function.Basic
import Mapapi.Server

/-!
# The engagement of an incident

What all the endpoints and tasks are about, seen from one incident: its state,
who has taken it and since when, the anti-gel flags, and the seat (role and
status) of every user. `Engagement` is that view, and `Move` lists everything
an operation can do to it, with the guards the operation has checked. The
store only enters through the guards.

`Refinement.lean` proves that every operation of the server acts on every
incident by a `Move`; the laws about runs are proved on moves.

A move says what the operation checked as well as what it did, since the laws
need both: that nobody leads a declared incident rests on what the moves do,
that only a super admin validates a resolution on what they have checked. The
guards speak of the store before the operation, so a law may speak of the
users and organisations of any state of the run.
-/

namespace Mapapi

open Lib

/-- An incident as the life cycle sees it: the columns of the engagement and
of its resolution, and a seat, or none, for every user. -/
structure Engagement where
  etat : Etat
  takenBy : Option UserId
  mode : Option TakeInChargeMode
  since : Option Instant
  warned75 : Bool
  warned90 : Bool
  validationDeadline : Option Instant
  seat : UserId → Option Seat

/-! ## From the store -/

/-- The abstraction: the columns of a row that say who is responsible for the
incident and until when, with the seats of its collaborations. All the rest of
the row is forgotten. -/
def Incident.engagement (incident : Incident) (seat : UserId → Option Seat) : Engagement :=
  { etat := incident.etat
    takenBy := incident.takenBy
    mode := incident.takeInChargeMode
    since := incident.takenInChargeAt
    warned75 := incident.antigelWarned75
    warned90 := incident.antigelWarned90
    validationDeadline := incident.validationDeadline
    seat := seat }

def Db.engagement? (db : Db) (i : IncidentId) : Option Engagement :=
  (db.incidents.get? i).map fun incident => incident.engagement (db.seats i)

namespace Engagement

/-! ## Effects -/

variable (e : Engagement)

/-- One seat is filled or freed. Inserting, accepting and deleting a row are
all of this form. -/
def setSeat (u : UserId) (s : Option Seat) : Engagement :=
  { e with seat := Function.update e.seat u s }

/-- Every seat that is taken changes by itself, as with `QuerySet.update`;
empty ones stay empty. -/
def mapSeats (f : UserId → Seat → Seat) : Engagement :=
  { e with seat := fun u => (e.seat u).map (f u) }

/-- `u` engages the incident at `now`: the anti-gel timer starts. -/
def engagedBy (u : UserId) (now : Instant) : Engagement :=
  { e with etat := .taken, takenBy := some u, since := some now, warned75 := false,
           warned90 := false }

/-- Nobody answered in time: the incident is engaged for `leader`, if there is
one. The flags keep their values. -/
def engagedTacitly (leader : Option UserId) (now : Instant) : Engagement :=
  { e with etat := .taken, takenBy := leader, since := some now }

def takenInternally (u : UserId) (now : Instant) : Engagement :=
  { e.engagedBy u now with
    mode := some .internal
    seat := Function.update e.seat u ((e.seat u).or (some Seat.leader)) }

/-- `u` takes the lead; only a declared incident starts a new engagement. The
contributors accepted before wait for `u` to validate them. -/
def ledBy (u : UserId) (now : Instant) : Engagement where
  etat := if e.etat = .declared then .taken else e.etat
  takenBy := some u
  mode := some .collaborative
  since := if e.etat = .declared then some now else e.since
  warned75 := if e.etat = .declared then false else e.warned75
  warned90 := if e.etat = .declared then false else e.warned90
  validationDeadline := e.validationDeadline
  seat v := if v = u then some Seat.leader else (e.seat v).map (Seat.reset u v)

def joinStatus (role : CollabRole) : CollabStatus :=
  if role = .observer then .accepted else if e.takenBy = none then .accepted else .pending

def requestStatus (role : Option CollabRole) : CollabStatus :=
  if e.mode = some .internal then .pending
  else if role = some .observer then .accepted
  else if role = some .contributor then if e.takenBy = none then .accepted else .pending
  else .pending

/-- The incident is open to several organisations, if nothing else was chosen. -/
def opened : Engagement :=
  { e with mode := e.mode.or (some .collaborative) }

/-- `u` asks to collaborate; the receivers may take the row away again. An
accepted request opens the incident. -/
def requested (u : UserId) (role : Option CollabRole) (kept : Bool) : Engagement :=
  { e.setSeat u (if kept then some ⟨role.getD .contributor, e.requestStatus role⟩ else none) with
    mode := if e.requestStatus role = .accepted then e.mode.or (some .collaborative) else e.mode }

/-- The seat of `u` is accepted; somebody without a seat leads. -/
def seated (u : UserId) : Engagement :=
  e.setSeat u (some (Seat.admitted (e.seat u)))

/-- Accepting somebody on an internal incident opens it to others. -/
def sharedOut : Engagement :=
  { e with mode := if e.mode = some .internal then some .collaborative else e.mode }

def withStatus (u : UserId) (status : CollabStatus) : Engagement :=
  e.setSeat u ((e.seat u).map fun s => { s with status := status })

def terminated : Engagement :=
  e.mapSeats fun _ => Seat.terminate

/-- A leader leaves: that seat is ended, and the others stay. -/
def left (u : UserId) : Engagement :=
  e.mapSeats (Seat.leave u)

def leadOffered (u : UserId) : Engagement :=
  e.mapSeats (Seat.offerLead u)

/-- Nobody has taken the incident any more; the flags keep their values. -/
def released : Engagement := { e with takenBy := none, mode := none, since := none }

def reverted : Engagement :=
  { e.released with etat := .declared, warned75 := false, warned90 := false }

/-! ## What an effect leaves -/

theorem setSeat_seat (u v : UserId) (s : Option Seat) :
    (e.setSeat u s).seat v = if v = u then s else e.seat v :=
  Function.update_apply ..

/-- Taking the lead leads to no other state than `taken_into_account`. -/
theorem etat_of_ledBy {u : UserId} {now : Instant} {etat : Etat} (htaken : etat ≠ .taken)
    (h : (e.ledBy u now).etat = etat) : e.etat = etat := by
  unfold ledBy at h
  dsimp only at h
  split at h
  · exact absurd h.symm htaken
  · exact h

/-! ## Guards -/

/-- The leader permission of a user that is not a super admin. -/
def Leads (u : UserId) : Prop := e.takenBy = some u ∨ e.seat u = some Seat.leader

def OtherContributor (u : UserId) : Prop :=
  ∃ v, v ≠ u ∧ e.seat v = some { role := .contributor, status := .accepted }

end Engagement

/-- A request that answers the collaboration request `c`, known as `id`,
positively. One of the two endpoints looks at the row. -/
def Op.Accepts (now : Instant) (auth : Option UserId) (id : CollaborationId) (c : Collaboration)
    (op : Op) : Prop :=
  op = .handleCollaboration auth id (some .accept) ∨
    op = .acceptCollaboration auth (.uuid id) ∧ c.status ≠ .accepted ∧ c.expired now = false

def Op.Declines (auth : Option UserId) (id : CollaborationId) (op : Op) : Prop :=
  op = .handleCollaboration auth id (some .reject) ∨
    op = .declineCollaboration auth (.uuid id)

/-- Reading counts, since the view creates the seat on its way. Posting does
too, unless the body is refused before. -/
def Op.Discusses (auth : Option UserId) (i : IncidentId) (op : Op) : Prop :=
  op = .readDiscussion auth i ∨
    ∃ data, discussionErrors data = [] ∧ op = .postDiscussion auth i data

/-! ## Moves -/

open Engagement in
/-- What an operation that runs at `now` in the store `db` can do to the
engagement `e` of the incident `i`. There is one constructor for each way out
of a view that writes, and `stay` for all the ways that do not. -/
inductive Move (db : Db) (now : Instant) (i : IncidentId) (e : Engagement) :
    Op → Engagement → Prop where
  /-- Every operation may leave the incident alone: refused, or about others. -/
  | stay {op} : Move db now i e op e
  | takeInternal {auth role user} (hauth : db.authenticated auth = some user)
      (hadmin : isOrgAdmin user = true) (hfree : e.takenBy = none) (hmode : e.mode = none)
      (hetat : e.etat = .declared) :
      Move db now i e (.takeInCharge auth i (.one .internal) role)
        (e.takenInternally user.id now)
  | takeLead {auth user} (hauth : db.authenticated auth = some user)
      (hadmin : isOrgAdmin user = true) (hetat : e.etat ≠ .resolved)
      (hmode : e.mode ≠ some .internal) (hseat : e.seat user.id = none)
      (hfree : e.takenBy = none) :
      Move db now i e (.takeInCharge auth i (.one .collaborative) (.one .leader))
        (e.ledBy user.id now)
  /-- Joining: the receivers may take the new row away again. -/
  | join {auth user role} (hauth : db.authenticated auth = some user)
      (hadmin : isOrgAdmin user = true) (hetat : e.etat ≠ .resolved)
      (hmode : e.mode ≠ some .internal) (hseat : e.seat user.id = none)
      (hrole : role ≠ .leader) :
      Move db now i e (.takeInCharge auth i (.one .collaborative) (.one role))
        (e.setSeat user.id (if db.receives e.takenBy user.id role then
          some ⟨role, e.joinStatus role⟩ else none)).opened
  | request {auth user data valid role} (hauth : db.authenticated auth = some user)
      (hoperative : isOrgOperative user = true)
      (hvalid : collaborationIsValid now data db = .ok valid)
      (hincident : valid.incident.id = i) (hrole : valid.role = role)
      (hleader : role ≠ some .leader) (hetat : e.etat ≠ .resolved)
      (hseat : ∀ s, e.seat user.id = some s → s.status ≠ .pending ∧ s.status ≠ .accepted) :
      Move db now i e (.requestCollaboration auth data)
        (e.requested user.id role (db.receives e.takenBy user.id (role.getD .contributor)))
  | bulk {auth user requests role} (hauth : db.authenticated auth = some user)
      (hadmin : isOrgAdmin user = true) (hrole : role ≠ .leader) (hetat : e.etat ≠ .resolved)
      (hseat : e.seat user.id = none) (hkept : db.receives e.takenBy user.id role = true) :
      Move db now i e (.bulkRequest auth requests)
        (e.setSeat user.id (some ⟨role, .pending⟩))
  | accept {op auth user id c} (hop : op.Accepts now auth id c)
      (hauth : db.authenticated auth = some user) (hadmin : isOrgAdmin user = true)
      (hrow : db.collaborationById? id = some c) (hincident : c.incident = i)
      (hseat : e.seat c.user = some c.seat) (hleads : e.Leads user.id) :
      Move db now i e op (e.withStatus c.user .accepted).sharedOut
  | decline {op auth user id c} (hop : op.Declines auth id)
      (hauth : db.authenticated auth = some user) (hadmin : isOrgAdmin user = true)
      (hrow : db.collaborationById? id = some c) (hincident : c.incident = i)
      (hseat : e.seat c.user = some c.seat) (hleads : e.Leads user.id) :
      Move db now i e op (e.withStatus c.user .declined)
  | acceptSuggestion {auth user pk suggestion} (hauth : db.authenticated auth = some user)
      (hleads : isSuperAdmin user = true ∨ e.Leads user.id)
      (hsuggestion : db.partnerSuggestions.get? pk = some suggestion)
      (habout : suggestion.incident = i) (hpending : suggestion.status = .pending) :
      Move db now i e (.acceptSuggestion auth i pk)
        (e.setSeat suggestion.suggestedPartner (suggestedSeat db suggestion))
  | discussInternally {op auth user owner organisation} (hop : op.Discusses auth i)
      (hauth : db.authenticated auth = some user) (hsuper : isSuperAdmin user = false)
      (hmode : e.mode = some .internal) (howner : db.user? e.takenBy = some owner)
      (horganisation : owner.organisationMember = some organisation)
      (hmember : user.organisationMember = some organisation) :
      Move db now i e op (e.seated user.id)
  | discussAsTaker {op auth user} (hop : op.Discusses auth i)
      (hauth : db.authenticated auth = some user) (hsuper : isSuperAdmin user = false)
      (hmode : e.mode ≠ some .internal) (htaken : e.takenBy = some user.id) :
      Move db now i e op (e.seated user.id)
  | handleTaken {auth user} (hauth : db.authenticated auth = some user)
      (hetat : e.etat = .declared) :
      Move db now i e (.handleIncident auth i (some .takenIntoAccount))
        { e with etat := .taken, takenBy := some user.id }
  | handleResolved {auth user} (hauth : db.authenticated auth = some user)
      (hetat : e.etat = .taken) :
      Move db now i e (.handleIncident auth i (some .resolved)) { e with etat := .resolved }
  | engage {auth user pk assignment} (hauth : db.authenticated auth = some user)
      (hadmin : isOrgAdmin user = true)
      (hassignment : db.orgAssignments.get? pk = some assignment)
      (hincident : assignment.incident = i) (hpending : assignment.status = .pending)
      (hmember : user.organisationMember = some assignment.organisation)
      (hetat : e.etat = .declared) :
      Move db now i e (.acceptOrgAssignment auth pk) (e.engagedBy user.id now)
  | tacit {assignment} (hassignment : assignment ∈ db.orgAssignments.rows)
      (hincident : assignment.incident = i) (hpending : assignment.status = .pending)
      (hoverdue : assignment.deadline < now) (hetat : e.etat = .declared) :
      Move db now i e .autoAcceptOverdueAssignments
        (e.engagedTacitly ((firstByPk (db.adminsOf assignment.organisation)).map User.id) now)
  | prepare {auth user} (hauth : db.authenticated auth = some user)
      (hoperative : isOrgOperative user = true) (hetat : e.etat = .taken) :
      Move db now i e (.prepareResolution auth i) { e with etat := .resolutionPrepared }
  | returnBack {auth user} (hauth : db.authenticated auth = some user)
      (hadmin : isOrgAdmin user = true) (hetat : e.etat = .resolutionPrepared) :
      Move db now i e (.returnForCompletion auth i) { e with etat := .taken }
  | declareResolved {auth user} (hauth : db.authenticated auth = some user)
      (hadmin : isOrgAdmin user = true)
      (hetat : e.etat = .taken ∨ e.etat = .resolutionPrepared) :
      Move db now i e (.declareResolved auth i)
        { e with etat := .inValidation, validationDeadline := some (now + hours 72) }
  | validate {auth user} (hauth : db.authenticated auth = some user)
      (hsuper : isSuperAdmin user = true) (hetat : e.etat = .inValidation) :
      Move db now i e (.validateResolution auth i)
        { e.terminated with etat := .resolvedDefinitive }
  | autoValidate {deadline} (hetat : e.etat = .inValidation)
      (hdeadline : e.validationDeadline = some deadline) (hoverdue : deadline < now) :
      Move db now i e .autoValidateOverdueResolutions
        { e.terminated with etat := .resolvedDefinitive }
  | reject {auth user motif} (hauth : db.authenticated auth = some user)
      (hsuper : isSuperAdmin user = true) (hetat : e.etat = .inValidation) :
      Move db now i e (.rejectResolution auth i (.one motif)) { e with etat := .taken }
  | disengageOffered {auth user} (hauth : db.authenticated auth = some user)
      (hadmin : isOrgAdmin user = true) (hleads : e.Leads user.id) (hetat : e.etat = .taken)
      (hother : e.OtherContributor user.id) :
      Move db now i e (.disengage auth i)
        ((e.left user.id).leadOffered user.id).released
  | disengageAlone {auth user} (hauth : db.authenticated auth = some user)
      (hadmin : isOrgAdmin user = true) (hleads : e.Leads user.id) (hetat : e.etat = .taken)
      (halone : ¬ e.OtherContributor user.id) :
      Move db now i e (.disengage auth i)
        { ((e.left user.id).terminated).released with etat := .declared }
  | revert {incident since} (hincident : db.incidents.get? i = some incident)
      (hetat : e.etat = .taken) (hsince : e.since = some since)
      (hverdict : antigelVerdict now since incident = .revert) :
      Move db now i e .revertStaleTakenIncidents e.reverted
  | warn {since} (warned75 warned90 : Bool) (hetat : e.etat = .taken)
      (hsince : e.since = some since) :
      Move db now i e .revertStaleTakenIncidents
        { e with warned75 := warned75, warned90 := warned90 }
  | close {auth user start stop} (hauth : db.authenticated auth = some user)
      (hadmin : isOrgAdmin user = true) (hleads : e.Leads user.id)
      (hetat : e.etat ≠ .resolved) (htasks : db.openTasks i = []) :
      Move db now i e (.closeIncident auth i (.value start) (.value stop))
        { e with etat := .resolved }

end Mapapi
