import Mapapi.Lib.Table

/-!
# The stored data

The rows of `models.py` that incidents, collaborations and assignments are
made of, and the store `Db` they live in. A row carries the columns that the
modelled code reads or writes; media files, geography and the other purely
descriptive columns are left out.

- An enumeration of the source (`ETAT_INCIDENT`, `COLLAB_ROLES`, ...) is an
  inductive type; `value` gives the stored text where a message prints it.
- An id (a UUID in the source) is a number, a nullable column an `Option`.
- `unique_together = (incident, user)` makes the pair the key of the
  collaboration table, so two rows of one pair cannot be stored. The `id` by
  which endpoints address a row is an ordinary column of it.
-/

namespace Mapapi

open Lib

/-! ## Time

An instant counts microseconds, as Python's `datetime` does, so that the
deadlines of the source (`timedelta(days=n)`, `timedelta(hours=n)`) are exact
and comparing instants is comparing numbers. -/

/-- Microseconds since the epoch, UTC. The server runs with `USE_TZ`, so no
stored instant is local. -/
abbrev Instant := Int

def days (n : Int) : Int := n * 86400000000

def hours (n : Int) : Int := n * 3600000000

/-- A `DateField`: days since the epoch. -/
abbrev Date := Int

/-- `timezone.now().date()`. -/
def Instant.date (t : Instant) : Date := t / days 1

/-! ## Identifiers -/

abbrev OrganisationId := Nat
abbrev UserId := Nat
abbrev IncidentId := Nat
abbrev TaskId := Nat
abbrev CollaborationId := Nat
abbrev OrgAssignmentId := Nat
abbrev SuggestionId := Nat

/-! ## Enumerations

The types carry the names of the lists of choices in `models.py`. Django does
not check choices when a row is saved: where the code stores a text that a
client has sent, the serializer has checked it, and where the column can hold
other texts the type says so. -/

/-- `ETAT_INCIDENT`. `resolved` and `in_progress` are the legacy states; the
resolution workflow ends in `resolved_definitive` and knows neither. -/
inductive Etat where
  | declared
  | resolved
  | inProgress
  | taken
  | resolutionPrepared
  | inValidation
  | resolvedDefinitive
  deriving DecidableEq

def Etat.value : Etat → String
  | declared => "declared"
  | resolved => "resolved"
  | inProgress => "in_progress"
  | taken => "taken_into_account"
  | resolutionPrepared => "resolution_prepared"
  | inValidation => "in_validation"
  | resolvedDefinitive => "resolved_definitive"

/-- `SEVERITY_CHOICES`; the column accepts any text, so a value outside the
choices is kept. -/
inductive Severity where
  | high
  | medium
  | low
  | unknown (value : String)
  deriving DecidableEq

inductive TakeInChargeMode where
  | internal
  | collaborative
  deriving DecidableEq

inductive CollabRole where
  | leader
  | contributor
  | observer
  deriving DecidableEq

/-- `COLLAB_STATUSES`. An accepted row becomes `terminated` when the incident
is validated or given up. -/
inductive CollabStatus where
  | pending
  | accepted
  | declined
  | terminated
  | refused
  deriving DecidableEq

inductive OrgRole where
  | orgAdmin
  | bureauAgent
  | fieldAgent
  deriving DecidableEq

inductive TaskState where
  | pending
  | inProgress
  | done
  | failed
  deriving DecidableEq

inductive OrgAssignmentStatus where
  | pending
  | accepted
  | declined
  deriving DecidableEq

inductive SuggestionStatus where
  | pending
  | accepted
  | rejected
  deriving DecidableEq

def SuggestionStatus.value : SuggestionStatus → String
  | pending => "pending"
  | accepted => "accepted"
  | rejected => "rejected"

/-- `SUGGESTION_ROLES`: a suggestion never proposes the leader role. -/
inductive SuggestionRole where
  | contributor
  | observer
  deriving DecidableEq

def SuggestionRole.toCollabRole : SuggestionRole → CollabRole
  | contributor => .contributor
  | observer => .observer

inductive NotifType where
  | collaborationRequest
  | collaborationDeclined
  | deadlineWarning
  | incidentAssignment
  deriving DecidableEq

/-! ## Rows -/

structure Organisation where
  id : OrganisationId
  name : String
  deriving DecidableEq

/-- A user. The role inside the organisation is `org_role`, the organisation
`organisation_member`; what a user may do is decided by these and by
`is_superuser`. -/
structure User where
  id : UserId
  email : String
  isActive : Bool
  isSuperuser : Bool
  orgRole : Option OrgRole
  organisationMember : Option OrganisationId
  /-- The legacy free-text `organisation` column. -/
  organisation : Option String
  deriving DecidableEq

/-- An incident. The engagement is in the columns from `taken_by` to the
anti-gel flags, the resolution in those from `resolution_start_date` on, and
the trash in the last two. -/
structure Incident where
  id : IncidentId
  /-- The user who has reported the incident. -/
  userId : Option UserId := none
  title : Option String
  zone : String
  /-- `created_at` as messages print it (`%d-%m-%Y`). -/
  createdOn : String
  etat : Etat
  takenBy : Option UserId
  takeInChargeMode : Option TakeInChargeMode
  takenInChargeAt : Option Instant
  severity : Option Severity
  antigelWarned75 : Bool
  antigelWarned90 : Bool
  progress : Nat
  resolutionStartDate : Option Date
  resolutionEndDate : Option Date
  resolutionSubmittedBy : Option UserId
  resolutionSubmittedAt : Option Instant
  validationDeadline : Option Instant
  rejectionReason : Option String
  isDeleted : Bool
  deletedAt : Option Instant
  deriving DecidableEq

/-- A task of an incident. A stored file is the text of its path; an empty
path counts as no file, as a `FieldFile` without a name is false. -/
structure IncidentTask where
  id : TaskId
  incident : IncidentId
  title : String
  description : Option String
  startDate : Date
  endDate : Date
  state : TaskState
  proofImage : Option String
  proofVideo : Option String
  failureReason : Option String
  assignedTo : Option UserId
  createdBy : UserId
  isConfirmed : Bool
  deriving DecidableEq

/-- A row between an incident and a user, at most one for each pair: the table
is keyed by the pair, and the id only serves to address it. -/
structure Collaboration where
  id : CollaborationId
  incident : IncidentId
  user : UserId
  role : CollabRole
  status : CollabStatus
  endDate : Option Date
  motivation : Option String
  otherOption : Option String
  deriving DecidableEq

/-- An incident that waits for an organisation, or has been answered by it.
The deadline is that of the answer. -/
structure IncidentOrgAssignment where
  id : OrgAssignmentId
  incident : IncidentId
  organisation : OrganisationId
  assignedBy : Option UserId
  status : OrgAssignmentStatus
  declineReason : Option String
  deadline : Instant
  respondedAt : Option Instant
  deriving DecidableEq

structure PartnerSuggestion where
  id : SuggestionId
  incident : IncidentId
  suggestedBy : UserId
  suggestedPartner : UserId
  suggestedRole : SuggestionRole
  status : SuggestionStatus
  deriving DecidableEq

structure Notification where
  user : UserId
  notifType : NotifType
  message : String
  colaboration : Option CollaborationId
  incident : Option IncidentId
  deriving DecidableEq

structure UserAction where
  user : UserId
  action : String
  deriving DecidableEq

structure DiscussionMessage where
  incident : IncidentId
  collaboration : CollaborationId
  sender : UserId
  message : Option String
  recipient : Option UserId
  deriving DecidableEq

instance : Keyed Organisation OrganisationId := ⟨Organisation.id⟩
instance : Keyed User UserId := ⟨User.id⟩
instance : Keyed Incident IncidentId := ⟨Incident.id⟩
instance : Keyed IncidentTask TaskId := ⟨IncidentTask.id⟩
instance : Keyed Collaboration (IncidentId × UserId) := ⟨fun c => (c.incident, c.user)⟩
instance : Keyed IncidentOrgAssignment OrgAssignmentId := ⟨IncidentOrgAssignment.id⟩
instance : Keyed PartnerSuggestion SuggestionId := ⟨PartnerSuggestion.id⟩

/-! ## The store -/

/-- The store: the tables that the modelled endpoints and tasks work on. The
log, the notifications and the messages are only ever appended to by them,
apart from cascades. -/
structure Db where
  organisations : Table Organisation
  users : Table User
  incidents : Table Incident
  tasks : Table IncidentTask
  collaborations : Table Collaboration
  orgAssignments : Table IncidentOrgAssignment
  partnerSuggestions : Table PartnerSuggestion
  notifications : List Notification
  userActions : List UserAction
  discussionMessages : List DiscussionMessage

namespace Db

/-- The collaboration of a user on an incident. -/
def collaboration? (db : Db) (i : IncidentId) (u : UserId) : Option Collaboration :=
  db.collaborations.get? (i, u)

/-- `Collaboration.objects.get(id=...)`. The key of the table is the pair of
the row, so the row is searched for; that ids are unique is not assumed. -/
def collaborationById? (db : Db) (id : CollaborationId) : Option Collaboration :=
  db.collaborations.rows.find? fun c => decide (c.id = id)

def collaborationsOf (db : Db) (i : IncidentId) : List Collaboration :=
  db.collaborations.select fun c => decide (c.incident = i)

theorem collaboration?_key {db : Db} {i : IncidentId} {u : UserId} {c : Collaboration}
    (h : db.collaboration? i u = some c) : c.incident = i ∧ c.user = u :=
  Prod.mk.inj (Table.key_of_get? h)

theorem collaboration?_of_byId {db : Db} {id : CollaborationId} {c : Collaboration}
    (h : db.collaborationById? id = some c) : db.collaboration? c.incident c.user = some c :=
  Table.get?_of_mem (List.mem_of_find?_eq_some h)

def user? (db : Db) (u : Option UserId) : Option User := u.bind db.users.get?

/-- The organisation a user is a member of. -/
def organisationOf (db : Db) (u : User) : Option Organisation :=
  u.organisationMember.bind db.organisations.get?

end Db

/-! ## Texts

Notifications and the activity log are columns of 255 characters. The database
refuses a longer text, so whether a message is cut (`s[:255]`) decides whether
the request that writes it fails. -/

/-- Python's `s[:n]`, in characters. -/
def truncate (n : Nat) (s : String) : String := String.ofList (s.toList.take n)

/-- The width of `CharField` columns that hold generated texts. PostgreSQL
refuses what is longer. -/
def maxTextLength : Nat := 255

/-- Python's truth of a nullable text: neither null nor empty. -/
def presentText : Option String → Option String
  | some s => if s = "" then none else some s
  | none => none

/-- A nullable text as an f-string prints it. -/
def printed (s : Option String) : String := s.getD "None"

end Mapapi
