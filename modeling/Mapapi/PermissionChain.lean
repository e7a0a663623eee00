import Mapapi.Membership
import Mapapi.Workflow

/-!
# The permission classes side by side

The four classes of `permissions.py` that are bound to an incident repeat one
disjunction: a super admin, the user who has taken the incident, a member of the
organisation in charge when the mode is internal, and somebody with an accepted
collaboration. Each drops or narrows one of the disjuncts, and the three classes
for writing send the methods that only read to `IsIncidentCollaborator`.

They are meant to be nested. One inclusion fails: an accepted leader
collaboration makes its user a leader for `IsIncidentLeader`, while
`IsIncidentLeaderOrContributor` only knows the leader who has taken the incident
and contributors. The two querysets of `CollaborationDetailView` differ in the
same way: staff may write every collaboration, and read like everybody else.
-/

namespace Mapapi

open Lib

/-! ## Methods -/

/-- The methods of a request: the permissions for contributors ask less of the
safe ones. -/
inductive Method where
  | get
  | head
  | options
  | post
  | put
  | patch
  | delete
  deriving DecidableEq

def Method.safe : Method → Bool
  | get | head | options => true
  | post | put | patch | delete => false

/-! ## The permission classes -/

/-- The same test as in `Mapapi.IncidentTasks`, as a function of the store:
here nothing is interleaved. -/
def Db.internalOrgMember (db : Db) (incident : Incident) (user : User) : Bool :=
  decide (incident.takeInChargeMode = some .internal) &&
    (((db.user? incident.takenBy).bind User.organisationMember).any fun organisation =>
      decide (user.organisationMember = some organisation))

def Db.acceptedCollaborationExists (db : Db) (i : IncidentId) (u : UserId) : Bool :=
  (db.collaboration? i u).any fun c => decide (c.status = .accepted)

/-- What the four classes begin with: nobody who is not signed in, every super
admin, and everybody on an incident that does not exist. `auth` is the user of
the request and `i` the incident of the URL. -/
def Db.grants (db : Db) (auth : Option User) (i : IncidentId)
    (allowed : User → Incident → Bool) : Bool :=
  match auth with
  | none => false
  | some user => isSuperAdmin user || (db.incidents.get? i).all (allowed user)

def IsIncidentLeader.hasPermission (db : Db) (auth : Option User) (i : IncidentId) : Bool :=
  db.grants auth i fun user incident =>
    db.leaderCollaborationExists i user.id || decide (incident.takenBy = some user.id)

def IsIncidentCollaborator.hasPermission (db : Db) (auth : Option User) (i : IncidentId) : Bool :=
  db.grants auth i fun user incident =>
    decide (incident.takenBy = some user.id) || db.internalOrgMember incident user ||
      db.acceptedCollaborationExists i user.id

/-- `IsIncidentContributor.has_permission`. For a method that writes, the user
in `taken_by` is not let in as such; on an internal incident he is one of the
members of the organisation. -/
def IsIncidentContributor.hasPermission (db : Db) (method : Method) (auth : Option User)
    (i : IncidentId) : Bool :=
  if method.safe then IsIncidentCollaborator.hasPermission db auth i
  else
    db.grants auth i fun user incident =>
      db.internalOrgMember incident user || db.contributorCollaborationExists i user.id

/-- `IsIncidentLeaderOrContributor.has_permission`. It narrows the accepted
collaborations to those of contributors, so an accepted leader row does not
let its user write. -/
def IsIncidentLeaderOrContributor.hasPermission (db : Db) (method : Method) (auth : Option User)
    (i : IncidentId) : Bool :=
  if method.safe then IsIncidentCollaborator.hasPermission db auth i
  else
    db.grants auth i fun user incident =>
      decide (incident.takenBy = some user.id) || db.internalOrgMember incident user ||
        db.contributorCollaborationExists i user.id

/-! ## Comparing two classes -/

section Compare

variable {db : Db} {auth : Option User} {i : IncidentId}

/-- Two classes that begin alike differ on the users and incidents they have
to look at. -/
theorem grants_imp_iff {p q : User → Incident → Bool} :
    (db.grants auth i p = true → db.grants auth i q = true) ↔
      ∀ user incident, auth = some user → user.isSuperuser = false →
        db.incidents.get? i = some incident → p user incident = true → q user incident = true := by
  unfold Db.grants
  cases auth with
  | none => simp
  | some user =>
      simp only [isSuperAdmin_eq, Bool.or_eq_true]
      constructor
      · intro h user' incident hauth hsuper hinc hp
        obtain rfl := Option.some.inj hauth
        simpa [hsuper, hinc, hp] using h
      · intro h hp
        refine or_iff_not_imp_left.mpr fun hsuper => ?_
        rw [Bool.not_eq_true] at hsuper
        cases hinc : db.incidents.get? i with
        | none => rfl
        | some incident =>
            exact h user incident rfl hsuper hinc (by simpa [hsuper, hinc] using hp)

theorem accepted_of_leader {u : UserId} (h : db.leaderCollaborationExists i u = true) :
    db.acceptedCollaborationExists i u = true := by
  obtain ⟨c, hc, -, haccepted⟩ := leaderCollaborationExists_iff.mp h
  simp [Db.acceptedCollaborationExists, hc, haccepted]

theorem accepted_of_contributor {u : UserId} (h : db.contributorCollaborationExists i u = true) :
    db.acceptedCollaborationExists i u = true := by
  unfold Db.contributorCollaborationExists at h
  obtain ⟨c, hc, hrow⟩ := (Option.any_eq_true _ _).mp h
  simp only [decide_eq_true_eq] at hrow
  simp [Db.acceptedCollaborationExists, hc, hrow.2]

theorem not_contributor_of_leader {u : UserId} (h : db.leaderCollaborationExists i u = true) :
    db.contributorCollaborationExists i u = false := by
  obtain ⟨c, hc, hrole, -⟩ := leaderCollaborationExists_iff.mp h
  simp [Db.contributorCollaborationExists, hc, hrole]

/-- For the modelled endpoints, the leader permission as they use it. -/
theorem IsIncidentLeader.hasPermission_eq_leads {user : User} :
    IsIncidentLeader.hasPermission db (some user) i = db.leads user i := by
  unfold hasPermission Db.grants Db.leads
  cases db.incidents.get? i <;> rfl

/-- For the modelled endpoints that write, the permission as they use it. -/
theorem IsIncidentLeaderOrContributor.hasPermission_eq_worksOn {user : User} {method : Method}
    (hwrites : method.safe = false) :
    IsIncidentLeaderOrContributor.hasPermission db method (some user) i = db.worksOn user i := by
  unfold hasPermission Db.grants Db.worksOn
  rw [if_neg (by simp [hwrites])]
  cases db.incidents.get? i <;> rfl

theorem IsIncidentLeader.imp_collaborator (h : IsIncidentLeader.hasPermission db auth i = true) :
    IsIncidentCollaborator.hasPermission db auth i = true := by
  refine grants_imp_iff.mpr (fun user incident _ _ _ hleads => ?_) h
  rcases (Bool.or_eq_true ..).mp hleads with hrow | htaken
  · simp [accepted_of_leader hrow]
  · simp [htaken]

theorem IsIncidentLeaderOrContributor.imp_collaborator {method : Method}
    (h : IsIncidentLeaderOrContributor.hasPermission db method auth i = true) :
    IsIncidentCollaborator.hasPermission db auth i = true := by
  unfold hasPermission at h
  split at h
  · exact h
  · refine grants_imp_iff.mpr (fun user incident _ _ _ hworks => ?_) h
    rcases (Bool.or_eq_true ..).mp hworks with hown | hrow
    · simp [hown]
    · simp [accepted_of_contributor hrow]

theorem IsIncidentContributor.imp_leaderOrContributor {method : Method}
    (h : IsIncidentContributor.hasPermission db method auth i = true) :
    IsIncidentLeaderOrContributor.hasPermission db method auth i = true := by
  unfold hasPermission at h
  unfold IsIncidentLeaderOrContributor.hasPermission
  split at h
  · rename_i hsafe
    rwa [if_pos hsafe]
  · rename_i hwrites
    rw [if_neg hwrites]
    refine grants_imp_iff.mpr (fun user incident _ _ _ hcontributes => ?_) h
    rw [Bool.or_assoc]
    simp [hcontributes]

/-- The user leads the incident by an accepted collaboration alone: somebody else
has taken it, and not for an organisation of theirs. -/
def Db.LeadsByRowOnly (db : Db) (user : User) (i : IncidentId) : Prop :=
  ∃ incident, db.incidents.get? i = some incident ∧ user.isSuperuser = false ∧
    db.leaderCollaborationExists i user.id = true ∧ incident.takenBy ≠ some user.id ∧
      db.internalOrgMember incident user = false

theorem leader_imp_leaderOrContributor_iff {method : Method} :
    (IsIncidentLeader.hasPermission db auth i = true →
        IsIncidentLeaderOrContributor.hasPermission db method auth i = true) ↔
      (method.safe = false → ∀ user, auth = some user → ¬ db.LeadsByRowOnly user i) := by
  unfold IsIncidentLeaderOrContributor.hasPermission
  split
  · rename_i hsafe
    simp only [hsafe, Bool.true_eq_false, false_implies, iff_true]
    exact IsIncidentLeader.imp_collaborator
  · rename_i hwrites
    simp only [hwrites, true_implies]
    unfold IsIncidentLeader.hasPermission
    rw [grants_imp_iff]
    constructor
    · rintro h user hauth ⟨incident, hinc, hsuper, hrow, htaken, hmember⟩
      have hworks := h user incident hauth hsuper hinc (by simp [hrow])
      simp [htaken, hmember, not_contributor_of_leader hrow] at hworks
    · intro h user incident hauth hsuper hinc hleads
      by_contra hworks
      simp only [Bool.or_eq_true, decide_eq_true_eq, not_or, Bool.not_eq_true] at hleads hworks
      exact h user hauth ⟨incident, hinc, hsuper, hleads.resolve_right hworks.1.1, hworks.1.1,
        hworks.1.2⟩

end Compare

/-! ## CollaborationDetailView -/

def Db.belongsTo (db : Db) (u : Option UserId) (o : OrganisationId) : Bool :=
  (db.user? u).any fun user => decide (user.organisationMember = some o)

/-- `collaboration_read_visibility_q`, on a row: the own rows, those of
incidents one has taken, and for admins and office agents those of their
organisation or about its incidents. -/
def collaborationReadVisibilityQ (db : Db) (user : User) (c : Collaboration) : Bool :=
  isSuperAdmin user || decide (c.user = user.id) ||
    ((db.incidentOf c).any fun incident => decide (incident.takenBy = some user.id)) ||
    ((isOrgAdmin user || isBureauAgent user) && user.organisationMember.any fun o =>
      db.belongsTo (some c.user) o ||
        (db.incidentOf c).any fun incident => db.belongsTo incident.takenBy o)

/-- A row that the queryset of the view does not contain is answered 404. -/
def Db.readableCollaboration? (db : Db) (user : User) (id : CollaborationId) :
    Option Collaboration :=
  (db.collaborationById? id).filter (collaborationReadVisibilityQ db user)

/-- The row concerns the organisation the user manages: its owner or the user who
has taken its incident is a member. -/
def Db.OfOwnOrganisation (db : Db) (user : User) (c : Collaboration) : Prop :=
  (isOrgAdmin user = true ∨ isBureauAgent user = true) ∧
    ∃ o, user.organisationMember = some o ∧
      (db.belongsTo (some c.user) o = true ∨
        ∃ incident, db.incidentOf c = some incident ∧ db.belongsTo incident.takenBy o = true)

/-- A member of the staff, not a super admin, whom the row does not concern. -/
def Db.StaffOutside (isStaff : UserId → Bool) (db : Db) (user : User) (c : Collaboration) : Prop :=
  isStaff user.id = true ∧ user.isSuperuser = false ∧ c.user ≠ user.id ∧
    (∀ incident, db.incidentOf c = some incident → incident.takenBy ≠ some user.id) ∧
      ¬ db.OfOwnOrganisation user c

theorem collaborationReadVisibilityQ_iff {db : Db} {user : User} {c : Collaboration} :
    collaborationReadVisibilityQ db user c = true ↔
      user.isSuperuser = true ∨ c.user = user.id ∨
        (∃ incident, db.incidentOf c = some incident ∧ incident.takenBy = some user.id) ∨
          db.OfOwnOrganisation user c := by
  simp only [collaborationReadVisibilityQ, Db.OfOwnOrganisation, isSuperAdmin_eq, Bool.or_eq_true,
    Bool.and_eq_true, decide_eq_true_eq, Option.any_eq_true, or_assoc]

theorem writable_imp_readable_iff {isStaff : UserId → Bool} {db : Db} {user : User}
    {id : CollaborationId} :
    ((db.writableCollaboration? isStaff user id).isSome = true →
        (db.readableCollaboration? user id).isSome = true) ↔
      ∀ c, db.collaborationById? id = some c → ¬ db.StaffOutside isStaff user c := by
  unfold Db.writableCollaboration? Db.readableCollaboration?
  cases hrow : db.collaborationById? id with
  | none => simp
  | some c =>
      simp only [Option.isSome_filter, Option.any_some, collaborationReadVisibilityQ_iff,
        Bool.or_eq_true, decide_eq_true_eq, Option.any_eq_true, Option.some.injEq, forall_eq']
      unfold Db.StaffOutside
      constructor
      · rintro h ⟨hstaff, hsuper, howner, htaken, horganisation⟩
        rcases h (Or.inl (Or.inl (Or.inl hstaff))) with h | h | ⟨incident, hinc, h⟩ | h
        · exact Bool.false_ne_true (hsuper.symm.trans h)
        · exact howner h
        · exact htaken incident hinc h
        · exact horganisation h
      · rintro houtside (((hstaff | hsuper) | howner) | htaken)
        · by_contra hhidden
          simp only [not_or, not_exists, not_and, Bool.not_eq_true] at hhidden
          obtain ⟨hsuper, howner, htaken, horganisation⟩ := hhidden
          exact houtside ⟨hstaff, hsuper, howner, htaken, horganisation⟩
        · exact Or.inl hsuper
        · exact Or.inr (Or.inl howner)
        · exact Or.inr (Or.inr (Or.inl htaken))

/-! ## The chain -/

/-- Each class is inside the next ones. -/
structure Db.Chained (db : Db) (method : Method) (auth : Option User) (i : IncidentId) : Prop where
  leader : IsIncidentLeader.hasPermission db auth i = true →
    IsIncidentLeaderOrContributor.hasPermission db method auth i = true
  contributor : IsIncidentContributor.hasPermission db method auth i = true →
    IsIncidentLeaderOrContributor.hasPermission db method auth i = true
  leader_reads : IsIncidentLeader.hasPermission db auth i = true →
    IsIncidentCollaborator.hasPermission db auth i = true
  contributor_reads : IsIncidentContributor.hasPermission db method auth i = true →
    IsIncidentCollaborator.hasPermission db auth i = true
  either_reads : IsIncidentLeaderOrContributor.hasPermission db method auth i = true →
    IsIncidentCollaborator.hasPermission db auth i = true

/-- The classes are nested except, for a method that writes, around a user who
leads by a collaboration alone; and a row that may be written may be read except
by staff whom it does not concern. -/
theorem permissions_chained_iff (isStaff : UserId → Bool) (db : Db) (method : Method)
    (auth : Option User) (i : IncidentId) (user : User) (id : CollaborationId) :
    (db.Chained method auth i ↔
      (method.safe = false → ∀ user, auth = some user → ¬ db.LeadsByRowOnly user i)) ∧
    (((db.writableCollaboration? isStaff user id).isSome = true →
        (db.readableCollaboration? user id).isSome = true) ↔
      ∀ c, db.collaborationById? id = some c → ¬ db.StaffOutside isStaff user c) := by
  refine ⟨?_, writable_imp_readable_iff⟩
  rw [← leader_imp_leaderOrContributor_iff]
  refine ⟨Db.Chained.leader, fun hleader => ?_⟩
  exact
    { leader := hleader
      contributor := IsIncidentContributor.imp_leaderOrContributor
      leader_reads := IsIncidentLeader.imp_collaborator
      contributor_reads := fun h =>
        IsIncidentLeaderOrContributor.imp_collaborator
          (IsIncidentContributor.imp_leaderOrContributor h)
      either_reads := IsIncidentLeaderOrContributor.imp_collaborator }

/-- An office agent whose discussion of an internal incident made them a leader,
after the incident has become collaborative; and a member of the staff. -/
def rowLeaderStore : Db :=
  let taken := (Db.start [{ id := 1, name := "Voirie" }]
    [.member 2 "voirie@map.ml" .orgAdmin 1, .member 4 "agent@map.ml" .bureauAgent 1,
      { User.superAdmin 9 "staff@map.ml" with isSuperuser := false }]
    (.new 1 (some "Fuite") "Bamako" "01-02-2025")).exec
      [⟨0, .takeInCharge (some 2) 1 (.one .internal) .unknown⟩,
        ⟨hours 1, .readDiscussion (some 4) 1⟩]
  ((putIncident none 1 { IncidentData.only "Bamako" .taken with
    takeInChargeMode := .value .collaborative } true).run taken).2

/-- The office agent is the leader for one class and not for the other; the member
of the staff may write a collaboration that the same view will not show. -/
theorem permissions_not_chained :
    ¬ rowLeaderStore.Chained .post (rowLeaderStore.authenticated (some 4)) 1 ∧
      ∃ staff, rowLeaderStore.authenticated (some 9) = some staff ∧
        ¬ ((rowLeaderStore.writableCollaboration? (fun u => decide (u = 9)) staff 1).isSome = true →
          (rowLeaderStore.readableCollaboration? staff 1).isSome = true) := by
  refine ⟨fun h => ?_, { User.superAdmin 9 "staff@map.ml" with isSuperuser := false }, by decide,
    by decide⟩
  exact absurd (h.leader (by decide)) (by decide)

end Mapapi
