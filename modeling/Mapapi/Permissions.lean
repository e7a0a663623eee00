import Mapapi.Lib.Prog
import Mapapi.Models

/-!
# Roles and permissions

`roles.py` and the classes of `permissions.py` that the modelled endpoints
use. A permission is a Boolean on the requesting user (and on the store, for
the ones bound to an incident); its refusal message stands beside it.

`IsIncidentLeader` is the permission most of the development is about. It
reads both copies of the leadership: `taken_by` on the row of the incident,
and the accepted leader collaboration of the user. Nothing in the database
keeps the two together, and each way to engage an incident writes them in its
own order, so `leads` is stated here once, with the disjunction spelled out
(`leads_iff`).
-/

namespace Mapapi

open Lib

/-! ## Web roles -/

/-- The roles of the dashboard and of the mobile application (`roles.py`). -/
inductive WebRole where
  | superAdmin
  | orgAdmin
  | bureauAgent
  | fieldAgent
  deriving DecidableEq

def OrgRole.toWebRole : OrgRole → WebRole
  | orgAdmin => .orgAdmin
  | bureauAgent => .bureauAgent
  | fieldAgent => .fieldAgent

/-- `get_web_role`: `is_superuser` wins, otherwise `org_role` drives it. -/
def getWebRole (user : User) : Option WebRole :=
  if user.isSuperuser then some .superAdmin else user.orgRole.map OrgRole.toWebRole

def isSuperAdmin (user : User) : Bool := decide (getWebRole user = some .superAdmin)

def isOrgAdmin (user : User) : Bool := decide (getWebRole user = some .orgAdmin)

def isBureauAgent (user : User) : Bool := decide (getWebRole user = some .bureauAgent)

theorem isSuperAdmin_eq (user : User) : isSuperAdmin user = user.isSuperuser := by
  unfold isSuperAdmin getWebRole
  cases user.isSuperuser <;> rcases user.orgRole with _ | _ | _ | _ <;> rfl

/-- A super admin has no organisation role, whatever `org_role` says. -/
theorem isOrgAdmin_iff {user : User} :
    isOrgAdmin user = true ↔ user.isSuperuser = false ∧ user.orgRole = some .orgAdmin := by
  unfold isOrgAdmin getWebRole
  cases user.isSuperuser <;> rcases user.orgRole with _ | _ | _ | _ <;> decide

/-! ## Permission classes -/

def isSuperAdminRoleMessage : String :=
  "Seul un super administrateur peut effectuer cette action."

def isOrgAdminMessage : String :=
  "Seul un administrateur d'organisation peut effectuer cette action."

def isOrgOperativeMessage : String :=
  "Cette action est réservée aux membres d'une organisation."

/-- Everybody of an organisation who works at a desk: admins and bureau
agents, and not the agents in the field. -/
def isOrgOperative (user : User) : Bool := isOrgAdmin user || isBureauAgent user

def isIncidentLeaderMessage : String :=
  "Seul le leader de l'incident peut effectuer cette action."

/-- The second copy of the leadership: a row of the user on the incident with
role leader, accepted. The source asks for it with `exists()`, so it is a
Boolean of the store. -/
def Db.leaderCollaborationExists (db : Db) (i : IncidentId) (u : UserId) : Bool :=
  (db.collaboration? i u).any fun c => decide (c.role = .leader ∧ c.status = .accepted)

/-- `IsIncidentLeader.has_permission`, for an authenticated user. An unknown
incident is left to the view, which answers 404. -/
def isIncidentLeader (user : User) (i : IncidentId) : Prog Db Bool := do
  if isSuperAdmin user then
    pure true
  else
    match ← Prog.read fun db => db.incidents.get? i with
    | none => pure true
    | some incident =>
      if ← Prog.read fun db => db.leaderCollaborationExists i user.id then
        pure true
      else
        pure (decide (incident.takenBy = some user.id))

/-- The answer of the leader permission in a store, which is what the theorems
speak of; `run_isIncidentLeader` says that the permission, run as the program
it is, answers it. -/
def Db.leads (db : Db) (user : User) (i : IncidentId) : Bool :=
  isSuperAdmin user ||
    match db.incidents.get? i with
    | none => true
    | some incident =>
      db.leaderCollaborationExists i user.id || decide (incident.takenBy = some user.id)

@[simp] theorem run_isIncidentLeader (user : User) (i : IncidentId) (db : Db) :
    (isIncidentLeader user i).run db = (db.leads user i, db) := by
  unfold isIncidentLeader Db.leads
  cases hsuper : isSuperAdmin user with
  | true => rfl
  | false =>
      cases hinc : db.incidents.get? i with
      | none => simp [hinc]
      | some incident => cases hrow : db.leaderCollaborationExists i user.id <;> simp [hinc, hrow]

theorem leads_iff {db : Db} {user : User} {i : IncidentId} {incident : Incident}
    (hinc : db.incidents.get? i = some incident) (huser : user.isSuperuser = false) :
    db.leads user i = true ↔
      db.leaderCollaborationExists i user.id = true ∨ incident.takenBy = some user.id := by
  simp [Db.leads, hinc, isSuperAdmin_eq, huser]

theorem leaderCollaborationExists_iff {db : Db} {i : IncidentId} {u : UserId} :
    db.leaderCollaborationExists i u = true ↔
      ∃ c, db.collaboration? i u = some c ∧ c.role = .leader ∧ c.status = .accepted := by
  simp [Db.leaderCollaborationExists, Option.any_eq_true]

end Mapapi
