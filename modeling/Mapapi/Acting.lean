import Mapapi.Refinement

/-!
# Who moves an incident

`acting_organisations` (`services/incident_orgs.py`) lists the organisations
that act on an incident: the one of the user who has taken it, those with an
accepted assignment, and those of accepted collaborators. It is what the
serializers show; no endpoint checks it.

Six endpoints let a user change the state of an incident that somebody has
taken. Two of them, the legacy closure and the disengagement, are bound to the
incident by the leader permission. The others check a role only: preparing a
resolution needs a member of some organisation, returning and declaring it an
admin of some organisation, and the legacy endpoint anybody who is signed in.
-/

namespace Mapapi

open Lib

/-! ## acting_organisations -/

/-- How an organisation comes to act on an incident, the strongest way first. -/
inductive ActingRelation where
  | leader
  | assigned
  | collaborator
  deriving DecidableEq

/-- The leader's organisation comes before the assigned ones, and these before
those of the collaborators. -/
def ActingRelation.rank : ActingRelation → Nat
  | leader => 0
  | assigned => 1
  | collaborator => 2

structure ActingOrganisation where
  organisation : Organisation
  relation : ActingRelation
  deriving DecidableEq

/-- `add`: an organisation that is listed already keeps its place, with the
stronger relation. -/
def addActing (found : List ActingOrganisation) (relation : ActingRelation) :
    Option Organisation → List ActingOrganisation
  | none => found
  | some organisation =>
    match found.find? fun entry => decide (entry.organisation.id = organisation.id) with
    | none => found ++ [⟨organisation, relation⟩]
    | some existing =>
      if relation.rank < existing.relation.rank then
        found.map fun entry =>
          if entry.organisation.id = organisation.id then ⟨organisation, relation⟩ else entry
      else found

def Db.organisationOfUser (db : Db) (u : Option UserId) : Option Organisation :=
  (db.user? u).bind db.organisationOf

/-- `acting_organisations`: the organisation of the leader, then those of
accepted assignments, most recent first, then those of accepted collaborators.
An organisation that comes a second time keeps its place. -/
def actingOrganisations (db : Db) (incident : Incident) : List ActingOrganisation :=
  let leading := addActing [] .leader (db.organisationOfUser incident.takenBy)
  let assigned := (db.orgAssignments.select fun assignment =>
      decide (assignment.incident = incident.id ∧ assignment.status = .accepted)).reverse.foldl
    (fun found assignment =>
      addActing found .assigned (db.organisations.get? assignment.organisation)) leading
  (db.collaborations.select fun c =>
      decide (c.incident = incident.id ∧ c.status = .accepted)).foldl
    (fun found c => addActing found .collaborator (db.organisationOfUser (some c.user))) assigned

def actingIds (found : List ActingOrganisation) : List OrganisationId :=
  found.map fun entry => entry.organisation.id

/-- The organisations are listed once each, in the order in which they were
first found; a stronger relation that is found later changes the entry and not
its place. -/
theorem actingIds_addActing (found : List ActingOrganisation) (relation : ActingRelation)
    (organisation : Organisation) :
    actingIds (addActing found relation (some organisation)) =
      if organisation.id ∈ actingIds found then actingIds found
      else actingIds found ++ [organisation.id] := by
  have hfind : (found.find? fun entry => decide (entry.organisation.id = organisation.id)) = none ↔
      organisation.id ∉ actingIds found := by
    simp [actingIds, List.find?_eq_none]
  unfold addActing
  dsimp only
  split
  · rename_i hnone
    rw [if_neg (hfind.mp hnone), actingIds, List.map_append]
    rfl
  · rename_i existing hsome
    have hmem : organisation.id ∈ actingIds found := by
      by_contra hnot
      rw [hfind.mpr hnot] at hsome
      cases hsome
    rw [if_pos hmem]
    split
    · unfold actingIds
      rw [List.map_map]
      refine List.map_congr_left fun entry _ => ?_
      dsimp only [Function.comp_apply]
      split
      · rename_i hid
        exact hid.symm
      · rfl
    · rfl

theorem nodup_actingIds_addActing (found : List ActingOrganisation) (relation : ActingRelation)
    (organisation : Option Organisation) (h : (actingIds found).Nodup) :
    (actingIds (addActing found relation organisation)).Nodup := by
  cases organisation with
  | none => exact h
  | some organisation =>
      rw [actingIds_addActing]
      split
      · exact h
      · rename_i hnew
        exact List.nodup_append.mpr ⟨h, List.nodup_singleton _, fun a ha b hb hab =>
          hnew (List.mem_singleton.mp hb ▸ hab ▸ ha)⟩

/-! ## Acting on an incident -/

/-- A super admin, the user who has taken the incident, somebody with an accepted
leader collaboration, or a member of a listed organisation. -/
def Db.actsOn (db : Db) (incident : Incident) (user : User) : Bool :=
  isSuperAdmin user || decide (incident.takenBy = some user.id) ||
    db.leaderCollaborationExists incident.id user.id ||
    (actingOrganisations db incident).any fun entry =>
      decide (user.organisationMember = some entry.organisation.id)

/-- Who sends one of the six requests that the law is about. -/
def Op.requester? : Op → Option (Option UserId)
  | handleIncident auth _ _ | prepareResolution auth _ | returnForCompletion auth _
  | declareResolved auth _ | closeIncident auth _ _ _ | disengage auth _ => some auth
  | _ => none

/-- The guard of an endpoint that changes the state of `incident`, written out
for each of the six. -/
def Op.Lets (db : Db) (incident : Incident) (user : User) : Op → Prop
  | handleIncident _ _ _ => True
  | prepareResolution _ _ => isOrgOperative user = true
  | returnForCompletion _ _ | declareResolved _ _ => isOrgAdmin user = true
  | closeIncident _ _ _ _ | disengage _ _ =>
    isOrgAdmin user = true ∧
      (incident.takenBy = some user.id ∨ db.leaderCollaborationExists incident.id user.id = true)
  | _ => False

/-- Whoever changes the state of an incident is signed in and passes the guard
of the endpoint. Nothing more can be said of the requester: what the incident
is to him is not asked where the guard is a role (`outsiders_move`). -/
theorem etat_moved_by (db₀ : Db) (events : List Event) (event : Event) (auth : Option UserId)
    (i : IncidentId) (incident incident' : Incident) (hop : event.op.requester? = some auth)
    (hinc : (db₀.exec events).incidents.get? i = some incident)
    (hinc' : ((db₀.exec events).step event).incidents.get? i = some incident')
    (hmoved : incident'.etat ≠ incident.etat) :
    ∃ user, (db₀.exec events).authenticated auth = some user ∧
      event.op.Lets (db₀.exec events) incident user := by
  set db := db₀.exec events
  have hid : incident.id = i := Table.key_of_get? hinc
  have hafter := Db.engagement?_eq hinc'
  rcases step_move event (Db.engagement?_eq hinc) with hgone | ⟨e', he', hmove⟩
  · rw [hgone] at hafter
    cases hafter
  obtain rfl := Option.some.inj (he'.symm.trans hafter)
  have hleads : ∀ {user : User}, (incident.engagement (db.seats i)).Leads user.id →
      incident.takenBy = some user.id ∨
        db.leaderCollaborationExists incident.id user.id = true := by
    intro user h
    rw [hid]
    exact h.imp_right Db.leaderCollaborationExists_seats.mpr
  generalize hop' : event.op = op at hop hmove ⊢
  generalize hnew : incident'.engagement _ = new at hmove
  have hnewEtat : new.etat ≠ incident.etat := hnew ▸ hmoved
  cases hmove with
  | handleTaken hauth | handleResolved hauth =>
      cases hop
      exact ⟨_, hauth, trivial⟩
  | prepare hauth hrole | returnBack hauth hrole | declareResolved hauth hrole =>
      cases hop
      exact ⟨_, hauth, hrole⟩
  | close hauth hrole hlead | disengageAlone hauth hrole hlead =>
      cases hop
      exact ⟨_, hauth, hrole, hleads hlead⟩
  | takeInternal | takeLead | engage | tacit | validate | autoValidate | reject | revert =>
      cases hop
  | _ => exact absurd rfl hnewEtat

def outsiderStore : Db :=
  Db.start [{ id := 1, name := "Voirie" }, { id := 2, name := "Eaux" }]
    [.member 2 "voirie@map.ml" .orgAdmin 1, .member 3 "eaux@map.ml" .orgAdmin 2,
      .member 4 "agent@map.ml" .fieldAgent 2]
    (.new 1 (some "Fuite") "Bamako" "01-02-2025")

def takenInternally : Event := ⟨0, .takeInCharge (some 2) 1 (.one .internal) .unknown⟩

theorem etat_moved_by_leader :
    let db := outsiderStore.exec [takenInternally]
    ∃ incident user, db.incidents.get? 1 = some incident ∧ incident.takenBy = some 2 ∧
      db.authenticated (some 2) = some user ∧
      Op.Lets db incident user (.disengage (some 2) 1) := by
  intro db
  obtain ⟨incident, hinc, htaken⟩ := (Option.any_eq_true (fun incident : Incident =>
    decide (incident.etat = .taken ∧ incident.takenBy = some 2)) (db.incidents.get? 1)).mp
      (by decide)
  obtain ⟨incident', hinc', hreleased⟩ := (Option.any_eq_true (fun incident : Incident =>
    decide (incident.etat = .declared))
      ((db.step ⟨1, .disengage (some 2) 1⟩).incidents.get? 1)).mp (by decide)
  obtain ⟨hetat, htaken⟩ := decide_eq_true_eq.mp htaken
  have hetat' : incident'.etat = .declared := decide_eq_true_eq.mp hreleased
  obtain ⟨user, hauth, hlets⟩ := etat_moved_by outsiderStore [takenInternally]
    ⟨1, .disengage (some 2) 1⟩ (some 2) 1 incident incident' rfl hinc hinc' (by
      rw [hetat, hetat']
      decide)
  exact ⟨incident, user, hinc, htaken, hauth, hlets⟩

/-- The request changes the state of an incident that a user has taken, and
comes from somebody who does not act on it. -/
def Db.outsiderMoves (db : Db) (event : Event) (auth : Option UserId) (i : IncidentId) : Bool :=
  match db.incidents.get? i, (db.step event).incidents.get? i, db.authenticated auth with
  | some incident, some incident', some user =>
    incident.takenBy.isSome && decide (incident'.etat ≠ incident.etat) &&
      !db.actsOn incident user
  | _, _, _ => false

/-- The admin of the other organisation prepares, returns and declares the
resolution of the incident; its field agent closes the incident. -/
theorem outsiders_move :
    outsiderStore.Fresh ∧
      let taken := outsiderStore.exec [takenInternally]
      let prepared := outsiderStore.exec [takenInternally, ⟨1, .prepareResolution (some 2) 1⟩]
      taken.outsiderMoves ⟨1, .prepareResolution (some 3) 1⟩ (some 3) 1 = true ∧
        prepared.outsiderMoves ⟨2, .returnForCompletion (some 3) 1⟩ (some 3) 1 = true ∧
        taken.outsiderMoves ⟨1, .declareResolved (some 3) 1⟩ (some 3) 1 = true ∧
        taken.outsiderMoves ⟨1, .handleIncident (some 4) 1 (some .resolved)⟩ (some 4) 1 = true := by
  exact ⟨Db.start_fresh _ _, by decide, by decide, by decide, by decide⟩

end Mapapi
