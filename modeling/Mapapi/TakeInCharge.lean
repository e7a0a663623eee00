import Mapapi.Seats

/-!
# Taking an incident in charge

`HandleIncidentView` (the legacy way) and `TakeInChargeView`.

`TakeInChargeView` serves three requests. In mode `internal` an organisation
takes a declared incident for itself. In mode `collaborative` the role
`leader` takes the incident over when nobody leads it, and the roles
`contributor` and `observer` only join it. The first two write the engagement
twice, as `taken_by` on the incident and as a leader collaboration, in two
saves.

Between the two saves, and between the read and the first of them, other
requests may run, and neither branch locks the row. What the branches do when
nothing runs in between is stated at the end of the file in terms of seats,
the pairs of an incident and a user, so that the results about leadership need
not look at the rows of the collaboration table again.
-/

namespace Mapapi

open Lib

/-! ## HandleIncidentView -/

inductive HandleAction where
  | takenIntoAccount
  | resolved
  deriving DecidableEq

/-- `HandleIncidentView.post`; any other `action` is `none`. It asks for a
signed-in user and nothing else, and it leaves `taken_in_charge_at` alone. -/
def handleIncident (auth : Option UserId) (i : IncidentId) (action : Option HandleAction) :
    View :=
  authenticate auth fun user =>
  getIncident i "Incident not found" fun incident =>
  match action with
  | none => pure (.error 400 "Invalid action")
  | some .takenIntoAccount =>
    refuseIf (decide (incident.etat ≠ .declared))
      (.error 400 "Incident already taken into account or resolved") <|
    -- only these two columns change: neither the date nor the anti-gel flags
    handled user { incident with etat := .taken, takenBy := some user.id }
      ("a pris en charge l'incident «" ++ printed incident.title ++ "».")
  | some .resolved =>
    refuseIf (decide (incident.etat ≠ .taken))
      (.error 400 "Incident must be taken into account before being resolved") <|
    handled user { incident with etat := .resolved }
      ("a résolu l'incident «" ++ printed incident.title ++ "».")
where
  /-- Save the whole row, log the action, answer. -/
  handled (user : User) (incident : Incident) (actionMessage : String) : View := do
    Prog.modify (Db.saveIncident incident)
    createUserAction user.id actionMessage fun action =>
      pure (.ok 200 (.handled actionMessage user action))

/-! ## TakeInChargeView -/

/-- The in-memory row of an incident that `user` engages at `now`. The
anti-gel clock starts and its two warnings are due again. -/
def Incident.engagedBy (incident : Incident) (user : UserId) (mode : TakeInChargeMode)
    (now : Instant) : Incident :=
  { incident with
    takenBy := some user
    etat := .taken
    takeInChargeMode := some mode
    takenInChargeAt := some now
    antigelWarned75 := false
    antigelWarned90 := false }

/-- `TakeInChargeView.post`, mode `internal`. The three columns that say
whether the incident is free are checked on the row as it was read. A
collaboration that the admin has already is kept as it is, whatever its
status. -/
def takeInternal (now : Instant) (user : User) (incident : Incident) : View :=
  refuseIf (decide (incident.takenBy ≠ none ∨ incident.takeInChargeMode ≠ none))
    (.error 400 "Cet incident a déjà été pris en charge.") <|
  refuseIf (decide (incident.etat ≠ .declared))
    (.error 400 ("Impossible de prendre en charge un incident en état '" ++
      incident.etat.value ++ "'.")) do
  let incident' := incident.engagedBy user.id .internal now
  Prog.modify (Db.saveIncidentFields incident' [.takenBy, .etat, .takeInChargeMode,
    .takenInChargeAt, .antigelWarned75, .antigelWarned90])
  match ← getOrCreateCollaboration incident'
      (Db.newCollaboration incident.id user.id .leader .accepted) with
  | none => pure .crash
  | some (collaboration, _) =>
    let message := "a pris en charge l'incident «" ++ printed incident.title ++
      "» en mode interne."
    createUserAction user.id message fun _ =>
      pure (.ok 200 (.takenInCharge message .internal none none none incident' collaboration))

/-- The in-memory row of an incident that `user` leads from `now` on: only a
declared incident starts a new engagement. -/
def Incident.ledBy (incident : Incident) (user : UserId) (now : Instant) : Incident :=
  if incident.etat = .declared then incident.engagedBy user .collaborative now
  else { incident with takenBy := some user, takeInChargeMode := some .collaborative }

/-- The columns that are saved depend on the state: leading an incident that
is already taken does not start its delay again. -/
def Incident.ledColumns (incident : Incident) : List Incident.Column :=
  [.takenBy, .etat, .takeInChargeMode] ++
    if incident.etat = .declared then
      [.takenInChargeAt, .antigelWarned75, .antigelWarned90]
    else []

/-- `TakeInChargeView.post`, mode `collaborative`, role `leader`. The incident
is saved before the row of the leader is created; the contributors accepted so
far go back to pending, as a leader has to accept them. -/
def takeLeader (now : Instant) (user : User) (incident : Incident) : View :=
  refuseIf (decide (incident.takenBy ≠ none))
    (.error 400 "Un leader est déjà désigné sur cet incident.") do
  let incident' := incident.ledBy user.id now
  Prog.modify (Db.saveIncidentFields incident' incident.ledColumns)
  match ← Prog.atomic (Db.createCollaboration incident'
      (Db.newCollaboration incident.id user.id .leader .accepted)) with
  | none => pure .crash
  | some collaboration =>
    -- the contributors accepted so far must be validated by the new leader
    let reset ← Prog.atomic fun db =>
      ((db.collaborations.select (otherContributors incident.id user.id)).length,
        db.updateCollaborations (otherContributors incident.id user.id) id .pending)
    let message := "a pris en charge l'incident «" ++ printed incident.title ++
      "» en tant que leader (mode collaboratif)."
    createUserAction user.id message fun _ =>
      pure (.ok 200 (.takenInCharge message .collaborative (some .leader) none (some reset)
        incident' collaboration))

def CollabRole.french : CollabRole → String
  | contributor => "contributeur"
  | observer => "observateur"
  | leader => "leader"

/-- The status of somebody who joins: an observer is accepted, a contributor
only as long as nobody leads the incident. -/
def joinStatus (incident : Incident) (role : CollabRole) : CollabStatus :=
  if role = .observer then .accepted
  else if incident.takenBy = none then .accepted else .pending

/-- `TakeInChargeView.post`, mode `collaborative`, role `observer` or
`contributor`. The answer says that the user has joined, whether or not the
receivers have left the row there. -/
def takeJoin (user : User) (incident : Incident) (role : CollabRole) : View := do
  let status := joinStatus incident role
  match ← Prog.atomic (Db.createCollaboration incident
      (Db.newCollaboration incident.id user.id role status)) with
  | none => pure .crash
  | some collaboration =>
    Prog.when (incident.takeInChargeMode = none) (Prog.modify (Db.openIncident incident))
    let incident' := if incident.takeInChargeMode = none then incident.opened else incident
    let message := "a rejoint l'incident «" ++ printed incident.title ++ "» en tant que " ++
      role.french ++ "."
    createUserAction user.id message fun _ =>
      pure (.ok 200 (.takenInCharge message .collaborative (some role) (some status) none
        incident' collaboration))

/-- `TakeInChargeView.post`, mode `collaborative`. Whoever has a collaboration
of any status is refused, and is told of it. -/
def takeCollaborative (now : Instant) (user : User) (incident : Incident) (role : CollabRole) :
    View :=
  refuseIf (decide (incident.takeInChargeMode = some .internal))
    (.error 400
      "Cet incident est en mode interne. Faites une demande via POST /collaboration/.") do
  match ← Prog.read fun db => db.collaboration? incident.id user.id with
  | some existing =>
    pure (.refused 400 "Vous avez déjà une collaboration sur cet incident." (some existing))
  | none =>
    match role with
    | .leader => takeLeader now user incident
    | .contributor => takeJoin user incident .contributor
    | .observer => takeJoin user incident .observer

/-- `TakeInChargeView.post`. Its guards are that of an organisation admin and
that the incident is not `resolved`; a definitively resolved incident passes
them. -/
def takeInCharge (now : Instant) (auth : Option UserId) (i : IncidentId)
    (mode : Choice TakeInChargeMode) (role : Choice CollabRole) : View :=
  authenticate auth fun user =>
  permit (isOrgAdmin user) isOrgAdminMessage <|
  getIncident i incidentNotFound fun incident =>
  refuseIf incident.isResolved (.error 400 "Cet incident est clôturé.") <|
  match mode with
  | .notText => pure .crash
  | .unknown => pure (.error 400 "mode requis : 'internal' ou 'collaborative'.")
  | .one .internal => takeInternal now user incident
  | .one .collaborative =>
    match role with
    | .notText => pure .crash
    | .unknown => pure (.error 400
        "role requis pour le mode collaborative : 'leader', 'contributor' ou 'observer'.")
    | .one role => takeCollaborative now user incident role

/-! ## What the requests do

A request that passes the guards writes the incident row and sets one seat;
the rest of the store stays. The answer may still be an error, when the text
of the activity log does not fit. -/

variable {db : Db} {now : Instant} {auth : Option UserId} {i : IncidentId} {user : User}
  {incident : Incident} {out : Response × Db}

theorem write_engagedBy : [Incident.Column.takenBy, .etat, .takeInChargeMode, .takenInChargeAt,
    .antigelWarned75, .antigelWarned90].foldl
      (Incident.Column.write (incident.engagedBy user.id .internal now)) incident =
    incident.engagedBy user.id .internal now := by
  simp [Incident.Column.write, Incident.engagedBy]

theorem ledBy_id (incident : Incident) (user : UserId) (now : Instant) :
    (incident.ledBy user now).id = incident.id := by
  unfold Incident.ledBy
  split <;> rfl

theorem ledBy_progress (incident : Incident) (user : UserId) (now : Instant) :
    (incident.ledBy user now).progress = incident.progress := by
  unfold Incident.ledBy
  split <;> rfl

theorem write_ledBy : incident.ledColumns.foldl (Incident.Column.write (incident.ledBy user.id now))
    incident = incident.ledBy user.id now := by
  by_cases hetat : incident.etat = .declared <;>
    simp [Incident.ledBy, Incident.ledColumns, Incident.engagedBy, Incident.Column.write, hetat]

theorem handled_run {actionMessage : String}
    (h : (handleIncident.handled user incident actionMessage).run db = out) :
    out.2 = db.saveIncident incident ∨
      out.2 = (db.saveIncident incident).logAction user.id actionMessage := by
  unfold handleIncident.handled at h
  rw [Prog.run_bind, Prog.run_modify] at h
  rcases Db.createUserAction_run h with ⟨-, rfl⟩ | rfl
  · exact Or.inl rfl
  · exact Or.inr rfl

theorem handleIncident_run {action : Option HandleAction}
    (h : (handleIncident auth i action).run db = out) :
    Refused db out ∨
      ∃ user incident, db.authenticated auth = some user ∧
        db.incidents.get? i = some incident ∧
        ((action = some .takenIntoAccount ∧ incident.etat = .declared ∧
            (handleIncident.handled user { incident with etat := .taken, takenBy := some user.id }
              ("a pris en charge l'incident «" ++ printed incident.title ++ "».")).run db = out) ∨
          (action = some .resolved ∧ incident.etat = .taken ∧
            (handleIncident.handled user { incident with etat := .resolved }
              ("a résolu l'incident «" ++ printed incident.title ++ "».")).run db = out)) := by
  unfold handleIncident at h
  rcases authenticate_run h with h | ⟨user, hauth, h⟩
  · exact Or.inl h
  rcases getIncident_run h with h | ⟨incident, hinc, h⟩
  · exact Or.inl h
  cases action with
  | none => exact Or.inl (pure_run (by decide) h)
  | some action =>
      cases action with
      | takenIntoAccount =>
          rcases refuseIf_run (by decide) h with h | ⟨hetat, h⟩
          · exact Or.inl h
          · exact Or.inr ⟨user, incident, hauth, hinc, Or.inl ⟨rfl, by simpa using hetat, h⟩⟩
      | resolved =>
          rcases refuseIf_run (by decide) h with h | ⟨hetat, h⟩
          · exact Or.inl h
          · exact Or.inr ⟨user, incident, hauth, hinc, Or.inr ⟨rfl, by simpa using hetat, h⟩⟩

/-- The internal way saves the row, then looks for a seat. A seat that is
there stays as it is, even one of a contributor. -/
theorem takeInternal_run (huser : db.users.get? user.id = some user)
    (h : (takeInternal now user incident).run db = out) :
    Refused db out ∨
      incident.takenBy = none ∧ incident.takeInChargeMode = none ∧ incident.etat = .declared ∧
        Db.SetsSeat (db.saveIncidentFields (incident.engagedBy user.id .internal now)
          [.takenBy, .etat, .takeInChargeMode, .takenInChargeAt, .antigelWarned75,
            .antigelWarned90]) out.2 incident.id user.id
          ((db.seats incident.id user.id).or (some Seat.leader)) := by
  unfold takeInternal at h
  rcases refuseIf_run (by decide) h with h | ⟨hfree, h⟩
  · exact Or.inl h
  rcases refuseIf_run (Nat.le_refl _) h with h | ⟨hetat, h⟩
  · exact Or.inl h
  have hfree' : incident.takenBy = none ∧ incident.takeInChargeMode = none := by
    simpa [not_or] using hfree
  refine Or.inr ⟨hfree'.1, hfree'.2, by simpa using hetat, ?_⟩
  simp only [Prog.run_bind, Prog.run_modify] at h
  set db1 := db.saveIncidentFields (incident.engagedBy user.id .internal now)
    [.takenBy, .etat, .takeInChargeMode, .takenInChargeAt, .antigelWarned75, .antigelWarned90]
  have htaken : (db1.user? (incident.engagedBy user.id .internal now).takenBy).isSome :=
    Option.isSome_iff_exists.mpr ⟨user, huser⟩
  generalize hget : (getOrCreateCollaboration (incident.engagedBy user.id .internal now)
    (Db.newCollaboration incident.id user.id .leader .accepted)).run db1 = result at h
  obtain ⟨result, db2⟩ := result
  obtain ⟨row, created, rfl, -, -, -, hset⟩ := Db.getOrCreateLeader_run
    (incident.engagedBy user.id .internal now) htaken hget
  rcases Db.createUserAction_run h with ⟨-, rfl⟩ | rfl
  · exact hset
  · exact hset.logAction _ _

/-- The leader's way sets the seat of a leader, and then makes the
contributors that were accepted before wait for the new leader. -/
theorem takeLeader_run (huser : db.users.get? user.id = some user)
    (hnone : db.collaboration? incident.id user.id = none)
    (h : (takeLeader now user incident).run db = out) :
    Refused db out ∨
      incident.takenBy = none ∧
        ∃ db', Db.SetsSeat (db.saveIncidentFields (incident.ledBy user.id now) incident.ledColumns)
          db' incident.id user.id (some Seat.leader) ∧
          Db.MapsSeats db' out.2 incident.id (Seat.reset user.id) := by
  unfold takeLeader at h
  rcases refuseIf_run (by decide) h with h | ⟨hfree, h⟩
  · exact Or.inl h
  refine Or.inr ⟨by simpa using hfree, ?_⟩
  simp only [Prog.run_bind, Prog.run_modify, Prog.run_atomic] at h
  set db1 := db.saveIncidentFields (incident.ledBy user.id now) incident.ledColumns
  have htaken : (incident.ledBy user.id now).takenBy = some user.id := by
    unfold Incident.ledBy
    split <;> rfl
  have hkept : db1.receives (incident.ledBy user.id now).takenBy user.id .leader = true := by
    have huser' : db1.user? (some user.id) = some user := huser
    simp [Db.receives, htaken, huser']
  obtain ⟨row, db2, hcreate, -, hset⟩ := Db.createNew
    (incident.ledBy user.id now) .leader .accepted (show db1.collaboration? _ _ = none from hnone)
  rw [hkept, if_pos rfl] at hset
  refine ⟨db2, hset, ?_⟩
  simp only [hcreate, Prog.run_bind, Prog.run_atomic] at h
  rcases Db.createUserAction_run h with ⟨-, rfl⟩ | rfl
  · exact Db.mapsSeats_reset ..
  · exact (Db.mapsSeats_reset ..).logAction _ _

/-- An incident without a mode becomes collaborative when somebody joins it. -/
def Db.joinIncident (incident : Incident) (db : Db) : Db :=
  if incident.takeInChargeMode = none then db.openIncident incident else db

theorem takeJoin_run {role : CollabRole}
    (hnone : db.collaboration? incident.id user.id = none)
    (h : (takeJoin user incident role).run db = out) :
    ∃ db', db' = (db.createCollaboration incident
          (Db.newCollaboration incident.id user.id role (joinStatus incident role))).2 ∧
      Db.SetsSeat db db' incident.id user.id
        (if db.receives incident.takenBy user.id role then
          some ⟨role, joinStatus incident role⟩ else none) ∧
      (out = (.crash, db'.joinIncident incident) ∨
        ∃ message data id action,
          out = (.ok 200 (.takenInCharge message .collaborative (some role)
            (some (joinStatus incident role)) none data
            { Db.newCollaboration incident.id user.id role (joinStatus incident role) with
              id := id }),
            (db'.joinIncident incident).logAction user.id action)) := by
  unfold takeJoin at h
  obtain ⟨id, db', hcreate, hset⟩ := Db.createCollaboration_free incident
    (c := Db.newCollaboration incident.id user.id role (joinStatus incident role)) hnone
  refine ⟨db', by rw [hcreate], hset, ?_⟩
  simp only [Prog.run_bind, Prog.run_atomic, hcreate, Prog.run_when, Prog.run_modify] at h
  rcases Db.createUserAction_run h with ⟨-, rfl⟩ | rfl
  · exact Or.inl rfl
  · exact Or.inr ⟨_, _, _, _, rfl⟩

theorem takeCollaborative_run {role : CollabRole}
    (h : (takeCollaborative now user incident role).run db = out) :
    Refused db out ∨
      incident.takeInChargeMode ≠ some .internal ∧
        db.collaboration? incident.id user.id = none ∧
        (role = .leader ∧ (takeLeader now user incident).run db = out ∨
          role ≠ .leader ∧ (takeJoin user incident role).run db = out) := by
  unfold takeCollaborative at h
  rcases refuseIf_run (by decide) h with h | ⟨hmode, h⟩
  · exact Or.inl h
  rw [Prog.run_bind, Prog.run_read] at h
  cases hrow : db.collaboration? incident.id user.id with
  | some existing =>
      rw [hrow] at h
      exact Or.inl (pure_run (Nat.le_refl _) h)
  | none =>
      rw [hrow] at h
      refine Or.inr ⟨by simpa using hmode, rfl, ?_⟩
      cases role with
      | leader => exact Or.inl ⟨rfl, h⟩
      | contributor => exact Or.inr ⟨by decide, h⟩
      | observer => exact Or.inr ⟨by decide, h⟩

/-- The common part of the three ways: the role, a state that is not
`resolved`, and a mode and a role that are given and known. -/
theorem takeInCharge_run {mode : Choice TakeInChargeMode} {role : Choice CollabRole}
    (h : (takeInCharge now auth i mode role).run db = out) :
    Refused db out ∨
      ∃ user incident, db.authenticated auth = some user ∧ isOrgAdmin user = true ∧
        db.incidents.get? i = some incident ∧ incident.etat ≠ .resolved ∧
        (mode = .one .internal ∧ (takeInternal now user incident).run db = out ∨
          ∃ r, mode = .one .collaborative ∧ role = .one r ∧
            (takeCollaborative now user incident r).run db = out) := by
  unfold takeInCharge at h
  rcases authenticate_run h with h | ⟨user, hauth, h⟩
  · exact Or.inl h
  rcases permit_run h with h | ⟨hadmin, h⟩
  · exact Or.inl h
  rcases getIncident_run h with h | ⟨incident, hinc, h⟩
  · exact Or.inl h
  rcases refuseIf_run (by decide) h with h | ⟨hetat, h⟩
  · exact Or.inl h
  have hopen : incident.etat ≠ .resolved := by simpa [Incident.isResolved] using hetat
  cases mode with
  | notText => exact Or.inl (pure_run (by decide) h)
  | unknown => exact Or.inl (pure_run (by decide) h)
  | one mode =>
      cases mode with
      | internal => exact Or.inr ⟨user, incident, hauth, hadmin, hinc, hopen, Or.inl ⟨rfl, h⟩⟩
      | collaborative =>
          cases role with
          | notText => exact Or.inl (pure_run (by decide) h)
          | unknown => exact Or.inl (pure_run (by decide) h)
          | one r =>
              exact Or.inr ⟨user, incident, hauth, hadmin, hinc, hopen, Or.inr ⟨r, rfl, rfl, h⟩⟩

end Mapapi
