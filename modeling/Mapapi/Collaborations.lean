import Mapapi.Seats

/-!
# Requesting and answering a collaboration

`CollaborationView.post`, `BulkCollaborationRequestView`,
`HandleCollaborationRequestView`, `AcceptCollaborationView` and
`DeclineCollaborationView`.

The two ways to request a collaboration share one serializer. They do not
share the status the row starts with: the single request computes it from the
incident, the bulk request always asks (`pending`). Three endpoints answer a
request, with the same leader check and different further checks.
-/

namespace Mapapi

open Lib

/-! ## CollaborationSerializer -/

/-- The fields a client may write. `status` is not among them: the serializer
makes it read-only, since the leader decides it. -/
structure CollaborationData where
  incident : Arg IncidentId
  role : Arg CollabRole
  endDate : Arg Date
  motivation : Arg String
  otherOption : Arg String
  deriving DecidableEq

/-- What the serializer makes of valid data: the incident it has looked up, and
the values of the other fields. -/
structure ValidCollaboration where
  incident : Incident
  role : Option CollabRole
  endDate : Option Date
  motivation : Option String
  otherOption : Option String

def leaderRoleRefused : String :=
  "Le rôle 'leader' ne peut pas être demandé manuellement. " ++
    "Il est attribué automatiquement lors de la prise en charge de l'incident."

def incidentFieldProblem (db : Db) : Arg IncidentId → Option FieldProblem
  | .absent => some .required
  | .null => some .null
  | .invalid => some .invalid
  | .value i => if (db.incidents.get? i).isSome then none else some .doesNotExist

/-- The problem of the `role` field, which has a default and is not nullable. -/
def roleFieldProblem : Arg CollabRole → Option FieldProblem
  | .absent => none
  | .null => some .null
  | .invalid => some .invalid
  | .value role => if role = .leader then some (.text leaderRoleRefused) else none

def optionalFieldProblem {α : Type} (tooLong : α → Bool) : Arg α → Option FieldProblem
  | .absent | .null => none
  | .invalid => some .invalid
  | .value a => if tooLong a then some .tooLong else none

/-- The fields in the order of the serializer; every error is reported, not
only the first one. -/
def collaborationFieldErrors (db : Db) (data : CollaborationData) : List FieldError :=
  [("end_date", optionalFieldProblem (fun _ => false) data.endDate),
    ("motivation", optionalFieldProblem (fun _ => false) data.motivation),
    ("other_option", optionalFieldProblem (fun s => decide (s.length > 255))
      data.otherOption.stripped),
    ("role", roleFieldProblem data.role),
    ("incident", incidentFieldProblem db data.incident)].filterMap
    fun (field, problem) => problem.map fun problem => { field := field, problem := problem }

/-- `CollaborationSerializer.validate`, on fields without errors. -/
def validateCollaboration (now : Instant) (data : CollaborationData) (incident : Incident) :
    Option String :=
  if data.endDate.toOption.any fun d => decide (d ≤ now.date) then
    some "La date de fin doit être dans le futur"
  else if incident.isResolved then
    some "Impossible d'ajouter une collaboration : l'incident est clôturé."
  else none

/-- `CollaborationSerializer(data=...).is_valid()`: the fields first, each by
itself, and `validate` only on fields without errors. -/
def collaborationIsValid (now : Instant) (data : CollaborationData) (db : Db) :
    Except (List FieldError) ValidCollaboration :=
  match collaborationFieldErrors db data, data.incident.toOption.bind db.incidents.get? with
  | [], some incident =>
    match validateCollaboration now data incident with
    | some message => .error [{ field := "non_field_errors", problem := .text message }]
    | none => .ok
      { incident := incident
        role := data.role.toOption
        endDate := data.endDate.toOption
        motivation := data.motivation.stripped.toOption
        otherOption := data.otherOption.stripped.toOption }
  | errors, _ => .error errors

/-- The row that `serializer.save(user=..., status=...)` creates; an absent
role is the default of the column. -/
def ValidCollaboration.row (valid : ValidCollaboration) (user : UserId)
    (status : CollabStatus) : Collaboration :=
  { Db.newCollaboration valid.incident.id user (valid.role.getD .contributor) status with
    endDate := valid.endDate
    motivation := valid.motivation
    otherOption := valid.otherOption }

/-! ## CollaborationView.post -/

/-- The initial status of a request for collaboration. On an internal incident
everybody has to wait; otherwise an observer never does, and a contributor
only where there is somebody to decide. -/
def requestStatus (incident : Incident) (role : Option CollabRole) : CollabStatus :=
  if incident.takeInChargeMode = some .internal then .pending
  else if role = some .observer then .accepted
  else if role = some .contributor then
    if incident.takenBy = none then .accepted else .pending
  else .pending

/-- A row that stands in the way of a new request: pending or accepted. The
unique constraint knows no status, so any other row has to go first
(`dropOld`). -/
def Collaboration.isActive (c : Collaboration) : Bool :=
  decide (c.status = .pending ∨ c.status = .accepted)

/-- A request that was refused or terminated may be made again: its row goes. -/
def dropOld : Option Collaboration → Prog Db Unit
  | some old => Prog.modify (Db.deleteCollaboration old)
  | none => pure ()

/-- `CollaborationView.post`. An old row of the pair is deleted before the new
one is created, and the incident is opened after it, each in a save of its
own; the view does not look whether the receivers have left the new row there. -/
def requestCollaboration (now : Instant) (auth : Option UserId) (data : CollaborationData) :
    View :=
  authenticate auth fun user =>
  permit (isOrgOperative user) isOrgOperativeMessage do
  match ← Prog.read (collaborationIsValid now data) with
  | .error errors => pure (.invalid errors)
  | .ok valid => do
    let existing ← Prog.read fun db => db.collaboration? valid.incident.id user.id
    refuseIf (existing.any Collaboration.isActive)
      (.error 400 "Vous avez déjà une collaboration active sur cet incident.") do
    dropOld existing
    let status := requestStatus valid.incident valid.role
    match ← Prog.atomic (Db.createCollaboration valid.incident (valid.row user.id status)) with
    | none => pure .crash
    | some collaboration => do
      Prog.when (valid.incident.takeInChargeMode = none ∧ status = .accepted)
        (Prog.modify (Db.openIncident valid.incident))
      pure (.ok 201 (.collaboration collaboration))

/-! ## BulkCollaborationRequestView -/

structure BulkItem where
  incident : RawId
  role : Arg CollabRole
  endDate : Arg Date
  motivation : Arg String
  deriving DecidableEq

/-- The data an element is validated with. A key the client leaves out is passed
on as null. -/
def BulkItem.toData (item : BulkItem) (i : IncidentId) : CollaborationData :=
  { incident := .value i
    role := if item.role = .absent then .null else item.role
    endDate := item.endDate
    motivation := item.motivation
    otherOption := .absent }

/-- The elements one after the other. An element that cannot be stored (a
malformed id, a row that exists already) ends the request with an error; the
rows created before it stay. -/
def bulkItems (now : Instant) (user : User) (index : Nat) (created : List Collaboration)
    (errors : List BulkError) : List BulkItem → View
  | [] =>
    let message := toString created.length ++ " demande(s) de collaboration créée(s)."
    pure (.ok (if errors.isEmpty then 201 else 207) (.bulk created errors message))
  | item :: rest =>
    match item.incident with
    | .absent => bulkItems now user (index + 1) created (errors ++ [.missingId index]) rest
    | .malformed => pure .crash
    | .uuid i => do
      match ← Prog.read fun db => db.incidents.get? i with
      | none =>
        bulkItems now user (index + 1) created (errors ++ [.unknownIncident index i]) rest
      | some _ =>
        match ← Prog.read (collaborationIsValid now (item.toData i)) with
        | .error fieldErrors =>
          bulkItems now user (index + 1) created (errors ++ [.invalid index i fieldErrors]) rest
        | .ok valid =>
          match ← Prog.atomic (Db.createCollaboration valid.incident
              (valid.row user.id .pending)) with
          | none => pure .crash
          | some collaboration =>
            bulkItems now user (index + 1) (created ++ [collaboration]) errors rest

/-- `BulkCollaborationRequestView.post`; `none` is a `requests` that is not a list. -/
def bulkRequest (now : Instant) (auth : Option UserId) (requests : Option (List BulkItem)) :
    View :=
  authenticate auth fun user =>
  permit (isOrgAdmin user) isOrgAdminMessage <|
  match requests with
  | some (item :: rest) => bulkItems now user 0 [] [] (item :: rest)
  | _ => pure (.error 400 "requests doit être une liste non vide.")

/-! ## Answering a request -/

def Db.incidentOf (db : Db) (c : Collaboration) : Option Incident :=
  db.incidents.get? c.incident

/-- `is_leader`: the requester is `taken_by`, or has an accepted leader
collaboration. Unlike `IsIncidentLeader` it has no exception for a super
admin. -/
def isLeaderOf (user : User) (incident : Incident) : Prog Db Bool :=
  if incident.takenBy = some user.id then pure true
  else Prog.read fun db => db.leaderCollaborationExists incident.id user.id

/-- The check of the three answering endpoints: the requester leads the
incident of the row. A row without an incident makes the access to `taken_by`
raise. -/
def answersFor (user : User) (c : Collaboration) (refusal : String)
    (view : Incident → View) : View := do
  match ← Prog.read fun db => db.incidentOf c with
  | none => pure .crash
  | some incident =>
    if ← isLeaderOf user incident then view incident else pure (.error 403 refusal)

/-- Accept: store the status, and open an internal incident to others. These
are two saves of two tables, in this order. -/
def acceptRow (c : Collaboration) (incident : Incident) (reply : Response) : View := do
  Prog.modify (Db.saveCollaboration { c with status := .accepted })
  Prog.when (incident.takeInChargeMode = some .internal)
    (Prog.modify (Db.openIncident incident))
  pure reply

inductive HandleCollaborationAction where
  | accept
  | reject
  deriving DecidableEq

/-- `HandleCollaborationRequestView.post`; any other `action` is `none`. -/
def handleCollaboration (auth : Option UserId) (id : CollaborationId)
    (action : Option HandleCollaborationAction) : View :=
  authenticate auth fun user =>
  permit (isOrgAdmin user) isOrgAdminMessage do
  match ← Prog.read fun db => db.collaborationById? id with
  | none => pure (.error 404 "Collaboration not found")
  | some c =>
    match action with
    | none => pure (.error 400 "Invalid action")
    | some action =>
      answersFor user c
        "Seul le leader de l'incident peut gérer les demandes de collaboration."
        fun incident =>
      match action with
      | .accept => acceptRow c incident (.ok 200 (.text "Collaboration accepted"))
      | .reject => do
        Prog.modify (Db.saveCollaboration { c with status := .declined })
        pure (.ok 200 (.text "Collaboration rejected"))

/-- A row has expired on its end date already. Without an end date it never
does. -/
def Collaboration.expired (c : Collaboration) (now : Instant) : Bool :=
  c.endDate.any fun d => decide (d ≤ now.date)

/-- `AcceptCollaborationView.post`. It finds the row and the leader as
`HandleCollaborationRequestView` does, and refuses two more kinds of row: one
that is accepted already, and one that has expired. -/
def acceptCollaboration (now : Instant) (auth : Option UserId) (id : RawId) : View :=
  authenticate auth fun user =>
  permit (isOrgAdmin user) isOrgAdminMessage <|
  match id with
  | .absent => pure (.error 400 "collaboration_id is required")
  | .malformed => pure .crash
  | .uuid id => do
    match ← Prog.read fun db => db.collaborationById? id with
    | none => pure (.error 404 "Collaboration non trouvée")
    | some c =>
      answersFor user c "Seul le leader de l'incident peut accepter une collaboration."
        fun incident =>
      refuseIf (decide (c.status = .accepted))
        (.error 400 "Cette collaboration a déjà été acceptée") <|
      refuseIf (c.expired now)
        (.error 400 "Cette collaboration a expiré") <|
      acceptRow c incident (.ok 200 (.text "Collaboration acceptée avec succès"))

/-- The message of the notification that a decline stores and deletes again. -/
def declineMessage (incident : Incident) : String :=
  "Votre demande de collaboration sur l'incident « " ++ printed incident.title ++
    " » a été déclinée."

/-- `DeclineCollaborationView.post`. An id that is not a UUID, and a message
that does not fit, are caught by the view and answered 500 as well. -/
def declineCollaboration (auth : Option UserId) (id : RawId) : View :=
  authenticate auth fun user =>
  permit (isOrgAdmin user) isOrgAdminMessage <|
  match id with
  | .absent => pure (.error 404 "Collaboration non trouvée")
  | .malformed => pure .crash
  | .uuid id => do
    match ← Prog.read fun db => db.collaborationById? id with
    | none => pure (.error 404 "Collaboration non trouvée")
    | some c =>
      answersFor user c "Seul le leader de l'incident peut décliner une collaboration."
        fun incident => do
      Prog.modify (Db.saveCollaboration { c with status := .declined })
      if (declineMessage incident).length ≤ maxTextLength then
        pure (.ok 200 (.text "Collaboration déclinée et notification supprimée."))
      else pure .crash

/-! ## What the serializer accepts -/

variable {db : Db} {now : Instant} {auth : Option UserId} {user : User} {i : IncidentId}
  {data : CollaborationData} {valid : ValidCollaboration} {out : Response × Db}

/-- Valid data names an existing incident that is not closed, and asks for
another role than the leader's. -/
theorem collaborationIsValid_ok (h : collaborationIsValid now data db = .ok valid) :
    data.incident = .value valid.incident.id ∧
      db.incidents.get? valid.incident.id = some valid.incident ∧
      valid.incident.etat ≠ .resolved ∧ valid.role = data.role.toOption ∧
      valid.role ≠ some .leader := by
  unfold collaborationIsValid at h
  split at h
  · rename_i incident herrors hincident
    split at h
    · cases h
    · rename_i hvalid
      cases h
      obtain ⟨i, hi, hrow⟩ := Option.bind_eq_some_iff.mp hincident
      have hid : incident.id = i := Table.key_of_get? hrow
      have hdata : data.incident = .value i := by
        cases hdata : data.incident <;> rw [hdata] at hi <;> cases hi
        rfl
      have hopen : incident.etat ≠ .resolved := by
        unfold validateCollaboration at hvalid
        split at hvalid
        · cases hvalid
        · split at hvalid
          · cases hvalid
          · rename_i hopen
            simpa [Incident.isResolved] using hopen
      have hrole : data.role.toOption ≠ some .leader := by
        intro hleader
        have : data.role = .value .leader := by
          cases hdata' : data.role <;> rw [hdata'] at hleader <;> cases hleader
          rfl
        simp [collaborationFieldErrors, roleFieldProblem, this] at herrors
      exact ⟨by rw [hdata, hid], by rw [hid, hrow], hopen, rfl, hrole⟩
  · cases h

theorem getD_ne_leader {role : Option CollabRole} (h : role ≠ some .leader) :
    role.getD .contributor ≠ .leader := by
  cases role with
  | none => decide
  | some role => exact fun heq => h (congrArg some heq)

/-! ## What the requests do -/

theorem dropOld_run (db : Db) (i : IncidentId) (u : UserId) :
    Db.SetsSeat db ((dropOld (db.collaboration? i u)).run db).2 i u none := by
  cases hold : db.collaboration? i u with
  | none =>
      have hself : Db.SetsSeat db db i u _ := Db.SetsSeat.self
      rwa [Db.seats, hold] at hself
  | some old =>
      obtain ⟨rfl, rfl⟩ := Db.collaboration?_key hold
      exact Db.setsSeat_deleteCollaboration old

/-- All that a request can end in: refused, with the store as it was, or a
seat is set. The seat that is stored is not always the one that is answered
with, since the receiver of the new row can delete it again when there is no
leader to tell (`Db.receives`). An incident without a mode is opened when the
request is accepted at once. -/
theorem requestCollaboration_run (h : (requestCollaboration now auth data).run db = out) :
    Refused db out ∨
      ∃ user valid db', db.authenticated auth = some user ∧ isOrgOperative user = true ∧
        collaborationIsValid now data db = .ok valid ∧
        (∀ c, db.collaboration? valid.incident.id user.id = some c → c.isActive = false) ∧
        Db.SetsSeat db db' valid.incident.id user.id
          (if db.receives valid.incident.takenBy user.id (valid.role.getD .contributor) then
            some ⟨valid.role.getD .contributor, requestStatus valid.incident valid.role⟩
          else none) ∧
        (∃ id, out.1 = .ok 201 (.collaboration
          { valid.row user.id (requestStatus valid.incident valid.role) with id := id })) ∧
        out.2 =
          if valid.incident.takeInChargeMode = none ∧
              requestStatus valid.incident valid.role = .accepted then
            db'.openIncident valid.incident
          else db' := by
  unfold requestCollaboration at h
  rcases authenticate_run h with h | ⟨user, hauth, h⟩
  · exact Or.inl h
  rcases permit_run h with h | ⟨hoperative, h⟩
  · exact Or.inl h
  rw [Prog.run_bind, Prog.run_read] at h
  cases hvalid : collaborationIsValid now data db with
  | error errors =>
      rw [hvalid] at h
      exact Or.inl (pure_run (Nat.le_refl _) h)
  | ok valid =>
      rw [hvalid] at h
      simp only [Prog.run_bind, Prog.run_read] at h
      rcases refuseIf_run (by decide) h with h | ⟨hactive, h⟩
      · exact Or.inl h
      have hold : ∀ c, db.collaboration? valid.incident.id user.id = some c →
          c.isActive = false := by
        intro c hc
        simpa [hc] using hactive
      have hdrop := dropOld_run db valid.incident.id user.id
      rw [Prog.run_bind] at h
      set db1 := ((dropOld (db.collaboration? valid.incident.id user.id)).run db).2
      have hfree : db1.collaboration? valid.incident.id user.id = none := by
        have hseat := hdrop.seats valid.incident.id user.id
        rw [if_pos ⟨rfl, rfl⟩] at hseat
        exact Option.map_eq_none_iff.mp hseat
      obtain ⟨id, db', hcreate, hset⟩ := Db.createCollaboration_free
        valid.incident
        (c := valid.row user.id (requestStatus valid.incident valid.role)) hfree
      rw [hdrop.rows.receives] at hset
      simp only [Prog.run_bind, Prog.run_atomic, hcreate, Prog.run_when, Prog.run_modify,
        Prog.run_pure] at h
      subst h
      exact Or.inr ⟨user, valid, db', hauth, hoperative, rfl, hold, hdrop.trans hset,
        ⟨_, rfl⟩, rfl⟩

/-- One element of a bulk request: the request ends in an error, or goes on
with the store as it is, or with one more pending row. -/
theorem bulkItems_cons_run {index : Nat} {created : List Collaboration}
    {errors : List BulkError} {item : BulkItem} {rest : List BulkItem}
    (h : (bulkItems now user index created errors (item :: rest)).run db = out) :
    out = (.crash, db) ∨
      ∃ created' errors' db', (bulkItems now user (index + 1) created' errors' rest).run db' = out ∧
        (created' = created ∧ db' = db ∨
          ∃ valid id, item.incident = .uuid valid.incident.id ∧
            collaborationIsValid now (item.toData valid.incident.id) db = .ok valid ∧
            db.collaboration? valid.incident.id user.id = none ∧
            created' = created ++ [{ valid.row user.id .pending with id := id }] ∧
            db.createCollaboration valid.incident (valid.row user.id .pending) =
              (some { valid.row user.id .pending with id := id }, db') ∧
            Db.SetsSeat db db' valid.incident.id user.id
              (if db.receives valid.incident.takenBy user.id (valid.role.getD .contributor) then
                some ⟨valid.role.getD .contributor, .pending⟩ else none)) := by
  unfold bulkItems at h
  cases hitem : item.incident with
  | absent =>
      rw [hitem] at h
      exact Or.inr ⟨_, _, _, h, Or.inl ⟨rfl, rfl⟩⟩
  | malformed =>
      rw [hitem] at h
      exact Or.inl h.symm
  | uuid i =>
      simp only [hitem, Prog.run_bind, Prog.run_read] at h
      cases hrow : db.incidents.get? i with
      | none =>
          rw [hrow] at h
          exact Or.inr ⟨_, _, _, h, Or.inl ⟨rfl, rfl⟩⟩
      | some incident =>
          simp only [hrow, Prog.run_bind, Prog.run_read] at h
          cases hvalid : collaborationIsValid now (item.toData i) db with
          | error fieldErrors =>
              rw [hvalid] at h
              exact Or.inr ⟨_, _, _, h, Or.inl ⟨rfl, rfl⟩⟩
          | ok valid =>
              simp only [hvalid, Prog.run_bind, Prog.run_atomic] at h
              have hi : i = valid.incident.id := by
                have := (collaborationIsValid_ok hvalid).1
                simpa [BulkItem.toData] using this
              subst hi
              cases hexists : db.collaboration? valid.incident.id user.id with
              | some row =>
                  have hfail : db.createCollaboration valid.incident (valid.row user.id .pending) =
                      (none, db) := by
                    unfold Db.createCollaboration
                    exact if_pos (Option.isSome_iff_exists.mpr ⟨row, hexists⟩)
                  rw [hfail] at h
                  exact Or.inl h.symm
              | none =>
                  obtain ⟨id, db', hcreate, hset⟩ := Db.createCollaboration_free
                    valid.incident (c := valid.row user.id .pending) hexists
                  rw [hcreate] at h
                  exact Or.inr ⟨_, _, db', h,
                    Or.inr ⟨valid, id, rfl, hvalid, hexists, rfl, hcreate, hset⟩⟩

/-- What a bulk request of `u` does to seats: on some incidents that are not
closed, where `u` had no seat, it leaves a pending one. -/
structure BulkRequested (u : UserId) (db db' : Db) : Prop where
  rows : Db.SameRows db db'
  others : ∀ j v, v ≠ u → db'.seats j v = db.seats j v
  own : ∀ j, db'.seats j u = db.seats j u ∨
    db.seats j u = none ∧ ∃ incident role, db.incidents.get? j = some incident ∧
      incident.etat ≠ .resolved ∧ role ≠ .leader ∧
      db.receives incident.takenBy u role = true ∧ db'.seats j u = some ⟨role, .pending⟩

theorem BulkRequested.refl {u : UserId} : BulkRequested u db db :=
  ⟨Db.SameRows.refl, fun _ _ _ => rfl, fun _ => Or.inl rfl⟩

theorem BulkRequested.trans {u : UserId} {db' db'' : Db} (h : BulkRequested u db db')
    (h' : BulkRequested u db' db'') : BulkRequested u db db'' := by
  refine ⟨h.rows.trans h'.rows, fun j v hv => (h'.others j v hv).trans (h.others j v hv),
    fun j => ?_⟩
  rcases h'.own j with hsame | ⟨hnone, incident, role, hinc, hopen, hrole, hkept, hnew⟩
  · rw [hsame]
    exact h.own j
  · rcases h.own j with hsame | ⟨-, _, _, _, _, _, _, hold⟩
    · rw [h.rows.incidents] at hinc
      rw [h.rows.receives] at hkept
      rw [hsame] at hnone
      exact Or.inr ⟨hnone, incident, role, hinc, hopen, hrole, hkept, hnew⟩
    · rw [hnone] at hold
      cases hold

theorem BulkRequested.of_setsSeat {u : UserId} {db' : Db} {role : CollabRole}
    {incident : Incident} (hinc : db.incidents.get? i = some incident)
    (hopen : incident.etat ≠ .resolved) (hrole : role ≠ .leader)
    (hfree : db.collaboration? i u = none)
    (h : Db.SetsSeat db db' i u
      (if db.receives incident.takenBy u role then some ⟨role, .pending⟩ else none)) :
    BulkRequested u db db' := by
  have hnone : db.seats i u = none := congrArg (Option.map Collaboration.seat) hfree
  refine ⟨h.rows, fun j v hv => ?_, fun j => ?_⟩
  · rw [h.seats, if_neg fun hjv => hv hjv.2]
  · by_cases hj : j = i
    · subst hj
      rw [h.seats, if_pos ⟨rfl, rfl⟩]
      cases hkept : db.receives incident.takenBy u role with
      | false => exact Or.inl hnone.symm
      | true => exact Or.inr ⟨hnone, incident, role, hinc, hopen, hrole, hkept, rfl⟩
    · rw [h.seats, if_neg fun hju => hj hju.1]
      exact Or.inl rfl

theorem bulkItems_run {items : List BulkItem} {index : Nat} {created : List Collaboration}
    {errors : List BulkError} (h : (bulkItems now user index created errors items).run db = out) :
    BulkRequested user.id db out.2 := by
  induction items generalizing index created errors db with
  | nil =>
      subst h
      exact BulkRequested.refl
  | cons item rest ih =>
      rcases bulkItems_cons_run h with
        rfl | ⟨_, _, db', hrest, ⟨-, rfl⟩ | ⟨valid, id, -, hvalid, hfree, -, -, hset⟩⟩
      · exact BulkRequested.refl
      · exact ih hrest
      · obtain ⟨-, hinc, hopen, -, hleader⟩ := collaborationIsValid_ok hvalid
        exact (BulkRequested.of_setsSeat hinc hopen (getD_ne_leader hleader) hfree hset).trans
          (ih hrest)

theorem bulkRequest_run {requests : Option (List BulkItem)}
    (h : (bulkRequest now auth requests).run db = out) :
    Refused db out ∨
      ∃ user items, db.authenticated auth = some user ∧ isOrgAdmin user = true ∧
        requests = some items ∧ (bulkItems now user 0 [] [] items).run db = out := by
  unfold bulkRequest at h
  rcases authenticate_run h with h | ⟨user, hauth, h⟩
  · exact Or.inl h
  rcases permit_run h with h | ⟨hadmin, h⟩
  · exact Or.inl h
  cases requests with
  | none => exact Or.inl (pure_run (by decide) h)
  | some items =>
      cases items with
      | nil => exact Or.inl (pure_run (by decide) h)
      | cons item rest => exact Or.inr ⟨user, item :: rest, hauth, hadmin, rfl, h⟩

/-! ### Answers -/

theorem isLeaderOf_run {incident : Incident} :
    (isLeaderOf user incident).run db =
      (decide (incident.takenBy = some user.id ∨
        db.leaderCollaborationExists incident.id user.id = true), db) := by
  unfold isLeaderOf
  by_cases htaken : incident.takenBy = some user.id
  · simp [htaken]
  · cases hrow : db.leaderCollaborationExists incident.id user.id <;> simp [htaken, hrow]

theorem answersFor_run {c : Collaboration} {refusal : String} {view : Incident → View}
    (h : (answersFor user c refusal view).run db = out) :
    Refused db out ∨
      ∃ incident, db.incidents.get? c.incident = some incident ∧
        (incident.takenBy = some user.id ∨
          db.leaderCollaborationExists c.incident user.id = true) ∧
        (view incident).run db = out := by
  unfold answersFor Db.incidentOf at h
  rw [Prog.run_bind, Prog.run_read] at h
  cases hinc : db.incidents.get? c.incident with
  | none =>
      rw [hinc] at h
      exact Or.inl (pure_run (by decide) h)
  | some incident =>
      have hid : incident.id = c.incident := Table.key_of_get? hinc
      simp only [hinc, Prog.run_bind, isLeaderOf_run, hid] at h
      by_cases hleads : incident.takenBy = some user.id ∨
          db.leaderCollaborationExists c.incident user.id = true
      · simp only [hleads, decide_true, ↓reduceIte] at h
        exact Or.inr ⟨incident, rfl, hleads, h⟩
      · simp only [hleads, decide_false, Bool.false_eq_true, ↓reduceIte] at h
        have hstatus : 400 ≤ (Response.error 403 refusal).status := Nat.le_of_ble_eq_true rfl
        exact Or.inl (pure_run hstatus h)

theorem acceptRow_run {c : Collaboration} {incident : Incident} {reply : Response}
    (h : (acceptRow c incident reply).run db = out) :
    out.1 = reply ∧ out.2 =
      if incident.takeInChargeMode = some .internal then
        (db.saveCollaboration { c with status := .accepted }).openIncident incident
      else db.saveCollaboration { c with status := .accepted } := by
  unfold acceptRow at h
  simp only [Prog.run_bind, Prog.run_modify, Prog.run_when, Prog.run_pure] at h
  subst h
  exact ⟨rfl, rfl⟩

/-- Who answers a request and about which row: an organisation admin that
leads the incident of the row. All three endpoints come down to this, and what
they add to it only refuses more. -/
structure Answers (db : Db) (auth : Option UserId) (id : CollaborationId) (user : User)
    (c : Collaboration) (incident : Incident) : Prop where
  signedIn : db.authenticated auth = some user
  admin : isOrgAdmin user = true
  row : db.collaborationById? id = some c
  about : db.incidents.get? c.incident = some incident
  leads : incident.takenBy = some user.id ∨
    db.leaderCollaborationExists c.incident user.id = true

/-- The old endpoint, by its two actions. Unlike the new one it asks nothing
of the row that it answers: neither that it is pending nor that it has not
expired. -/
theorem handleCollaboration_run {id : CollaborationId}
    {action : Option HandleCollaborationAction}
    (h : (handleCollaboration auth id action).run db = out) :
    Refused db out ∨
      ∃ user c incident, Answers db auth id user c incident ∧
        (action = some .accept ∧
            (acceptRow c incident (.ok 200 (.text "Collaboration accepted"))).run db = out ∨
          action = some .reject ∧
            out.2 = db.saveCollaboration { c with status := .declined }) := by
  unfold handleCollaboration at h
  rcases authenticate_run h with h | ⟨user, hauth, h⟩
  · exact Or.inl h
  rcases permit_run h with h | ⟨hadmin, h⟩
  · exact Or.inl h
  rw [Prog.run_bind, Prog.run_read] at h
  cases hrow : db.collaborationById? id with
  | none =>
      rw [hrow] at h
      exact Or.inl (pure_run (by decide) h)
  | some c =>
      rw [hrow] at h
      cases action with
      | none => exact Or.inl (pure_run (by decide) h)
      | some action =>
          rcases answersFor_run h with h | ⟨incident, hinc, hleads, h⟩
          · exact Or.inl h
          refine Or.inr ⟨user, c, incident, ⟨hauth, hadmin, hrow, hinc, hleads⟩, ?_⟩
          cases action with
          | accept => exact Or.inl ⟨rfl, h⟩
          | reject =>
              subst h
              exact Or.inr ⟨rfl, rfl⟩

/-- The new endpoint accepts what the old one does, and looks at the row
first: it is not accepted yet and has not expired. -/
theorem acceptCollaboration_run {rawId : RawId}
    (h : (acceptCollaboration now auth rawId).run db = out) :
    Refused db out ∨
      ∃ id user c incident, rawId = .uuid id ∧ Answers db auth id user c incident ∧
        c.status ≠ .accepted ∧ c.expired now = false ∧
        (acceptRow c incident (.ok 200 (.text "Collaboration acceptée avec succès"))).run db =
          out := by
  unfold acceptCollaboration at h
  rcases authenticate_run h with h | ⟨user, hauth, h⟩
  · exact Or.inl h
  rcases permit_run h with h | ⟨hadmin, h⟩
  · exact Or.inl h
  cases rawId with
  | absent => exact Or.inl (pure_run (by decide) h)
  | malformed => exact Or.inl (pure_run (by decide) h)
  | uuid id =>
      rw [Prog.run_bind, Prog.run_read] at h
      cases hrow : db.collaborationById? id with
      | none =>
          rw [hrow] at h
          exact Or.inl (pure_run (by decide) h)
      | some c =>
          rw [hrow] at h
          rcases answersFor_run h with h | ⟨incident, hinc, hleads, h⟩
          · exact Or.inl h
          rcases refuseIf_run (by decide) h with h | ⟨hstatus, h⟩
          · exact Or.inl h
          rcases refuseIf_run (by decide) h with h | ⟨hexpired, h⟩
          · exact Or.inl h
          exact Or.inr ⟨id, user, c, incident, rfl, ⟨hauth, hadmin, hrow, hinc, hleads⟩,
            by simpa using hstatus, hexpired, h⟩

theorem declineCollaboration_run {rawId : RawId}
    (h : (declineCollaboration auth rawId).run db = out) :
    Refused db out ∨
      ∃ id user c incident, rawId = .uuid id ∧ Answers db auth id user c incident ∧
        out.2 = db.saveCollaboration { c with status := .declined } := by
  unfold declineCollaboration at h
  rcases authenticate_run h with h | ⟨user, hauth, h⟩
  · exact Or.inl h
  rcases permit_run h with h | ⟨hadmin, h⟩
  · exact Or.inl h
  cases rawId with
  | absent => exact Or.inl (pure_run (by decide) h)
  | malformed => exact Or.inl (pure_run (by decide) h)
  | uuid id =>
      rw [Prog.run_bind, Prog.run_read] at h
      cases hrow : db.collaborationById? id with
      | none =>
          rw [hrow] at h
          exact Or.inl (pure_run (by decide) h)
      | some c =>
          rw [hrow] at h
          rcases answersFor_run h with h | ⟨incident, hinc, hleads, h⟩
          · exact Or.inl h
          refine Or.inr ⟨id, user, c, incident, rfl, ⟨hauth, hadmin, hrow, hinc, hleads⟩, ?_⟩
          rw [Prog.run_bind, Prog.run_modify, Prog.run_ite] at h
          split at h <;> subst h <;> rfl

end Mapapi
