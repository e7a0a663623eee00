import Mapapi.Seats

/-!
# Closing, resolving, disengaging

The legacy closure and the resolution workflow:

    taken_into_account -> resolution_prepared      (PrepareResolutionView)
    resolution_prepared -> taken_into_account      (ReturnForCompletionView)
    taken_into_account, resolution_prepared
      -> in_validation                             (DeclareResolvedView)
    in_validation -> resolved_definitive           (ValidateResolutionView)
    in_validation -> taken_into_account            (RejectResolutionView)

and `DisengageIncidentView`, by which a leader gives an engaged incident back.

Every endpoint reads the row and checks `etat` on what it has read. The
workflow saves the columns it has changed; the legacy closure saves the whole
row. The check of the closure knows `resolved` only: an incident that is
`resolved_definitive` does not count as closed for it. Validating ends the
accepted collaborations of the incident and the closure leaves them alone;
disengaging ends those of the leader who leaves, and the lead is offered to the
contributors, or the incident is declared again when there are none.
-/

namespace Mapapi

open Lib

/-- `terminate_active_collaborations`: an `update` of the accepted rows, which
runs no receiver. Pending rows stay pending. -/
def terminateActiveCollaborations (i : IncidentId) (db : Db) : Db :=
  db.updateCollaborations (fun c => decide (c.incident = i ∧ c.status = .accepted)) id
    .terminated

/-! ## CloseIncidentView -/

/-- The tasks of an incident that are neither done nor failed. -/
def Db.openTasks (db : Db) (i : IncidentId) : List IncidentTask :=
  db.tasks.select fun task =>
    decide (task.incident = i ∧ task.state ≠ .done ∧ task.state ≠ .failed)

def resolutionDatesRequired : Response :=
  .error 400 "resolution_start_date et resolution_end_date sont obligatoires."

/-- `CloseIncidentView.post`. A date that is given but cannot be parsed passes
the check of the view and fails in `save`. -/
def closeIncident (auth : Option UserId) (i : IncidentId) (startDate endDate : Arg Date) :
    View :=
  authenticate auth fun user =>
  permit (isOrgAdmin user) isOrgAdminMessage <|
  permitLeader user i <|
  getIncident i incidentNotFound fun incident =>
  refuseIf (decide (incident.etat = .resolved))
    (.error 400 "Cet incident est déjà clôturé.") <|
  refuseIf (decide (startDate = .absent ∨ startDate = .null ∨ endDate = .absent ∨
    endDate = .null)) resolutionDatesRequired do
  let openTasks ← Prog.read fun db => db.openTasks i
  refuseIf (!openTasks.isEmpty) (.error 400 ("Impossible de clôturer : " ++
    toString openTasks.length ++ " tâche(s) non terminée(s).")) <|
    match startDate, endDate with
    | .value start, .value stop => do
      let incident' := { incident with
        etat := .resolved
        resolutionStartDate := some start
        resolutionEndDate := some stop }
      Prog.modify (Db.saveIncident incident')
      pure (.ok 200 (.incident none incident'.pinProgress))
    | _, _ => pure .crash

/-! ## The resolution workflow -/

/-- The end of the steps of the workflow: the columns are saved, and the row
that is answered is the one in memory. -/
def saveAndReply (incident : Incident) (columns : List Incident.Column)
    (message : Option String) : View := do
  Prog.modify (Db.saveIncidentFields incident columns)
  pure (.ok 200 (.incident message incident.pinProgress))

/-- `PrepareResolutionView.post`. An admin or office agent of any organisation
may prepare the resolution; that the organisation has to do with the incident
is not asked. -/
def prepareResolution (now : Instant) (auth : Option UserId) (i : IncidentId) : View :=
  authenticate auth fun user =>
  permit (isOrgOperative user) isOrgOperativeMessage <|
  getIncident i incidentNotFound fun incident =>
  refuseIf (decide (incident.etat ≠ .taken)) (.error 400
    "Une résolution ne peut être préparée que pour un incident « Pris en compte ».") <|
  saveAndReply { incident with
      etat := .resolutionPrepared
      resolutionSubmittedBy := some user.id
      resolutionSubmittedAt := some now }
    [.etat, .resolutionSubmittedBy, .resolutionSubmittedAt] none

/-- `ReturnForCompletionView.post`. What was prepared stays on the row, only
`etat` goes back; again any org admin will do. -/
def returnForCompletion (auth : Option UserId) (i : IncidentId) : View :=
  authenticate auth fun user =>
  permit (isOrgAdmin user) isOrgAdminMessage <|
  getIncident i incidentNotFound fun incident =>
  refuseIf (decide (incident.etat ≠ .resolutionPrepared)) (.error 400
    "Seul un dossier « Résolution préparée » peut être renvoyé pour complément.") <|
  saveAndReply { incident with etat := .taken } [.etat] none

/-- `DeclareResolvedView.post`. It starts the 72 hours after which the
resolution counts as validated when no super admin has answered. -/
def declareResolved (now : Instant) (auth : Option UserId) (i : IncidentId) : View :=
  authenticate auth fun user =>
  permit (isOrgAdmin user) isOrgAdminMessage <|
  getIncident i incidentNotFound fun incident =>
  refuseIf (decide (incident.etat ≠ .taken ∧ incident.etat ≠ .resolutionPrepared)) (.error 400
    ("Un incident ne peut être déclaré résolu que s'il est « Pris en compte » " ++
      "ou « Résolution préparée ».")) <|
  saveAndReply { incident with
      etat := .inValidation
      validationDeadline := some (now + hours 72) }
    [.etat, .validationDeadline] none

/-- `ValidateResolutionView.post`. It saves `etat` alone, and ends the
accepted collaborations afterwards, in another action. -/
def validateResolution (auth : Option UserId) (i : IncidentId) : View :=
  authenticate auth fun user =>
  permit (isSuperAdmin user) isSuperAdminRoleMessage <|
  getIncident i incidentNotFound fun incident =>
  refuseIf (decide (incident.etat ≠ .inValidation))
    (.error 400 "Seule une résolution « en validation » peut être validée.") do
  let incident' := { incident with etat := .resolvedDefinitive }
  Prog.modify (Db.saveIncidentFields incident' [.etat])
  Prog.modify (terminateActiveCollaborations i)
  pure (.ok 200 (.incident none incident'.pinProgress))

/-- `RejectResolutionView.post`; a `motif` that is blank once stripped is
`.unknown`. -/
def rejectResolution (auth : Option UserId) (i : IncidentId) (motif : Choice String) : View :=
  authenticate auth fun user =>
  permit (isSuperAdmin user) isSuperAdminRoleMessage <|
  getIncident i incidentNotFound fun incident =>
  refuseIf (decide (incident.etat ≠ .inValidation))
    (.error 400 "Seule une résolution « en validation » peut être refusée.") <|
  match motif with
  | .notText => pure .crash
  | .unknown => pure (.error 400 "Le motif de refus est obligatoire.")
  | .one motif =>
    saveAndReply { incident with etat := .taken, rejectionReason := some motif }
      [.etat, .rejectionReason] none

/-! ## DisengageIncidentView -/

/-- The in-memory row of an incident whose leader leaves. The anti-gel flags
keep their values. -/
def Incident.released (incident : Incident) : Incident :=
  { incident with takenBy := none, takeInChargeMode := none, takenInChargeAt := none }

/-- `DisengageIncidentView.post`. The rows of the leader are ended first,
whatever their status. If accepted contributors are left, the lead is offered
to all of them and the incident stays taken into account, without a leader;
otherwise it is declared again. -/
def disengage (auth : Option UserId) (i : IncidentId) : View :=
  authenticate auth fun user =>
  permit (isOrgAdmin user) isOrgAdminMessage <|
  permitLeader user i <|
  getIncident i incidentNotFound fun incident =>
  refuseIf (decide (incident.etat ≠ .taken)) (.error 400
    "On ne peut se désengager que d'un incident « Pris en compte ».") do
  Prog.modify fun db => db.updateCollaborations
    (fun c => decide (c.incident = i ∧ c.user = user.id)) id .terminated
  if ← Prog.read fun db =>
      !(db.collaborations.select (otherContributors i user.id)).isEmpty then do
    -- the contributors are offered the lead: they have to accept it
    Prog.modify fun db => db.updateCollaborations (otherContributors i user.id)
      (fun _ => .leader) .pending
    saveAndReply incident.released [.takenBy, .takeInChargeMode, .takenInChargeAt]
      (some "Désengagement effectué : le leadership est proposé aux contributeurs.")
  else do
    Prog.modify (terminateActiveCollaborations i)
    saveAndReply { incident.released with etat := .declared }
      [.etat, .takenBy, .takeInChargeMode, .takenInChargeAt]
      (some "Désengagement effectué : l'incident repasse « Déclaré ».")

/-! ## What the requests do -/

variable {db : Db} {now : Instant} {auth : Option UserId} {i : IncidentId}
  {out : Response × Db}

theorem mapsSeats_terminate :
    Db.MapsSeats db (terminateActiveCollaborations i db) i fun _ => Seat.terminate := by
  refine Db.mapsSeats_updateCollaborations (fun _ s => s.status = .accepted) fun c => ?_
  simp only [Collaboration.seat, decide_eq_true_eq]

/-- The closure checks more than any other endpoint, and all of it on what it
has read before: the role, the lead, the state, the dates, and the open tasks.
Note that the state is compared with `resolved` alone. -/
theorem closeIncident_run {startDate endDate : Arg Date}
    (h : (closeIncident auth i startDate endDate).run db = out) :
    Refused db out ∨
      ∃ user incident start stop, db.authenticated auth = some user ∧
        isOrgAdmin user = true ∧ db.leads user i = true ∧
        db.incidents.get? i = some incident ∧ incident.etat ≠ .resolved ∧
        startDate = .value start ∧ endDate = .value stop ∧ db.openTasks i = [] ∧
        out.2 = db.saveIncident { incident with
          etat := .resolved
          resolutionStartDate := some start
          resolutionEndDate := some stop } := by
  unfold closeIncident at h
  rcases authenticate_run h with h | ⟨user, hauth, h⟩
  · exact Or.inl h
  rcases permit_run h with h | ⟨hadmin, h⟩
  · exact Or.inl h
  rcases permitLeader_run h with h | ⟨hleads, h⟩
  · exact Or.inl h
  rcases getIncident_run h with h | ⟨incident, hinc, h⟩
  · exact Or.inl h
  rcases refuseIf_run (by decide) h with h | ⟨hetat, h⟩
  · exact Or.inl h
  rcases refuseIf_run (by decide) h with h | ⟨-, h⟩
  · exact Or.inl h
  rw [Prog.run_bind, Prog.run_read] at h
  rcases refuseIf_run (Nat.le_refl _) h with h | ⟨htasks, h⟩
  · exact Or.inl h
  have hopen : incident.etat ≠ .resolved := by simpa using hetat
  have htasks' : db.openTasks i = [] := by simpa using htasks
  cases startDate with
  | value start =>
      cases endDate with
      | value stop =>
          subst h
          exact Or.inr ⟨user, incident, start, stop, hauth, hadmin, hleads, hinc, hopen, rfl, rfl,
            htasks', rfl⟩
      | absent => exact Or.inl (pure_run (by decide) h)
      | null => exact Or.inl (pure_run (by decide) h)
      | invalid => exact Or.inl (pure_run (by decide) h)
  | absent => exact Or.inl (pure_run (by decide) h)
  | null => exact Or.inl (pure_run (by decide) h)
  | invalid => exact Or.inl (pure_run (by decide) h)

theorem closeIncident_passes {user : User} {incident : Incident} {start stop : Date}
    (hauth : db.authenticated auth = some user) (hadmin : isOrgAdmin user = true)
    (hleads : db.leads user i = true) (hinc : db.incidents.get? i = some incident)
    (hetat : incident.etat ≠ .resolved) (htasks : db.openTasks i = []) :
    ((closeIncident auth i (.value start) (.value stop)).run db).2 =
      db.saveIncident { incident with
        etat := .resolved
        resolutionStartDate := some start
        resolutionEndDate := some stop } := by
  unfold closeIncident
  rw [authenticate_passes hauth, permit_passes hadmin, permitLeader_passes hleads,
    getIncident_passes hinc, refuseIf_passes (by simpa using hetat), refuseIf_passes (by simp),
    Prog.run_bind, Prog.run_read, refuseIf_passes (by rw [htasks]; rfl)]
  rfl

theorem prepareResolution_run (h : (prepareResolution now auth i).run db = out) :
    Refused db out ∨
      ∃ user incident, db.authenticated auth = some user ∧ isOrgOperative user = true ∧
        db.incidents.get? i = some incident ∧ incident.etat = .taken ∧
        out.2 = db.saveIncidentFields { incident with
            etat := .resolutionPrepared
            resolutionSubmittedBy := some user.id
            resolutionSubmittedAt := some now }
          [.etat, .resolutionSubmittedBy, .resolutionSubmittedAt] := by
  unfold prepareResolution at h
  rcases authenticate_run h with h | ⟨user, hauth, h⟩
  · exact Or.inl h
  rcases permit_run h with h | ⟨hoperative, h⟩
  · exact Or.inl h
  rcases getIncident_run h with h | ⟨incident, hinc, h⟩
  · exact Or.inl h
  rcases refuseIf_run (by decide) h with h | ⟨hetat, rfl⟩
  · exact Or.inl h
  exact Or.inr ⟨user, incident, hauth, hoperative, hinc, by simpa using hetat, rfl⟩

theorem returnForCompletion_run (h : (returnForCompletion auth i).run db = out) :
    Refused db out ∨
      ∃ user incident, db.authenticated auth = some user ∧ isOrgAdmin user = true ∧
        db.incidents.get? i = some incident ∧ incident.etat = .resolutionPrepared ∧
        out.2 = db.saveIncidentFields { incident with etat := .taken } [.etat] := by
  unfold returnForCompletion at h
  rcases authenticate_run h with h | ⟨user, hauth, h⟩
  · exact Or.inl h
  rcases permit_run h with h | ⟨hadmin, h⟩
  · exact Or.inl h
  rcases getIncident_run h with h | ⟨incident, hinc, h⟩
  · exact Or.inl h
  rcases refuseIf_run (by decide) h with h | ⟨hetat, rfl⟩
  · exact Or.inl h
  exact Or.inr ⟨user, incident, hauth, hadmin, hinc, by simpa using hetat, rfl⟩

theorem declareResolved_run (h : (declareResolved now auth i).run db = out) :
    Refused db out ∨
      ∃ user incident, db.authenticated auth = some user ∧ isOrgAdmin user = true ∧
        db.incidents.get? i = some incident ∧
        (incident.etat = .taken ∨ incident.etat = .resolutionPrepared) ∧ out.1.status = 200 ∧
        out.2 = db.saveIncidentFields { incident with
            etat := .inValidation
            validationDeadline := some (now + hours 72) }
          [.etat, .validationDeadline] := by
  unfold declareResolved at h
  rcases authenticate_run h with h | ⟨user, hauth, h⟩
  · exact Or.inl h
  rcases permit_run h with h | ⟨hadmin, h⟩
  · exact Or.inl h
  rcases getIncident_run h with h | ⟨incident, hinc, h⟩
  · exact Or.inl h
  rcases refuseIf_run (by decide) h with h | ⟨hetat, rfl⟩
  · exact Or.inl h
  have hetat' : incident.etat = .taken ∨ incident.etat = .resolutionPrepared := by
    simpa [Classical.or_iff_not_imp_left] using hetat
  exact Or.inr ⟨user, incident, hauth, hadmin, hinc, hetat', rfl, rfl⟩

theorem validateResolution_run (h : (validateResolution auth i).run db = out) :
    Refused db out ∨
      ∃ user incident, db.authenticated auth = some user ∧ isSuperAdmin user = true ∧
        db.incidents.get? i = some incident ∧ incident.etat = .inValidation ∧
        out.2 = terminateActiveCollaborations i
          (db.saveIncidentFields { incident with etat := .resolvedDefinitive } [.etat]) := by
  unfold validateResolution at h
  rcases authenticate_run h with h | ⟨user, hauth, h⟩
  · exact Or.inl h
  rcases permit_run h with h | ⟨hsuper, h⟩
  · exact Or.inl h
  rcases getIncident_run h with h | ⟨incident, hinc, h⟩
  · exact Or.inl h
  rcases refuseIf_run (by decide) h with h | ⟨hetat, rfl⟩
  · exact Or.inl h
  exact Or.inr ⟨user, incident, hauth, hsuper, hinc, by simpa using hetat, rfl⟩

theorem rejectResolution_run {motif : Choice String}
    (h : (rejectResolution auth i motif).run db = out) :
    Refused db out ∨
      ∃ user incident text, db.authenticated auth = some user ∧ isSuperAdmin user = true ∧
        db.incidents.get? i = some incident ∧ incident.etat = .inValidation ∧
        motif = .one text ∧
        out.2 = db.saveIncidentFields { incident with
          etat := .taken, rejectionReason := some text } [.etat, .rejectionReason] := by
  unfold rejectResolution at h
  rcases authenticate_run h with h | ⟨user, hauth, h⟩
  · exact Or.inl h
  rcases permit_run h with h | ⟨hsuper, h⟩
  · exact Or.inl h
  rcases getIncident_run h with h | ⟨incident, hinc, h⟩
  · exact Or.inl h
  rcases refuseIf_run (by decide) h with h | ⟨hetat, h⟩
  · exact Or.inl h
  cases motif with
  | notText => exact Or.inl (pure_run (by decide) h)
  | unknown => exact Or.inl (pure_run (by decide) h)
  | one text =>
      subst h
      exact Or.inr ⟨user, incident, text, hauth, hsuper, hinc, by simpa using hetat, rfl, rfl⟩

theorem Db.mapsSeats_leave (db : Db) (i : IncidentId) (u : UserId) :
    Db.MapsSeats db (db.updateCollaborations (fun c => decide (c.incident = i ∧ c.user = u)) id
      .terminated) i (Seat.leave u) := by
  refine Db.mapsSeats_updateCollaborations (fun v _ => v = u) fun c => ?_
  rw [decide_eq_true_eq]

theorem mapsSeats_offer {u : UserId} :
    Db.MapsSeats db (db.updateCollaborations (otherContributors i u) (fun _ => .leader) .pending)
      i (Seat.offerLead u) := by
  refine Db.mapsSeats_updateCollaborations
    (fun v s => v ≠ u ∧ s.role = .contributor ∧ s.status = .accepted) fun c => ?_
  simp only [otherContributors, Collaboration.seat, decide_eq_true_eq]
  tauto

/-- A leader who leaves: whether the incident stays taken depends on who else
contributes, as the rows are after the leader's own ones have been ended. The
two outcomes save different columns. -/
theorem disengage_run (h : (disengage auth i).run db = out) :
    Refused db out ∨
      ∃ user incident, db.authenticated auth = some user ∧ isOrgAdmin user = true ∧
        db.leads user i = true ∧ db.incidents.get? i = some incident ∧ incident.etat = .taken ∧
        let left := db.updateCollaborations
          (fun c => decide (c.incident = i ∧ c.user = user.id)) id .terminated
        ((left.collaborations.select (otherContributors i user.id) ≠ [] ∧
          out.2 = (left.updateCollaborations (otherContributors i user.id) (fun _ => .leader)
              .pending).saveIncidentFields incident.released
            [.takenBy, .takeInChargeMode, .takenInChargeAt]) ∨
        left.collaborations.select (otherContributors i user.id) = [] ∧
          out.2 = (terminateActiveCollaborations i left).saveIncidentFields
            { incident.released with etat := .declared }
            [.etat, .takenBy, .takeInChargeMode, .takenInChargeAt]) := by
  unfold disengage at h
  rcases authenticate_run h with h | ⟨user, hauth, h⟩
  · exact Or.inl h
  rcases permit_run h with h | ⟨hadmin, h⟩
  · exact Or.inl h
  rcases permitLeader_run h with h | ⟨hleads, h⟩
  · exact Or.inl h
  rcases getIncident_run h with h | ⟨incident, hinc, h⟩
  · exact Or.inl h
  rcases refuseIf_run (by decide) h with h | ⟨hetat, h⟩
  · exact Or.inl h
  refine Or.inr ⟨user, incident, hauth, hadmin, hleads, hinc, by simpa using hetat, ?_⟩
  cases hothers : ((db.updateCollaborations (fun c => decide (c.incident = i ∧ c.user = user.id))
      id .terminated).collaborations.select (otherContributors i user.id)).isEmpty with
  | false =>
      simp only [Prog.run_bind, Prog.run_modify, Prog.run_read, hothers, Bool.not_false,
        ↓reduceIte] at h
      subst h
      exact Or.inl ⟨by simpa using hothers, rfl⟩
  | true =>
      simp only [Prog.run_bind, Prog.run_modify, Prog.run_read, hothers, Bool.not_true,
        Bool.false_eq_true, ↓reduceIte] at h
      subst h
      exact Or.inr ⟨by simpa using hothers, rfl⟩

end Mapapi
