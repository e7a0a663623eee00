import Mapapi.AntiGel
import Mapapi.TaskWrites

/-!
# Progress is always the recomputed value

The progress of an incident is stored beside it. Two kinds of writes keep it
right. The task endpoints recompute it after every change. Everything else
leaves the tasks of an incident alone and, on its row, either keeps both the
progress and whether the incident is finished, or finishes the incident, which
stores 100 (`Db.Advances`). No operation reopens a finished incident.

The relation is stated between a store before and a store after, and is
reflexive and transitive, so a view with several writes advances as soon as
each of them does, and a loop as soon as its iterations do. The lemmas about
the requests follow the views write by write; those about runs need nothing of
them but `step_advances`.
-/

namespace Mapapi

open Lib

/-! ## What the life cycle does to progress -/

/-- A row is finished at 100 %, or as finished as it was, at the same progress. -/
def Incident.Advances (row row' : Incident) : Prop :=
  row'.isFinished = true ∧ row'.progress = 100 ∨
    row'.isFinished = row.isFinished ∧ row'.progress = row.progress

/-- Every incident left has advanced, and has the tasks it had. -/
structure Db.Advances (db db' : Db) : Prop where
  rows : ∀ i row', db'.incidents.get? i = some row' →
    ∃ row, db.incidents.get? i = some row ∧ row.Advances row'
  tasks : ∀ i row', db'.incidents.get? i = some row' → ∀ p : IncidentTask → Bool,
    (∀ task, p task = true → task.incident = i) → db'.tasks.select p = db.tasks.select p

/-- The progress of every incident is the one `update_progress` would compute. -/
def Db.AllProgressRight (db : Db) : Prop :=
  ∀ i incident, db.incidents.get? i = some incident → db.ProgressRight incident

section Advances

variable {db db' db'' : Db} {i : IncidentId} {row inst : Incident} {u : UserId}
  {out : Response × Db}

theorem Incident.Advances.refl : row.Advances row := Or.inr ⟨rfl, rfl⟩

theorem Incident.Advances.trans {row' row'' : Incident} (h : row.Advances row')
    (h' : row'.Advances row'') : row.Advances row'' := by
  rcases h' with h' | ⟨hfin', hprogress'⟩
  · exact Or.inl h'
  · rcases h with ⟨hfin, hprogress⟩ | ⟨hfin, hprogress⟩
    · exact Or.inl ⟨hfin'.trans hfin, hprogress'.trans hprogress⟩
    · exact Or.inr ⟨hfin'.trans hfin, hprogress'.trans hprogress⟩

theorem Incident.advances_pinProgress (hprogress : inst.progress = row.progress)
    (hfin : inst.isFinished = true ∨ inst.isFinished = row.isFinished) :
    row.Advances inst.pinProgress := by
  cases hinst : inst.isFinished with
  | true => exact Or.inl ⟨by rw [pinProgress_isFinished, hinst], pinProgress_progress hinst⟩
  | false =>
      rw [pinProgress_open hinst]
      refine Or.inr ⟨?_, hprogress⟩
      rw [hinst] at hfin
      exact hinst.trans (hfin.resolve_left nofun)

namespace Db

theorem Advances.of_eq (hincidents : db'.incidents = db.incidents) (htasks : db'.tasks = db.tasks) :
    db.Advances db' := by
  refine ⟨fun i row' hrow => ⟨row', hincidents ▸ hrow, .refl⟩, fun i row' hrow p hp => ?_⟩
  rw [htasks]

theorem Advances.refl : db.Advances db := .of_eq rfl rfl

theorem Advances.trans (h : db.Advances db') (h' : db'.Advances db'') : db.Advances db'' := by
  constructor
  · intro i row'' hrow''
    obtain ⟨row', hrow', hadvances'⟩ := h'.rows i row'' hrow''
    obtain ⟨row, hrow, hadvances⟩ := h.rows i row' hrow'
    exact ⟨row, hrow, hadvances.trans hadvances'⟩
  · intro i row'' hrow'' p hp
    obtain ⟨row', hrow', -⟩ := h'.rows i row'' hrow''
    exact (h'.tasks i row'' hrow'' p hp).trans (h.tasks i row' hrow' p hp)

theorem Advances.refused (h : Refused db out) : db.Advances out.2 := h.1 ▸ .refl

theorem SameRows.advances (h : SameRows db db') : db.Advances db' :=
  .of_eq h.incidents h.tasks

theorem Advances.logAction (h : db.Advances db') (v : UserId) (action : String) :
    db.Advances (db'.logAction v action) :=
  h.trans (.of_eq rfl rfl)

theorem Advances.write (hrow : db.incidents.get? i = some row)
    (hhere : db'.incidents.get? i = some inst.pinProgress)
    (hothers : ∀ j, j ≠ i → db'.incidents.get? j = db.incidents.get? j)
    (htasks : db'.tasks = db.tasks) (hprogress : inst.progress = row.progress)
    (hfin : inst.isFinished = true ∨ inst.isFinished = row.isFinished) : db.Advances db' := by
  refine ⟨fun j row' hrow' => ?_, fun j row' hrow' p hp => by rw [htasks]⟩
  by_cases hj : j = i
  · subst hj
    rw [hhere] at hrow'
    obtain rfl := Option.some.inj hrow'
    exact ⟨row, hrow, Incident.advances_pinProgress hprogress hfin⟩
  · rw [hothers j hj] at hrow'
    exact ⟨row', hrow', .refl⟩

theorem Advances.saveFields {columns : List Incident.Column}
    (hrow : db.incidents.get? i = some row) (hid : inst.id = i)
    (hcolumns : columns.foldl (Incident.Column.write inst) row = inst)
    (hprogress : inst.progress = row.progress)
    (hfin : inst.isFinished = true ∨ inst.isFinished = row.isFinished) :
    db.Advances (db.saveIncidentFields inst columns) :=
  .write hrow (row_saveIncidentFields hrow hid hcolumns)
    (fun _ hj => incidents_saveIncidentFields_other (hid.symm ▸ hj)) rfl hprogress hfin

theorem Advances.save (hrow : db.incidents.get? i = some row) (hid : inst.id = i)
    (hprogress : inst.progress = row.progress)
    (hfin : inst.isFinished = true ∨ inst.isFinished = row.isFinished) :
    db.Advances (db.saveIncident inst) := by
  subst hid
  refine .write hrow ?_ (fun j hj => ?_) rfl hprogress hfin
  · rw [incidents_saveIncident, if_pos rfl]
  · rw [incidents_saveIncident, if_neg hj]

/-- Right progress stays right: what the progress is computed from has not
changed, or the incident is finished now and stands at 100 %. -/
theorem AllProgressRight.advances (h : db.AllProgressRight) (hstep : db.Advances db') :
    db'.AllProgressRight := by
  intro i row' hrow'
  obtain ⟨row, hrow, hadvances⟩ := hstep.rows i row' hrow'
  have hid : row'.id = i := Table.key_of_get? hrow'
  unfold ProgressRight
  rcases hadvances with ⟨hfin, hfull⟩ | ⟨hfin, hprogress⟩
  · rw [hfull, computedProgress, if_pos hfin]
  · have hconfirmed : db'.confirmedTasks i = db.confirmedTasks i :=
      hstep.tasks i row' hrow' _ fun task htask => (of_decide_eq_true htask).1
    have hdone : db'.doneTasks i = db.doneTasks i :=
      hstep.tasks i row' hrow' _ fun task htask => (of_decide_eq_true htask).1
    rw [hprogress, h i row hrow, computedProgress, computedProgress, hfin, hid,
      show row.id = i from Table.key_of_get? hrow, hconfirmed, hdone]

end Db

end Advances

/-! ## The requests of the life cycle -/

section Requests

variable {db db' : Db} {now : Instant} {auth : Option UserId} {i : IncidentId}
  {incident : Incident} {user : User} {out : Response × Db}

theorem isFinished_of_etat {incident' : Incident} (h : incident.etat = .taken ∨
    incident.etat = .declared ∨ incident.etat = .resolutionPrepared ∨
      incident.etat = .inValidation) (hfin : incident'.isFinished = false) :
    incident'.isFinished = true ∨ incident'.isFinished = incident.isFinished := by
  refine Or.inr (hfin.trans ?_)
  unfold Incident.isFinished
  rcases h with h | h | h | h <;> simp [h]

theorem isFinished_congr {incident' : Incident} (h : incident'.etat = incident.etat) :
    incident'.isFinished = incident.isFinished := by
  unfold Incident.isFinished
  rw [h]

theorem advances_openIncident (hinc : db.incidents.get? i = some incident) :
    db.Advances (db.openIncident incident) :=
  .saveFields hinc (Table.key_of_get? hinc) rfl rfl (Or.inr (isFinished_congr rfl))

theorem advances_joinIncident (hinc : db.incidents.get? i = some incident) :
    db.Advances (db.joinIncident incident) := by
  unfold Db.joinIncident
  split
  · exact advances_openIncident hinc
  · exact .refl

/-- Being taken in charge does not touch the progress: it saves other columns,
and the seats have nothing to do with tasks. -/
theorem advances_takeInCharge {mode : Choice TakeInChargeMode} {role : Choice CollabRole}
    (hrun : (takeInCharge now auth i mode role).run db = out) : db.Advances out.2 := by
  rcases takeInCharge_run hrun with
    h | ⟨user, incident, hauth, -, hinc, -, ⟨-, h⟩ | ⟨r, -, -, h⟩⟩
  · exact .refused h
  all_goals
    have hid : incident.id = i := Table.key_of_get? hinc
    subst hid
  · rcases takeInternal_run (authenticated_id hauth).2 h with h | ⟨-, -, hetat, hset⟩
    · exact .refused h
    have hsave : db.Advances (db.saveIncidentFields (incident.engagedBy user.id .internal now)
        [.takenBy, .etat, .takeInChargeMode, .takenInChargeAt, .antigelWarned75,
          .antigelWarned90]) :=
      .saveFields hinc rfl write_engagedBy rfl (isFinished_of_etat (by simp [hetat]) rfl)
    exact hsave.trans hset.rows.advances
  · rcases takeCollaborative_run h with h | ⟨-, hnone, ⟨-, h⟩ | ⟨-, h⟩⟩
    · exact .refused h
    · rcases takeLeader_run (authenticated_id hauth).2 hnone h with h | ⟨-, db', hset, hreset⟩
      · exact .refused h
      have hsave : db.Advances
          (db.saveIncidentFields (incident.ledBy user.id now) incident.ledColumns) := by
        by_cases hetat : incident.etat = .declared
        · refine .saveFields hinc (ledBy_id ..) write_ledBy (ledBy_progress ..) ?_
          refine isFinished_of_etat (by simp [hetat]) ?_
          rw [Incident.ledBy, if_pos hetat]
          rfl
        · refine .saveFields hinc (ledBy_id ..) write_ledBy (ledBy_progress ..) (Or.inr ?_)
          rw [Incident.ledBy, if_neg hetat]
          exact isFinished_congr rfl
      exact (hsave.trans hset.rows.advances).trans hreset.rows.advances
    · obtain ⟨db', -, hset, hout⟩ := takeJoin_run hnone h
      have hinc' : db'.incidents.get? incident.id = some incident := by
        rw [hset.rows.incidents, hinc]
      have hjoin := hset.rows.advances.trans (advances_joinIncident hinc')
      rcases hout with hout | ⟨_, _, _, _, hout⟩
      · exact hout ▸ hjoin
      · exact hout ▸ hjoin.logAction _ _

theorem advances_handleIncident {action : Option HandleAction}
    (h : (handleIncident auth i action).run db = out) : db.Advances out.2 := by
  rcases handleIncident_run h with
    h | ⟨user, incident, -, hinc, ⟨-, hetat, h⟩ | ⟨-, -, h⟩⟩
  · exact .refused h
  · have hsave : db.Advances
        (db.saveIncident { incident with etat := .taken, takenBy := some user.id }) :=
      .save hinc (Table.key_of_get? hinc) rfl (isFinished_of_etat (by simp [hetat]) rfl)
    rcases handled_run h with hout | hout
    · rwa [hout]
    · rw [hout]
      exact hsave.logAction _ _
  · have hsave : db.Advances (db.saveIncident { incident with etat := .resolved }) :=
      .save hinc (Table.key_of_get? hinc) rfl (Or.inl rfl)
    rcases handled_run h with hout | hout
    · rwa [hout]
    · rw [hout]
      exact hsave.logAction _ _

theorem advances_closeIncident {startDate endDate : Arg Date}
    (h : (closeIncident auth i startDate endDate).run db = out) : db.Advances out.2 := by
  rcases closeIncident_run h with
    h | ⟨user, incident, start, stop, -, -, -, hinc, -, -, -, -, hout⟩
  · exact .refused h
  · rw [hout]
    exact .save hinc (Table.key_of_get? hinc) rfl (Or.inl rfl)

theorem advances_prepareResolution (h : (prepareResolution now auth i).run db = out) :
    db.Advances out.2 := by
  rcases prepareResolution_run h with h | ⟨user, incident, -, -, hinc, hetat, hout⟩
  · exact .refused h
  · rw [hout]
    exact .saveFields hinc (Table.key_of_get? hinc) rfl rfl
      (isFinished_of_etat (by simp [hetat]) rfl)

theorem advances_returnForCompletion (h : (returnForCompletion auth i).run db = out) :
    db.Advances out.2 := by
  rcases returnForCompletion_run h with h | ⟨user, incident, -, -, hinc, hetat, hout⟩
  · exact .refused h
  · rw [hout]
    exact .saveFields hinc (Table.key_of_get? hinc) rfl rfl
      (isFinished_of_etat (by simp [hetat]) rfl)

theorem advances_declareResolved (h : (declareResolved now auth i).run db = out) :
    db.Advances out.2 := by
  rcases declareResolved_run h with h | ⟨user, incident, -, -, hinc, hetat, -, hout⟩
  · exact .refused h
  · rw [hout]
    exact .saveFields hinc (Table.key_of_get? hinc) rfl rfl (isFinished_of_etat (by tauto) rfl)

theorem advances_disengage (h : (disengage auth i).run db = out) : db.Advances out.2 := by
  rcases disengage_run h with h | ⟨user, incident, -, -, -, hinc, hetat, h⟩
  · exact .refused h
  -- the updates of collaborations change neither an incident nor a task
  rcases h with ⟨-, hout⟩ | ⟨-, hout⟩
  · rw [hout]
    refine Db.Advances.trans ?_ (.saveFields hinc (Table.key_of_get? hinc) rfl rfl
      (Or.inr (isFinished_congr rfl)))
    exact .of_eq rfl rfl
  · rw [hout]
    refine Db.Advances.trans ?_ (.saveFields hinc (Table.key_of_get? hinc) rfl rfl
      (isFinished_of_etat (by simp [hetat]) rfl))
    exact .of_eq rfl rfl

theorem advances_validateResolution (h : (validateResolution auth i).run db = out) :
    db.Advances out.2 := by
  rcases validateResolution_run h with h | ⟨user, incident, -, -, hinc, -, hout⟩
  · exact .refused h
  · rw [hout]
    refine Db.Advances.trans ?_ mapsSeats_terminate.rows.advances
    exact .saveFields hinc (Table.key_of_get? hinc) rfl rfl (Or.inl rfl)

theorem advances_rejectResolution {motif : Choice String}
    (h : (rejectResolution auth i motif).run db = out) : db.Advances out.2 := by
  rcases rejectResolution_run h with h | ⟨user, incident, text, -, -, hinc, hetat, -, hout⟩
  · exact .refused h
  · rw [hout]
    exact .saveFields hinc (Table.key_of_get? hinc) rfl rfl
      (isFinished_of_etat (by simp [hetat]) rfl)

theorem advances_assignToOrganisation {organisationId : RawId}
    (h : (assignToOrganisation now auth i organisationId).run db = out) : db.Advances out.2 := by
  rcases assignToOrganisation_run h with h | ⟨_, -, -, -, -, _, hout⟩
  · exact .refused h
  · exact hout ▸ .of_eq rfl rfl

theorem advances_acceptOrgAssignment {pk : OrgAssignmentId}
    (h : (acceptOrgAssignment now auth pk).run db = out) : db.Advances out.2 := by
  rcases acceptOrgAssignment_run h with h | ⟨user, assignment, incident, -, -, -, hinc, -, -, hout⟩
  · exact .refused h
  have hanswer : db.Advances (db.answerAssignment pk .accepted id now) := .of_eq rfl rfl
  rw [hout, engageIncident]
  split
  · rename_i hetat
    refine hanswer.trans (.saveFields hinc (Table.key_of_get? hinc) ?_ rfl
      (isFinished_of_etat (by simp [hetat]) rfl))
    simp [Incident.Column.write, Incident.engaged]
  · exact hanswer

theorem advances_declineOrgAssignment {pk : OrgAssignmentId} {reason : Choice String}
    (h : (declineOrgAssignment now auth pk reason).run db = out) : db.Advances out.2 := by
  rcases declineOrgAssignment_run h with h | ⟨_, hout⟩
  · exact .refused h
  · exact hout ▸ .of_eq rfl rfl

theorem advances_requestCollaboration {data : CollaborationData}
    (h : (requestCollaboration now auth data).run db = out) : db.Advances out.2 := by
  rcases requestCollaboration_run h with h | ⟨user, valid, db', -, -, hvalid, -, hset, -, hout⟩
  · exact .refused h
  obtain ⟨-, hinc, -, -, -⟩ := collaborationIsValid_ok hvalid
  have hinc' : db'.incidents.get? valid.incident.id = some valid.incident := by
    rw [hset.rows.incidents, hinc]
  rw [hout]
  split
  · exact hset.rows.advances.trans (advances_openIncident hinc')
  · exact hset.rows.advances

theorem advances_bulkRequest {requests : Option (List BulkItem)}
    (h : (bulkRequest now auth requests).run db = out) : db.Advances out.2 := by
  rcases bulkRequest_run h with h | ⟨user, items, -, -, -, h⟩
  · exact .refused h
  · exact (bulkItems_run h).rows.advances

theorem advances_saveCollaboration {c : Collaboration} : db.Advances (db.saveCollaboration c) :=
  (Db.setsSeat_saveCollaboration rfl rfl).rows.advances

theorem advances_acceptRow {c : Collaboration} {reply : Response}
    (hinc : db.incidents.get? c.incident = some incident) :
    db.Advances ((acceptRow c incident reply).run db).2 := by
  have hinc' : (db.saveCollaboration { c with status := .accepted }).incidents.get? c.incident =
      some incident := by
    rw [(Db.setsSeat_saveCollaboration (c := { c with status := .accepted }) rfl
      rfl).rows.incidents, hinc]
  rw [(acceptRow_run rfl).2]
  split
  · exact advances_saveCollaboration.trans (advances_openIncident hinc')
  · exact advances_saveCollaboration

theorem advances_handleCollaboration {id : CollaborationId}
    {action : Option HandleCollaborationAction}
    (h : (handleCollaboration auth id action).run db = out) : db.Advances out.2 := by
  rcases handleCollaboration_run h with h | ⟨user, c, incident, hanswers, ⟨-, h⟩ | ⟨-, hout⟩⟩
  · exact .refused h
  · exact h ▸ advances_acceptRow hanswers.about
  · exact hout ▸ advances_saveCollaboration

theorem advances_acceptCollaboration {id : RawId}
    (h : (acceptCollaboration now auth id).run db = out) : db.Advances out.2 := by
  rcases acceptCollaboration_run h with h | ⟨_, user, c, incident, -, hanswers, -, -, h⟩
  · exact .refused h
  · exact h ▸ advances_acceptRow hanswers.about

theorem advances_declineCollaboration {id : RawId}
    (h : (declineCollaboration auth id).run db = out) : db.Advances out.2 := by
  rcases declineCollaboration_run h with h | ⟨_, user, c, incident, -, -, hout⟩
  · exact .refused h
  · exact hout ▸ advances_saveCollaboration

theorem advances_acceptSuggestion {pk : SuggestionId}
    (h : (acceptSuggestion auth i pk).run db = out) : db.Advances out.2 := by
  rcases acceptSuggestion_run h with h | ⟨user, suggestion, db', -, -, -, -, -, hset, hout⟩
  · exact .refused h
  · rw [hout]
    exact hset.rows.advances.trans (.of_eq rfl rfl)

theorem advances_rejectSuggestion {pk : SuggestionId}
    (h : (rejectSuggestion auth i pk).run db = out) : db.Advances out.2 := by
  rcases rejectSuggestion_run h with h | ⟨suggestion, hout⟩
  · exact .refused h
  · rw [hout]
    exact .of_eq rfl rfl

theorem OpensDiscussion.advances (h : OpensDiscussion db auth i db') : db.Advances db' := by
  rcases h with ⟨u, hset⟩ | ⟨user, incident, -, -, -, -, hset⟩
  · exact hset.rows.advances
  · exact hset.rows.advances

end Requests

/-! ## The Celery tasks -/

section Tasks

variable {db : Db} {now : Instant}

/-- A loop over incidents that were read at its start, each once. -/
theorem Db.Advances.forEach {ρ : Type} {body : Db → ρ → Db} (about : ρ → IncidentId)
    {l : List ρ} (hl : (l.map about).Nodup)
    (hothers : ∀ db' r j, j ≠ about r → (body db' r).incidents.get? j = db'.incidents.get? j)
    (htasks : ∀ db' r, (body db' r).tasks = db'.tasks)
    (hown : ∀ r ∈ l, ∀ db' : Db, db'.incidents.get? (about r) = db.incidents.get? (about r) →
      db'.Advances (body db' r)) : db.Advances (l.foldl body db) := by
  have hsame : (l.foldl body db).tasks = db.tasks :=
    foldl_never body Db.tasks (I := fun _ => True) (fun _ _ _ => trivial)
      (fun db' r _ _ => htasks db' r) trivial
  refine ⟨fun i row' hrow' => ?_, fun i row' _ p _ => by rw [hsame]⟩
  by_cases hr : ∃ r ∈ l, about r = i
  · obtain ⟨r, hr, rfl⟩ := hr
    obtain ⟨db₁, -, hread, hend⟩ := foldl_at body (fun db' : Db => db'.incidents.get? (about r))
      about (I := fun _ => True) (b := r) (s := db) (fun _ _ _ => trivial)
      (fun db' r' _ _ hne => hothers db' r' _ hne.symm) hl hr trivial
    rw [hend] at hrow'
    obtain ⟨row, hrow, hadvances⟩ := (hown r hr db₁ hread).rows _ row' hrow'
    exact ⟨row, hread ▸ hrow, hadvances⟩
  · have hnever : (l.foldl body db).incidents.get? i = db.incidents.get? i :=
      foldl_never body (fun db' : Db => db'.incidents.get? i) (I := fun _ => True)
        (fun _ _ _ => trivial)
        (fun db' r hmem _ => hothers db' r i fun heq => hr ⟨r, hmem, heq.symm⟩) trivial
    exact ⟨row', hnever ▸ hrow', .refl⟩

theorem advances_autoValidate :
    db.Advances ((autoValidateOverdueResolutions now).run db).2 := by
  unfold autoValidateOverdueResolutions
  simp only [Prog.run_bind, Prog.run_read, Prog.run_forEach, Prog.run_pure]
  refine .forEach Incident.id (db.incidents.nodup_select _) (fun db' r j hj => ?_)
    (fun db' r => rfl) fun r hr db' hread => ?_
  · exact @Db.incidents_saveIncidentFields_other _ { r with etat := .resolvedDefinitive } _ _ hj
  · have hrow : db'.incidents.get? r.id = some r := hread.trans (Table.mem_select.mp hr).1
    refine Db.Advances.trans ?_ mapsSeats_terminate.rows.advances
    exact .saveFields hrow rfl rfl rfl (Or.inl rfl)

theorem advances_notifyAntigelLeader (incident : Incident) (pct : Nat) :
    db.Advances (notifyAntigelLeader incident pct db) := by
  unfold notifyAntigelLeader
  split
  · exact .refl
  · exact .of_eq rfl rfl

theorem advances_revertStaleOne {incident : Incident} {since : Instant}
    (hrow : db.incidents.get? incident.id = some incident) (hetat : incident.etat = .taken) :
    db.Advances ((revertStaleOne now (incident, since)).run db).2 := by
  have hnotified (pct : Nat) : (notifyAntigelLeader incident pct db).incidents.get? incident.id =
      some incident := by
    unfold notifyAntigelLeader
    split <;> exact hrow
  rw [revertStaleOne_run]
  cases antigelVerdict now since incident with
  | revert =>
      refine .saveFields hrow rfl ?_ rfl (isFinished_of_etat (Or.inl hetat) rfl)
      simp [Incident.Column.write, Incident.reverted]
  | warn90 =>
      refine (advances_notifyAntigelLeader incident 90).trans ?_
      exact .saveFields (hnotified 90) rfl rfl rfl (Or.inr (isFinished_congr rfl))
  | warn75 =>
      refine (advances_notifyAntigelLeader incident 75).trans ?_
      exact .saveFields (hnotified 75) rfl rfl rfl (Or.inr (isFinished_congr rfl))
  | wait => exact .refl

theorem tasks_revertStaleOne (incident : Incident) (since : Instant) :
    ((revertStaleOne now (incident, since)).run db).2.tasks = db.tasks := by
  have hnotified (pct : Nat) : (notifyAntigelLeader incident pct db).tasks = db.tasks := by
    unfold notifyAntigelLeader
    split <;> rfl
  rw [revertStaleOne_run]
  cases antigelVerdict now since incident with
  | revert => rfl
  | warn90 => exact hnotified 90
  | warn75 => exact hnotified 75
  | wait => rfl

theorem advances_revertStale : db.Advances ((revertStaleTakenIncidents now).run db).2 := by
  unfold revertStaleTakenIncidents
  simp only [Prog.run_bind, Prog.run_read, Prog.run_forEach, Prog.run_pure]
  refine .forEach (fun r => r.1.id) (db.incidents.nodup_filterMap fun row r hr => ?_)
    (fun db' r j hj => ?_) (fun db' r => ?_) fun r hr db' hread => ?_
  · rw [(engagedSince_eq_some hr).1]
    rfl
  · exact get?_revertStaleOne_other hj.symm
  · exact tasks_revertStaleOne r.1 r.2
  · obtain ⟨row, hmem, hsince⟩ := List.mem_filterMap.mp hr
    obtain ⟨incident, since⟩ := r
    obtain ⟨rfl, hetat, -⟩ := engagedSince_eq_some hsince
    exact advances_revertStaleOne (hread.trans (Table.get?_of_mem hmem)) hetat

theorem advances_deleteIncident (i : IncidentId) : db.Advances (db.deleteIncident i) := by
  have hrow (j : IncidentId) : (db.deleteIncident i).incidents.get? j =
      if j = i then none else db.incidents.get? j := Table.get?_erase _ _ _
  refine ⟨fun j row' hrow' => ?_, fun j row' hrow' p hp => ?_⟩
  · rw [hrow] at hrow'
    split at hrow'
    · cases hrow'
    · exact ⟨row', hrow', .refl⟩
  · rw [hrow] at hrow'
    split at hrow'
    · cases hrow'
    · rename_i hj
      refine db.tasks.select_eraseWhere fun task _ htask => ?_
      rw [hp task htask]
      exact decide_eq_false hj

theorem advances_purgeExpiredTrash : db.Advances ((purgeExpiredTrash now).run db).2 := by
  unfold purgeExpiredTrash
  simp only [Prog.run_bind, Prog.run_read, Prog.run_modify, Prog.run_pure]
  refine foldl_inv (fun (db' : Db) (r : Incident) => db'.deleteIncident r.id) db.Advances _
    (fun db' r _ h => ?_) .refl
  exact h.trans (advances_deleteIncident r.id)

/-- What the loop of the tacit acceptances keeps: an incident it engages was
not finished, and is not. -/
def TacitlyAdvanced (db db' : Db) : Prop :=
  db'.tasks = db.tasks ∧ ∀ i row', db'.incidents.get? i = some row' →
    ∃ row, db.incidents.get? i = some row ∧ row'.isFinished = row.isFinished ∧
      row'.progress = row.progress

theorem tacitlyAdvanced_autoAcceptOne {db' : Db} {assignment : IncidentOrgAssignment}
    {incident : Incident} (hinc : db.incidents.get? assignment.incident = some incident)
    (h : TacitlyAdvanced db db') :
    TacitlyAdvanced db ((autoAcceptOne now (assignment, incident)).run db').2 := by
  obtain ⟨htasks, hrows⟩ := h
  rw [autoAcceptOne_run]
  split
  · rename_i hetat
    refine ⟨htasks, fun i row' hrow' => ?_⟩
    by_cases hi : i = incident.id
    · subst hi
      rw [Db.get?_saveIncidentFields,
        if_pos (show incident.id = (incident.engagedTacitly _ now).id from rfl)] at hrow'
      obtain ⟨row₁, hrow₁, rfl⟩ := Option.map_eq_some_iff.mp hrow'
      obtain ⟨row, hrow, -, hprogress⟩ := hrows _ row₁ hrow₁
      have hread : db.incidents.get? incident.id = some incident :=
        Table.get?_of_mem (Table.mem_of_get? hinc)
      obtain rfl := Option.some.inj (hrow.symm.trans hread)
      refine ⟨row, hrow, ?_, hprogress⟩
      simp [Incident.writeColumns, Incident.savedColumns, Incident.engagedTacitly,
        Incident.isFinished, Incident.Column.write, hetat]
    · have hother : ∀ leader, i ≠ (incident.engagedTacitly leader now).id := fun _ => hi
      rw [Db.incidents_saveIncidentFields_other (hother _)]
        at hrow'
      exact hrows i row' hrow'
  · exact ⟨htasks, hrows⟩

theorem advances_autoAccept :
    db.Advances ((autoAcceptOverdueAssignments now).run db).2 := by
  unfold autoAcceptOverdueAssignments
  simp only [Prog.run_bind, Prog.run_read, Prog.run_forEach, Prog.run_pure]
  obtain ⟨htasks, hrows⟩ := foldl_inv (fun db' r => ((autoAcceptOne now r).run db').2)
    (TacitlyAdvanced db) (overdueAssignments now db)
    (fun db' r hmem h => tacitlyAdvanced_autoAcceptOne (mem_overdueAssignments.mp hmem).2.2.2 h)
    (s := db) ⟨rfl, fun i row hrow => ⟨row, hrow, rfl, rfl⟩⟩
  refine ⟨fun i row' hrow' => ?_, fun i row' _ p _ => by rw [htasks]⟩
  obtain ⟨row, hrow, hfin, hprogress⟩ := hrows i row' hrow'
  exact ⟨row, hrow, Or.inr ⟨hfin, hprogress⟩⟩

end Tasks

/-! ## Runs -/

section Runs

variable {db : Db}

/-- Every operation of the life cycle advances every incident. -/
theorem step_advances (db : Db) (event : Event) : db.Advances (db.step event) := by
  obtain ⟨now, op⟩ := event
  cases op with
  | takeInCharge auth i mode role => exact advances_takeInCharge rfl
  | handleIncident auth i action => exact advances_handleIncident rfl
  | closeIncident auth i start stop => exact advances_closeIncident rfl
  | prepareResolution auth i => exact advances_prepareResolution rfl
  | returnForCompletion auth i => exact advances_returnForCompletion rfl
  | declareResolved auth i => exact advances_declareResolved rfl
  | disengage auth i => exact advances_disengage rfl
  | validateResolution auth i => exact advances_validateResolution rfl
  | rejectResolution auth i motif => exact advances_rejectResolution rfl
  | assignToOrganisation auth i org => exact advances_assignToOrganisation rfl
  | acceptOrgAssignment auth pk => exact advances_acceptOrgAssignment rfl
  | declineOrgAssignment auth pk reason => exact advances_declineOrgAssignment rfl
  | requestCollaboration auth data => exact advances_requestCollaboration rfl
  | bulkRequest auth requests => exact advances_bulkRequest rfl
  | handleCollaboration auth id action => exact advances_handleCollaboration rfl
  | acceptCollaboration auth id => exact advances_acceptCollaboration rfl
  | declineCollaboration auth id => exact advances_declineCollaboration rfl
  | acceptSuggestion auth i pk => exact advances_acceptSuggestion rfl
  | rejectSuggestion auth i pk => exact advances_rejectSuggestion rfl
  | readDiscussion auth i =>
      rcases readDiscussion_run (Eq.refl ((readDiscussion auth i).run db)) with h | h
      · exact .refused h
      · exact h.advances
  | postDiscussion auth i data =>
      rcases postDiscussion_run (Eq.refl ((postDiscussion auth i data).run db)) with h | ⟨-, h⟩
      · exact .refused h
      · exact h.advances
  | autoValidateOverdueResolutions => exact advances_autoValidate
  | revertStaleTakenIncidents => exact advances_revertStale
  | purgeExpiredTrash => exact advances_purgeExpiredTrash
  | autoAcceptOverdueAssignments => exact advances_autoAccept

/-- Storing a task recomputes the progress of its incident, and the progress of
every other incident is computed from the tasks it had. -/
theorem Db.AllProgressRight.stores {request : TaskRequest} {i : IncidentId} {db' : Db}
    (h : db.AllProgressRight) (hstores : request.Stores db i db') : db'.AllProgressRight := by
  obtain ⟨-, tasks, hstored, rfl⟩ := hstores
  intro j row' hrow'
  have hid : row'.id = j := Table.key_of_get? hrow'
  rw [incidents_recompute] at hrow'
  obtain ⟨row, hrow, rfl⟩ := Option.map_eq_some_iff.mp hrow'
  by_cases hj : j = i
  · rw [if_pos hj, Db.ProgressRight]
    exact (Db.computedProgress_congr (tasks_recompute _ _) rfl rfl).symm
  · rw [if_neg hj] at hid ⊢
    have hselect (p : IncidentTask → Bool) (hp : ∀ task, p task = true → task.incident = j) :
        tasks.select p = db.tasks.select p := by
      refine hstored.select fun task htask => ?_
      cases hsel : p task with
      | false => rfl
      | true => exact absurd ((hp task hsel).symm.trans htask) hj
    have hconfirmed : (db.withTasks tasks).confirmedTasks j = db.confirmedTasks j :=
      hselect _ fun task htask => (of_decide_eq_true htask).1
    have hdone : (db.withTasks tasks).doneTasks j = db.doneTasks j :=
      hselect _ fun task htask => (of_decide_eq_true htask).1
    rw [Db.ProgressRight, Db.computedProgress_congr (tasks_recompute _ _) rfl rfl, h j row hrow,
      Db.computedProgress, Db.computedProgress, hid, hconfirmed, hdone]

/-- What happens in a sequential run: an operation on an incident, or a
request about one of its tasks. -/
inductive WorkEvent where
  | lifecycle (event : Event)
  | task (request : TaskRequest)

def Db.work (db : Db) : WorkEvent → Db
  | .lifecycle event => db.step event
  | .task request => (request.view.run db).2

structure Db.WithoutTasks (db : Db) : Prop where
  tasks : db.tasks.rows = []
  untouched : ∀ i incident, db.incidents.get? i = some incident →
    incident.isFinished = false ∧ incident.progress = 0

theorem Db.WithoutTasks.allProgressRight (h : db.WithoutTasks) : db.AllProgressRight := by
  intro i incident hinc
  obtain ⟨hopen, hprogress⟩ := h.untouched i incident hinc
  have hnone : db.confirmedTasks incident.id = [] := by
    unfold confirmedTasks Table.select
    rw [h.tasks, List.filter_nil]
  rw [ProgressRight, computedProgress, hopen, hnone, hprogress]
  rfl

theorem Db.AllProgressRight.work (h : db.AllProgressRight) (event : WorkEvent) :
    (db.work event).AllProgressRight := by
  cases event with
  | lifecycle event => exact h.advances (step_advances db event)
  | task request =>
      rcases request.run (Eq.refl (request.view.run db)) with hrefused | hstores
      · rw [Db.work, hrefused.1]
        exact h
      · exact h.stores hstores

/-- Along every run, the progress of every incident is the one that is
computed from its state and its confirmed tasks. The operations of the life
cycle and the requests about tasks may alternate in any way; each of the two
kinds keeps what the other one relies on. -/
theorem progress_recomputed (hstart : db.WithoutTasks) (events : List WorkEvent)
    {i : IncidentId} {incident : Incident}
    (hinc : (exec Db.work db events).incidents.get? i = some incident) :
    incident.progress =
      if incident.etat = .resolved ∨ incident.etat = .resolvedDefinitive then 100
      else if ((exec Db.work db events).confirmedTasks i).length = 0 then 0
      else roundHalfEven (((exec Db.work db events).doneTasks i).length * 100)
        ((exec Db.work db events).confirmedTasks i).length := by
  have hright : (exec Db.work db events).AllProgressRight :=
    exec_inv (fun _ event h => h.work event) hstart.allProgressRight events
  have hid : incident.id = i := Table.key_of_get? hinc
  rw [hright i incident hinc, Db.computedProgress, hid]
  refine if_congr ?_ rfl rfl
  rw [Incident.isFinished, decide_eq_true_eq]

def workStart : Db :=
  Db.start [] [.member 2 "admin@example.org" .orgAdmin 1] (.new 1 none "Bamako" "01-01-2025")

def threeDays (title : String) : TaskData :=
  { title := .value title, description := .absent, startDate := .value 0, endDate := .value 3
    state := .absent, proofImage := .absent, proofVideo := .absent, failureReason := .absent
    assignedTo := .absent }

/-- The administrator plans three tasks and confirms them; two are done. -/
def workEvents : List WorkEvent :=
  [.lifecycle { now := 0, op := .takeInCharge (some 2) 1 (.one .internal) .notText },
    .task (.create (some 2) 1 (threeDays "Colmater")),
    .task (.create (some 2) 1 (threeDays "Curer")),
    .task (.create (some 2) 1 (threeDays "Signaler")),
    .task (.confirm (some 2) 1 1), .task (.confirm (some 2) 1 2), .task (.confirm (some 2) 1 3),
    .task (.complete (some 2) 1 1 .photo .nothing), .task (.complete (some 2) 1 2 .photo .nothing)]

theorem progress_recomputed_twoThirds :
    ∃ incident, (exec Db.work workStart workEvents).incidents.get? 1 = some incident ∧
      incident.progress = 67 := by
  have hstart : workStart.WithoutTasks := by
    refine ⟨rfl, fun i incident hinc => ?_⟩
    obtain rfl := List.mem_singleton.mp (Table.mem_of_get? hinc)
    exact ⟨rfl, rfl⟩
  have hstored : ((exec Db.work workStart workEvents).incidents.get? 1).map Incident.etat =
      some .taken := by
    decide
  obtain ⟨incident, hinc, hetat⟩ := Option.map_eq_some_iff.mp hstored
  refine ⟨incident, hinc, ?_⟩
  rw [progress_recomputed hstart workEvents hinc, hetat, if_neg (by decide)]
  decide

end Runs

end Mapapi
