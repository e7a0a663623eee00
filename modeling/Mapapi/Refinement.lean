import Mapapi.Lib.Loops
import Mapapi.Engagement

/-!
# Every operation is a move

The link between the store and the engagements. A write of an incident row
changes the engagement of that incident as it changes the row
(`engagement?_saveIncidentFields`), a write of collaborations changes the seats
of one incident, and everything else does not show. So an operation acts on
the store (`Acts`) by a `Move` on the incident it is about, and by `stay` on
all others; a task acts on each incident by its own move.

`step_move` puts the operations together: it is what the laws about runs use,
and the only place where the views are looked at.
-/

namespace Mapapi

open Lib

namespace Incident

/-- The progress, which a save may pin, does not show in the engagement. -/
theorem engagement_withProgress (incident : Incident) (q : Nat)
    (seat : UserId → Option Seat) :
    (incident.withProgress q).engagement seat = incident.engagement seat :=
  rfl

@[simp] theorem engagement_pinProgress (incident : Incident) (seat : UserId → Option Seat) :
    incident.pinProgress.engagement seat = incident.engagement seat := by
  unfold pinProgress
  split <;> rfl

theorem engagement_writeColumns (inst row : Incident) (columns : List Column)
    (seat : UserId → Option Seat) :
    (inst.writeColumns columns row).engagement seat =
      (columns.foldl (Column.write inst) row).engagement seat := by
  by_cases hfin : inst.isFinished = true
  · have hpinned := foldl_write_progress inst 100 0 columns row row rfl
    have hfold : (columns.foldl (Column.write inst.pinProgress) row).engagement seat =
        (columns.foldl (Column.write inst) row).engagement seat := by
      rw [pinProgress, if_pos hfin, ← engagement_withProgress _ 0,
        ← engagement_withProgress (columns.foldl (Column.write inst) row) 0, ← hpinned]
      rfl
    rw [← hfold, writeColumns, savedColumns]
    split
    · rw [List.foldl_append]
      rfl
    · rfl
  · rw [writeColumns, savedColumns, pinProgress, if_neg hfin, if_neg fun h => hfin h.1]

end Incident

namespace Db

variable {db db' : Db} {i j : IncidentId} {u : UserId}

/-! ## Engagements and writes -/

theorem engagement?_eq {incident : Incident} (h : db.incidents.get? i = some incident) :
    db.engagement? i = some (incident.engagement (db.seats i)) := by
  rw [engagement?, h, Option.map_some]

theorem engagement?_eq_none : db.engagement? i = none ↔ db.incidents.get? i = none :=
  Option.map_eq_none_iff

theorem engagement?_eq_some {e : Engagement} :
    db.engagement? i = some e ↔
      ∃ incident, db.incidents.get? i = some incident ∧
        incident.engagement (db.seats i) = e :=
  Option.map_eq_some_iff

theorem engagement?_congr (hrow : db'.incidents.get? i = db.incidents.get? i)
    (hseats : db'.seats i = db.seats i) : db'.engagement? i = db.engagement? i := by
  rw [engagement?, engagement?, hrow, hseats]

/-- The write changes the engagement of `i` by `f`, and no other engagement.
Such writes compose (`Turns.trans`), so a view that saves twice turns the
incident by the two changes one after the other. -/
structure Turns (db db' : Db) (i : IncidentId) (f : Engagement → Engagement) : Prop where
  elsewhere : ∀ j, j ≠ i → db'.engagement? j = db.engagement? j
  here : db'.engagement? i = (db.engagement? i).map f

theorem Turns.self {f : Engagement → Engagement}
    (h : ∀ e, db.engagement? i = some e → f e = e) : Turns db db i f where
  elsewhere _ _ := rfl
  here := by
    cases he : db.engagement? i with
    | none => rfl
    | some e => rw [Option.map_some, h e he]

theorem Turns.congr {f g : Engagement → Engagement} (h : Turns db db' i f)
    (hfg : ∀ e, db.engagement? i = some e → f e = g e) : Turns db db' i g where
  elsewhere := h.elsewhere
  here := by
    rw [h.here]
    exact Option.map_congr hfg

theorem Turns.trans {db'' : Db} {f g : Engagement → Engagement} (h : Turns db db' i f)
    (h' : Turns db' db'' i g) : Turns db db'' i fun e => g (f e) where
  elsewhere j hj := (h'.elsewhere j hj).trans (h.elsewhere j hj)
  here := by
    rw [h'.here, h.here, Option.map_map]
    rfl

theorem Turns.logAction {f : Engagement → Engagement} (h : Turns db db' i f) (v : UserId)
    (action : String) : Turns db (db'.logAction v action) i f :=
  ⟨h.elsewhere, h.here⟩

theorem turns_saveIncidentFields {inst : Incident} {columns : List Incident.Column}
    {f : Engagement → Engagement} (hid : inst.id = i)
    (hf : ∀ row, db.incidents.get? i = some row → ∀ seat,
      (columns.foldl (Incident.Column.write inst) row).engagement seat =
        f (row.engagement seat)) :
    Turns db (db.saveIncidentFields inst columns) i f where
  elsewhere j hj := by
    exact engagement?_congr (incidents_saveIncidentFields_other (hid ▸ hj)) rfl
  here := by
    rw [engagement?, seats_saveIncidentFields, get?_saveIncidentFields,
      if_pos hid.symm, engagement?, Option.map_map, Option.map_map]
    refine Option.map_congr fun row hrow => ?_
    exact (Incident.engagement_writeColumns ..).trans (hf row hrow _)

theorem turns_saveRead {inst row : Incident} {columns : List Incident.Column}
    {f : Engagement → Engagement} (hid : inst.id = i) (hrow : db.incidents.get? i = some row)
    (hf : ∀ seat, (columns.foldl (Incident.Column.write inst) row).engagement seat =
      f (row.engagement seat)) :
    Turns db (db.saveIncidentFields inst columns) i f := by
  refine turns_saveIncidentFields hid fun row' hrow' => ?_
  cases hrow.symm.trans hrow'
  exact hf

theorem turns_saveIncident {inst row : Incident} {f : Engagement → Engagement}
    (hid : inst.id = i) (hrow : db.incidents.get? i = some row)
    (hf : ∀ seat, inst.engagement seat = f (row.engagement seat)) :
    Turns db (db.saveIncident inst) i f where
  elsewhere j hj := by
    refine engagement?_congr ?_ rfl
    rw [incidents_saveIncident, if_neg (hid ▸ hj)]
  here := by
    rw [engagement?, seats_saveIncident, incidents_saveIncident, if_pos hid.symm,
      engagement?_eq hrow, Option.map_some, Option.map_some, Incident.engagement_pinProgress, hf]

theorem SetsSeat.turns {s : Option Seat} (h : SetsSeat db db' i u s) :
    Turns db db' i fun e => e.setSeat u s where
  elsewhere j hj := by
    refine engagement?_congr (by rw [h.rows.incidents]) (funext fun v => ?_)
    rw [h.seats, if_neg fun hjv => hj hjv.1]
  here := by
    unfold Db.engagement?
    rw [h.rows.incidents, h.seats_eq, Option.map_map]
    rfl

theorem MapsSeats.turns {f : UserId → Seat → Seat} (h : MapsSeats db db' i f) :
    Turns db db' i fun e => e.mapSeats f where
  elsewhere j hj := engagement?_congr (by rw [h.rows.incidents]) (h.elsewhere j hj)
  here := by
    unfold Db.engagement?
    rw [h.rows.incidents, h.seats, Option.map_map]
    rfl

theorem leads_iff_leads {e : Engagement} {user : User} (he : db.engagement? i = some e)
    (huser : user.isSuperuser = false) : db.leads user i = true ↔ e.Leads user.id := by
  obtain ⟨incident, hinc, rfl⟩ := engagement?_eq_some.mp he
  rw [leads_iff hinc huser, leaderCollaborationExists_seats, Or.comm]
  rfl

theorem leads_of_engagement {e : Engagement} {user : User} (he : db.engagement? i = some e)
    (h : isSuperAdmin user = true ∨ e.Leads user.id) : db.leads user i = true := by
  cases hsuper : isSuperAdmin user with
  | true => simp [leads, hsuper]
  | false =>
      have hleads : e.Leads user.id := h.resolve_left (by rw [hsuper]; decide)
      exact (leads_iff_leads he (isSuperAdmin_eq user ▸ hsuper)).mpr hleads

end Db

/-! ## Acting on every incident -/

/-- The operation moves every incident of the store, and adds none. -/
structure Acts (db : Db) (now : Instant) (op : Op) (db' : Db) : Prop where
  missing : ∀ i, db.engagement? i = none → db'.engagement? i = none
  moves : ∀ i e, db.engagement? i = some e →
    ∃ e', db'.engagement? i = some e' ∧ Move db now i e op e'

section Acts

variable {db db' : Db} {now : Instant} {op : Op} {i : IncidentId} {e e' : Engagement}
  {out : Response × Db}

theorem Acts.stay (h : ∀ j, db'.engagement? j = db.engagement? j) : Acts db now op db' :=
  ⟨fun j hj => (h j).trans hj, fun j e he => ⟨e, (h j).trans he, .stay⟩⟩

theorem Acts.refused (h : Refused db out) : Acts db now op out.2 :=
  .stay fun j => by rw [h.1]

/-- The operation is about one incident. -/
theorem Acts.move {f : Engagement → Engagement} (h : Db.Turns db db' i f)
    (hmove : ∀ e, db.engagement? i = some e → Move db now i e op (f e)) :
    Acts db now op db' := by
  refine ⟨fun j hj => ?_, fun j e hj => ?_⟩
  · by_cases hji : j = i
    · subst hji
      rw [h.here, hj]
      rfl
    · rw [h.elsewhere j hji, hj]
  · by_cases hji : j = i
    · subst hji
      exact ⟨f e, by rw [h.here, hj]; rfl, hmove e hj⟩
    · exact ⟨e, (h.elsewhere j hji).trans hj, .stay⟩

theorem Acts.moveRow {f : Engagement → Engagement} {incident : Incident}
    (hinc : db.incidents.get? i = some incident) (h : Db.Turns db db' i f)
    (hmove : Move db now i (incident.engagement (db.seats i)) op
      (f (incident.engagement (db.seats i)))) : Acts db now op db' := by
  refine .move h fun e he => ?_
  cases he.symm.trans (Db.engagement?_eq hinc)
  exact hmove

end Acts

/-! ## The requests

Each request is taken apart by its run lemma: it was refused, and the incident
stays, or its guards have passed and its writes make up one move. -/

section Requests

variable {db : Db} {now : Instant} {auth : Option UserId} {i : IncidentId}

theorem turns_openIncident {incident : Incident} (hinc : db.incidents.get? i = some incident)
    (hmode : incident.takeInChargeMode = none) :
    Db.Turns db (db.openIncident incident) i Engagement.opened := by
  refine Db.turns_saveRead (Table.key_of_get? hinc) hinc fun seat => ?_
  simp [Incident.Column.write, Incident.opened, Incident.engagement, Engagement.opened, hmode]

theorem turns_joinIncident {incident : Incident}
    (hinc : db.incidents.get? i = some incident) :
    Db.Turns db (db.joinIncident incident) i Engagement.opened := by
  unfold Db.joinIncident
  split
  · rename_i hmode
    exact turns_openIncident hinc hmode
  · rename_i hmode
    refine .self fun e he => ?_
    cases he.symm.trans (Db.engagement?_eq hinc)
    obtain ⟨mode, hsome⟩ := Option.ne_none_iff_exists'.mp hmode
    simp [Engagement.opened, Incident.engagement, hsome]

theorem turns_ledBy {incident : Incident} {user : User}
    (hinc : db.incidents.get? i = some incident) :
    Db.Turns db (db.saveIncidentFields (incident.ledBy user.id now) incident.ledColumns) i
      fun e => { e.ledBy user.id now with seat := e.seat } := by
  have hid : (incident.ledBy user.id now).id = i := by
    rw [← Table.key_of_get? hinc]
    unfold Incident.ledBy
    split <;> rfl
  refine Db.turns_saveRead hid hinc fun seat => ?_
  by_cases hetat : incident.etat = .declared <;>
    simp [Incident.ledBy, Incident.ledColumns, Incident.engagedBy, Incident.Column.write,
      Incident.engagement, Engagement.ledBy, hetat]

/-- The leader row, and the reset of the contributors, complete the engagement. -/
theorem ledBy_seats (e : Engagement) (u : UserId) :
    ({ e.ledBy u now with seat := e.seat }.setSeat u (some Seat.leader)).mapSeats (Seat.reset u) =
      e.ledBy u now := by
  have hseat : (fun v => (Function.update e.seat u (some Seat.leader) v).map (Seat.reset u v)) =
      fun v => if v = u then some Seat.leader else (e.seat v).map (Seat.reset u v) := by
    funext v
    by_cases hv : v = u
    · subst hv
      simp [Seat.reset]
    · rw [Function.update_of_ne hv, if_neg hv]
  unfold Engagement.mapSeats Engagement.setSeat Engagement.ledBy
  dsimp only
  rw [hseat]

/-- The first of the simulations: whatever `TakeInChargeView` does to the
store, the engagement of each incident moves as one of the cases of `Move`
says. The internal way and the two collaborative ways set a seat each and
differ in which columns they save. -/
theorem acts_takeInCharge (mode : Choice TakeInChargeMode) (role : Choice CollabRole) :
    Acts db now (.takeInCharge auth i mode role)
      ((takeInCharge now auth i mode role).run db).2 := by
  rcases takeInCharge_run (Eq.refl ((takeInCharge now auth i mode role).run db)) with
    h | ⟨user, incident, hauth, hadmin, hinc, hopen, ⟨rfl, h⟩ | ⟨r, rfl, rfl, h⟩⟩
  · exact .refused h
  all_goals
    have hid : incident.id = i := Table.key_of_get? hinc
    subst hid
  · rcases takeInternal_run (authenticated_id hauth).2 h with h | ⟨hfree, hmode, hetat, hset⟩
    · exact .refused h
    have hsave : Db.Turns db (db.saveIncidentFields (incident.engagedBy user.id .internal now)
          [.takenBy, .etat, .takeInChargeMode, .takenInChargeAt, .antigelWarned75,
            .antigelWarned90])
        incident.id fun e => { e.engagedBy user.id now with mode := some .internal } :=
      Db.turns_saveRead rfl hinc fun seat => rfl
    exact .moveRow hinc (hsave.trans hset.turns) (.takeInternal hauth hadmin hfree hmode hetat)
  · rcases takeCollaborative_run h with h | ⟨hmode, hnone, ⟨rfl, h⟩ | ⟨hrole, h⟩⟩
    · exact .refused h
    all_goals
      have hseat : db.seats incident.id user.id = none :=
        congrArg (Option.map Collaboration.seat) hnone
    · rcases takeLeader_run (authenticated_id hauth).2 hnone h with
        h | ⟨hfree, db', hset, hreset⟩
      · exact .refused h
      have hturns := (((turns_ledBy hinc).trans hset.turns).trans hreset.turns).congr
        fun e _ => ledBy_seats e user.id
      exact .moveRow hinc hturns (.takeLead hauth hadmin hopen hmode hseat hfree)
    · obtain ⟨db', -, hset, hout⟩ := takeJoin_run hnone h
      have hinc' : db'.incidents.get? incident.id = some incident := by
        rw [hset.rows.incidents, hinc]
      have hturns := hset.turns.trans (turns_joinIncident hinc')
      have hmove : Move db now incident.id (incident.engagement (db.seats incident.id))
          (.takeInCharge auth incident.id (.one .collaborative) (.one r)) _ :=
        .join hauth hadmin hopen hmode hseat hrole
      rcases hout with hout | ⟨message, data, collaboration, action, hout⟩
      · rw [hout]
        exact .moveRow hinc hturns hmove
      · rw [hout]
        exact .moveRow hinc (hturns.logAction _ _) hmove

theorem acts_handleIncident (action : Option HandleAction) :
    Acts db now (.handleIncident auth i action) ((handleIncident auth i action).run db).2 := by
  rcases handleIncident_run (Eq.refl ((handleIncident auth i action).run db)) with
    h | ⟨user, incident, hauth, hinc, ⟨rfl, hetat, h⟩ | ⟨rfl, hetat, h⟩⟩
  · exact .refused h
  · have hsave : Db.Turns db
        (db.saveIncident { incident with etat := .taken, takenBy := some user.id }) i
        fun e => { e with etat := .taken, takenBy := some user.id } :=
      Db.turns_saveIncident (Table.key_of_get? hinc) hinc fun seat => rfl
    rcases handled_run h with hout | hout
    · rw [hout]
      exact .moveRow hinc hsave (.handleTaken hauth hetat)
    · rw [hout]
      exact .moveRow hinc (hsave.logAction _ _) (.handleTaken hauth hetat)
  · have hsave : Db.Turns db (db.saveIncident { incident with etat := .resolved }) i
        fun e => { e with etat := .resolved } :=
      Db.turns_saveIncident (Table.key_of_get? hinc) hinc fun seat => rfl
    rcases handled_run h with hout | hout
    · rw [hout]
      exact .moveRow hinc hsave (.handleResolved hauth hetat)
    · rw [hout]
      exact .moveRow hinc (hsave.logAction _ _) (.handleResolved hauth hetat)

theorem leads_of_isOrgAdmin {incident : Incident} {user : User}
    (hinc : db.incidents.get? i = some incident) (hadmin : isOrgAdmin user = true)
    (hleads : db.leads user i = true) : (incident.engagement (db.seats i)).Leads user.id :=
  (Db.leads_iff_leads (Db.engagement?_eq hinc) (isOrgAdmin_iff.mp hadmin).1).mp hleads

theorem acts_closeIncident (startDate endDate : Arg Date) :
    Acts db now (.closeIncident auth i startDate endDate)
      ((closeIncident auth i startDate endDate).run db).2 := by
  rcases closeIncident_run (Eq.refl ((closeIncident auth i startDate endDate).run db)) with
    h | ⟨user, incident, start, stop, hauth, hadmin, hleads, hinc, hetat, rfl, rfl, htasks, hout⟩
  · exact .refused h
  rw [hout]
  refine .moveRow hinc (Db.turns_saveIncident (f := fun e => { e with etat := .resolved })
    (Table.key_of_get? hinc) hinc fun seat => rfl) ?_
  exact .close hauth hadmin (leads_of_isOrgAdmin hinc hadmin hleads) hetat htasks

theorem acts_prepareResolution :
    Acts db now (.prepareResolution auth i) ((prepareResolution now auth i).run db).2 := by
  rcases prepareResolution_run (Eq.refl ((prepareResolution now auth i).run db)) with
    h | ⟨user, incident, hauth, hoperative, hinc, hetat, hout⟩
  · exact .refused h
  rw [hout]
  exact .moveRow hinc (Db.turns_saveRead (f := fun e => { e with etat := .resolutionPrepared })
    (Table.key_of_get? hinc) hinc fun seat => rfl) (.prepare hauth hoperative hetat)

theorem acts_returnForCompletion :
    Acts db now (.returnForCompletion auth i) ((returnForCompletion auth i).run db).2 := by
  rcases returnForCompletion_run (Eq.refl ((returnForCompletion auth i).run db)) with
    h | ⟨user, incident, hauth, hadmin, hinc, hetat, hout⟩
  · exact .refused h
  rw [hout]
  exact .moveRow hinc (Db.turns_saveRead (f := fun e => { e with etat := .taken })
    (Table.key_of_get? hinc) hinc fun seat => rfl) (.returnBack hauth hadmin hetat)

theorem acts_declareResolved :
    Acts db now (.declareResolved auth i) ((declareResolved now auth i).run db).2 := by
  rcases declareResolved_run (Eq.refl ((declareResolved now auth i).run db)) with
    h | ⟨user, incident, hauth, hadmin, hinc, hetat, -, hout⟩
  · exact .refused h
  rw [hout]
  exact .moveRow hinc (Db.turns_saveRead
    (f := fun e => { e with
      etat := .inValidation, validationDeadline := some (now + hours 72) })
    (Table.key_of_get? hinc) hinc fun seat => rfl) (.declareResolved hauth hadmin hetat)

theorem acts_validateResolution :
    Acts db now (.validateResolution auth i) ((validateResolution auth i).run db).2 := by
  rcases validateResolution_run (Eq.refl ((validateResolution auth i).run db)) with
    h | ⟨user, incident, hauth, hsuper, hinc, hetat, hout⟩
  · exact .refused h
  rw [hout]
  have hsave : Db.Turns db
      (db.saveIncidentFields { incident with etat := .resolvedDefinitive } [.etat]) i
      fun e => { e with etat := .resolvedDefinitive } :=
    Db.turns_saveRead (Table.key_of_get? hinc) hinc fun seat => rfl
  exact .moveRow hinc (hsave.trans mapsSeats_terminate.turns) (.validate hauth hsuper hetat)

theorem acts_rejectResolution (motif : Choice String) :
    Acts db now (.rejectResolution auth i motif) ((rejectResolution auth i motif).run db).2 := by
  rcases rejectResolution_run (Eq.refl ((rejectResolution auth i motif).run db)) with
    h | ⟨user, incident, text, hauth, hsuper, hinc, hetat, rfl, hout⟩
  · exact .refused h
  rw [hout]
  exact .moveRow hinc (Db.turns_saveRead (f := fun e => { e with etat := .taken })
    (Table.key_of_get? hinc) hinc fun seat => rfl) (.reject hauth hsuper hetat)

theorem otherContributors_select_eq_nil {u : UserId} :
    db.collaborations.select (otherContributors i u) = [] ↔
      ¬ ∃ v, v ≠ u ∧ db.seats i v = some { role := .contributor, status := .accepted } := by
  rw [List.eq_nil_iff_forall_not_mem, not_exists]
  constructor
  · rintro h v ⟨hv, hseat⟩
    obtain ⟨c, hc, hrow⟩ := Option.map_eq_some_iff.mp hseat
    obtain ⟨hincident, rfl⟩ := Db.collaboration?_key hc
    subst hincident
    obtain ⟨hrole, hstatus⟩ := Seat.mk.inj hrow
    refine h c (Table.mem_select.mpr ⟨hc, ?_⟩)
    simp [otherContributors, hrole, hstatus, hv]
  · intro h c hc
    obtain ⟨hget, hother⟩ := Table.mem_select.mp hc
    simp only [otherContributors, decide_eq_true_eq] at hother
    obtain ⟨rfl, hrole, hstatus, hne⟩ := hother
    refine h c.user ⟨hne, ?_⟩
    rw [Db.seats, show db.collaboration? c.incident c.user = some c from hget, Option.map_some,
      Collaboration.seat, hrole, hstatus]

/-- Disengaging ends the leader's own seat, and then either offers the lead to
those who are left or ends all of the seats and declares the incident again. -/
theorem acts_disengage : Acts db now (.disengage auth i) ((disengage auth i).run db).2 := by
  rcases disengage_run (Eq.refl ((disengage auth i).run db)) with
    h | ⟨user, incident, hauth, hadmin, hleads, hinc, hetat, h⟩
  · exact .refused h
  have hleads' := leads_of_isOrgAdmin hinc hadmin hleads
  have hleave := db.mapsSeats_leave i user.id
  set left := db.updateCollaborations (fun c => decide (c.incident = i ∧ c.user = user.id)) id
    .terminated
  -- leaving changes the own seat only
  have hothers : left.collaborations.select (otherContributors i user.id) = [] ↔
      ¬ (incident.engagement (db.seats i)).OtherContributor user.id := by
    rw [otherContributors_select_eq_nil]
    refine not_congr (exists_congr fun v => and_congr_right fun hv => ?_)
    rw [hleave.seats]
    simp [Seat.leave, hv, Incident.engagement]
  rcases h with ⟨hsome, hout⟩ | ⟨hnil, hout⟩
  · have hrow : (left.updateCollaborations (otherContributors i user.id) (fun _ => .leader)
        .pending).incidents.get? i = some incident := hinc
    rw [hout]
    exact .moveRow hinc ((hleave.turns.trans mapsSeats_offer.turns).trans
      (Db.turns_saveRead (f := Engagement.released) (Table.key_of_get? hinc) hrow
        fun seat => rfl))
      (.disengageOffered hauth hadmin hleads' hetat (by simpa [hothers] using hsome))
  · have hrow : (terminateActiveCollaborations i left).incidents.get? i = some incident := hinc
    rw [hout]
    exact .moveRow hinc ((hleave.turns.trans mapsSeats_terminate.turns).trans
      (Db.turns_saveRead (f := fun e => { e.released with etat := .declared })
        (Table.key_of_get? hinc) hrow fun seat => rfl))
      (.disengageAlone hauth hadmin hleads' hetat (hothers.mp hnil))

/-! ### Assignments -/

theorem acts_assignToOrganisation (organisationId : RawId) :
    Acts db now (.assignToOrganisation auth i organisationId)
      ((assignToOrganisation now auth i organisationId).run db).2 := by
  rcases assignToOrganisation_run (Eq.refl ((assignToOrganisation now auth i organisationId).run
    db)) with h | ⟨assignment, -, -, -, -, notifications, hout⟩
  · exact .refused h
  rw [hout]
  exact .stay fun j => rfl

theorem acts_acceptOrgAssignment (pk : OrgAssignmentId) :
    Acts db now (.acceptOrgAssignment auth pk) ((acceptOrgAssignment now auth pk).run db).2 := by
  rcases acceptOrgAssignment_run (Eq.refl ((acceptOrgAssignment now auth pk).run db)) with
    h | ⟨user, assignment, incident, hauth, hadmin, hassignment, hinc, hmember, hpending, hout⟩
  · exact .refused h
  rw [hout, engageIncident]
  have hinc' : (db.answerAssignment pk .accepted id now).incidents.get? assignment.incident =
    some incident := hinc
  split
  · rename_i hetat
    have hsave : Db.Turns (db.answerAssignment pk .accepted id now)
        ((db.answerAssignment pk .accepted id now).saveIncidentFields
          (incident.engaged user.id now)
          [.etat, .takenBy, .takenInChargeAt, .antigelWarned75, .antigelWarned90])
        assignment.incident fun e => e.engagedBy user.id now :=
      Db.turns_saveRead (Table.key_of_get? hinc) hinc' fun seat => rfl
    exact .moveRow hinc ⟨hsave.elsewhere, hsave.here⟩
      (.engage hauth hadmin hassignment rfl hpending hmember hetat)
  · exact .stay fun j => rfl

theorem acts_declineOrgAssignment (pk : OrgAssignmentId) (reason : Choice String) :
    Acts db now (.declineOrgAssignment auth pk reason)
      ((declineOrgAssignment now auth pk reason).run db).2 := by
  rcases declineOrgAssignment_run (Eq.refl ((declineOrgAssignment now auth pk reason).run db)) with
    h | ⟨declineReason, hout⟩
  · exact .refused h
  rw [hout]
  exact .stay fun j => rfl

/-! ### Collaborations -/

/-- A request is a move of one seat. The incident may be opened on the way,
which changes the mode and nothing else about who is engaged. -/
theorem acts_requestCollaboration (data : CollaborationData) :
    Acts db now (.requestCollaboration auth data)
      ((requestCollaboration now auth data).run db).2 := by
  rcases requestCollaboration_run (Eq.refl ((requestCollaboration now auth data).run db)) with
    h | ⟨user, valid, db', hauth, hoperative, hvalid, hold, hset, -, hout⟩
  · exact .refused h
  obtain ⟨-, hinc, hopen, -, hleader⟩ := collaborationIsValid_ok hvalid
  have hinc' : db'.incidents.get? valid.incident.id = some valid.incident := by
    rw [hset.rows.incidents, hinc]
  have hseat : ∀ s, db.seats valid.incident.id user.id = some s →
      s.status ≠ .pending ∧ s.status ≠ .accepted := by
    intro s hs
    obtain ⟨c, hc, rfl⟩ := Option.map_eq_some_iff.mp hs
    simpa [Collaboration.isActive, Collaboration.seat, not_or] using hold c hc
  rw [hout]
  refine .moveRow hinc (f := fun e => e.requested user.id valid.role
    (db.receives e.takenBy user.id (valid.role.getD .contributor))) ?_
    (.request hauth hoperative hvalid rfl rfl hleader hopen hseat)
  by_cases haccepted : requestStatus valid.incident valid.role = .accepted
  · have hjoin : (if valid.incident.takeInChargeMode = none ∧
        requestStatus valid.incident valid.role = .accepted then
          db'.openIncident valid.incident else db') = db'.joinIncident valid.incident :=
      if_congr (and_iff_left haccepted) rfl rfl
    rw [hjoin]
    refine (hset.turns.trans (turns_joinIncident hinc')).congr fun e he => ?_
    cases he.symm.trans (Db.engagement?_eq hinc)
    exact congrArg (fun mode => { (valid.incident.engagement _).setSeat _ _ with mode := mode })
      (if_pos haccepted).symm
  · rw [if_neg fun h => haccepted h.2]
    refine hset.turns.congr fun e he => ?_
    cases he.symm.trans (Db.engagement?_eq hinc)
    exact congrArg (fun mode => { (valid.incident.engagement _).setSeat _ _ with mode := mode })
      (if_neg haccepted).symm

/-- A list of requests is a run of moves of the same kind, one for each item
that is served; the refused ones do not move anything. -/
theorem acts_bulkRequest (requests : Option (List BulkItem)) :
    Acts db now (.bulkRequest auth requests) ((bulkRequest now auth requests).run db).2 := by
  rcases bulkRequest_run (Eq.refl ((bulkRequest now auth requests).run db)) with
    h | ⟨user, items, hauth, hadmin, rfl, h⟩
  · exact .refused h
  have hbulk := bulkItems_run h
  refine ⟨fun j hj => ?_, fun j e he => ?_⟩
  · rw [Db.engagement?_eq_none] at hj ⊢
    rw [hbulk.rows.incidents, hj]
  · obtain ⟨incident, hinc, rfl⟩ := Db.engagement?_eq_some.mp he
    have hinc' := hinc
    rw [← hbulk.rows.incidents] at hinc'
    refine ⟨_, Db.engagement?_eq hinc', ?_⟩
    rcases hbulk.own j with hsame | ⟨hnone, incident', role, hrow, hopen, hrole, hkept, hnew⟩
    · have hseats : ((bulkRequest now auth (some items)).run db).2.seats j = db.seats j := by
        funext v
        by_cases hv : v = user.id
        · rw [hv, hsame]
        · exact hbulk.others j v hv
      rw [hseats]
      exact .stay
    · cases hinc.symm.trans hrow
      have hseats : ((bulkRequest now auth (some items)).run db).2.seats j =
          Function.update (db.seats j) user.id (some ⟨role, .pending⟩) := by
        funext v
        by_cases hv : v = user.id
        · subst hv
          rw [hnew, Function.update_self]
        · rw [hbulk.others j v hv, Function.update_of_ne hv]
      rw [hseats]
      exact .bulk hauth hadmin hrole hopen hnone hkept

theorem seats_of_collaborationById? {id : CollaborationId} {c : Collaboration}
    (h : db.collaborationById? id = some c) : db.seats c.incident c.user = some c.seat :=
  congrArg (Option.map Collaboration.seat) (Db.collaboration?_of_byId h)

theorem turns_saveStatus {c : Collaboration} (hseat : db.seats c.incident c.user = some c.seat)
    (status : CollabStatus) :
    Db.Turns db (db.saveCollaboration { c with status := status }) c.incident
      fun e => e.withStatus c.user status := by
  have hset : Db.SetsSeat db (db.saveCollaboration { c with status := status }) c.incident c.user
      (some { c.seat with status := status }) := Db.setsSeat_saveCollaboration rfl rfl
  refine hset.turns.congr fun e he => ?_
  obtain ⟨incident, -, rfl⟩ := Db.engagement?_eq_some.mp he
  unfold Engagement.withStatus
  rw [show (incident.engagement (db.seats c.incident)).seat c.user = some c.seat from hseat]
  rfl

theorem turns_acceptRow {c : Collaboration} {incident : Incident} {reply : Response}
    (hseat : db.seats c.incident c.user = some c.seat)
    (hinc : db.incidents.get? c.incident = some incident) :
    Db.Turns db ((acceptRow c incident reply).run db).2 c.incident
      fun e => (e.withStatus c.user .accepted).sharedOut := by
  rw [(acceptRow_run rfl).2]
  have hstatus := turns_saveStatus hseat .accepted
  have hinc' : (db.saveCollaboration { c with status := .accepted }).incidents.get? c.incident =
      some incident := by
    rw [(Db.setsSeat_saveCollaboration (c := { c with status := .accepted }) rfl
      rfl).rows.incidents, hinc]
  refine hstatus.trans (g := Engagement.sharedOut) ?_
  split
  · rename_i hmode
    refine Db.turns_saveRead (Table.key_of_get? hinc) hinc' fun seat => ?_
    simp [Incident.Column.write, Incident.opened, Incident.engagement, Engagement.sharedOut, hmode]
  · rename_i hmode
    refine .self fun e he => ?_
    cases he.symm.trans (Db.engagement?_eq hinc')
    simp [Engagement.sharedOut, Incident.engagement, hmode]

theorem Answers.leads_engagement {id : CollaborationId} {user : User} {c : Collaboration}
    {incident : Incident} (h : Answers db auth id user c incident) :
    (incident.engagement (db.seats c.incident)).Leads user.id :=
  h.leads.imp_right Db.leaderCollaborationExists_seats.mp

theorem acts_handleCollaboration (id : CollaborationId)
    (action : Option HandleCollaborationAction) :
    Acts db now (.handleCollaboration auth id action)
      ((handleCollaboration auth id action).run db).2 := by
  rcases handleCollaboration_run (Eq.refl ((handleCollaboration auth id action).run db)) with
    h | ⟨user, c, incident, hanswers, ⟨rfl, h⟩ | ⟨rfl, hout⟩⟩
  · exact .refused h
  · have hseat := seats_of_collaborationById? hanswers.row
    rw [← h]
    exact .moveRow hanswers.about (turns_acceptRow hseat hanswers.about)
      (.accept (Or.inl rfl) hanswers.signedIn hanswers.admin hanswers.row rfl hseat
        hanswers.leads_engagement)
  · have hseat := seats_of_collaborationById? hanswers.row
    rw [hout]
    exact .moveRow hanswers.about (turns_saveStatus hseat .declined)
      (.decline (Or.inl rfl) hanswers.signedIn hanswers.admin hanswers.row rfl hseat
        hanswers.leads_engagement)

theorem acts_acceptCollaboration (rawId : RawId) :
    Acts db now (.acceptCollaboration auth rawId)
      ((acceptCollaboration now auth rawId).run db).2 := by
  rcases acceptCollaboration_run (Eq.refl ((acceptCollaboration now auth rawId).run db)) with
    h | ⟨id, user, c, incident, rfl, hanswers, hstatus, hexpired, h⟩
  · exact .refused h
  have hseat := seats_of_collaborationById? hanswers.row
  rw [← h]
  exact .moveRow hanswers.about (turns_acceptRow hseat hanswers.about)
    (.accept (Or.inr ⟨rfl, hstatus, hexpired⟩) hanswers.signedIn hanswers.admin hanswers.row rfl
      hseat hanswers.leads_engagement)

theorem acts_declineCollaboration (rawId : RawId) :
    Acts db now (.declineCollaboration auth rawId)
      ((declineCollaboration auth rawId).run db).2 := by
  rcases declineCollaboration_run (Eq.refl ((declineCollaboration auth rawId).run db)) with
    h | ⟨id, user, c, incident, rfl, hanswers, hout⟩
  · exact .refused h
  have hseat := seats_of_collaborationById? hanswers.row
  rw [hout]
  exact .moveRow hanswers.about (turns_saveStatus hseat .declined)
    (.decline (Or.inr rfl) hanswers.signedIn hanswers.admin hanswers.row rfl hseat
      hanswers.leads_engagement)

/-! ### Suggestions and the discussion -/

theorem acts_acceptSuggestion (pk : SuggestionId) :
    Acts db now (.acceptSuggestion auth i pk) ((acceptSuggestion auth i pk).run db).2 := by
  rcases acceptSuggestion_run (Eq.refl ((acceptSuggestion auth i pk).run db)) with
    h | ⟨user, suggestion, db', hauth, hleads, hget, habout, hpending, hset, hout⟩
  · exact .refused h
  rw [hout]
  have hturns : Db.Turns db ((answerSuggestion suggestion .accepted).run db').2 i
      fun e => e.setSeat suggestion.suggestedPartner (suggestedSeat db suggestion) :=
    ⟨hset.turns.elsewhere, hset.turns.here⟩
  refine .move hturns fun e he => ?_
  refine .acceptSuggestion hauth ?_ hget habout hpending
  cases hsuper : isSuperAdmin user with
  | true => exact Or.inl rfl
  | false => exact Or.inr ((Db.leads_iff_leads he (isSuperAdmin_eq user ▸ hsuper)).mp hleads)

theorem acts_rejectSuggestion (pk : SuggestionId) :
    Acts db now (.rejectSuggestion auth i pk) ((rejectSuggestion auth i pk).run db).2 := by
  rcases rejectSuggestion_run (Eq.refl ((rejectSuggestion auth i pk).run db)) with
    h | ⟨suggestion, hout⟩
  · exact .refused h
  rw [hout]
  exact .stay fun j => rfl

theorem acts_discussion {op : Op} {db' : Db} (hop : op.Discusses auth i)
    (h : OpensDiscussion db auth i db') : Acts db now op db' := by
  rcases h with ⟨u, hset⟩ | ⟨user, incident, hauth, hsuper, hinc, ⟨henters⟩, hset⟩
  · refine .move (f := id) (hset.turns.congr fun e he => ?_) fun e he => .stay
    obtain ⟨incident, -, rfl⟩ := Db.engagement?_eq_some.mp he
    exact congrArg (incident.engagement ·) (Function.update_eq_self u (db.seats i))
  · refine .moveRow hinc (f := fun e => e.seated user.id) (hset.turns.congr fun e he => ?_) ?_
    · cases he.symm.trans (Db.engagement?_eq hinc)
      rfl
    · rcases henters with ⟨hmode, owner, organisation, howner, hown, hmember⟩ | ⟨hmode, htaken⟩
      · exact .discussInternally hop hauth hsuper hmode howner hown hmember
      · exact .discussAsTaker hop hauth hsuper hmode htaken

theorem acts_readDiscussion :
    Acts db now (.readDiscussion auth i) ((readDiscussion auth i).run db).2 := by
  rcases readDiscussion_run (Eq.refl ((readDiscussion auth i).run db)) with h | h
  · exact .refused h
  · exact acts_discussion (Or.inl rfl) h

theorem acts_postDiscussion (data : DiscussionData) :
    Acts db now (.postDiscussion auth i data) ((postDiscussion auth i data).run db).2 := by
  rcases postDiscussion_run (Eq.refl ((postDiscussion auth i data).run db)) with h | ⟨hdata, h⟩
  · exact .refused h
  · exact acts_discussion (Or.inr ⟨data, hdata, rfl⟩) h

end Requests

/-! ## The tasks -/

section Tasks

variable {db : Db} {now : Instant}

/-- A loop over rows of distinct incidents acts on each incident by the
iteration of its row. -/
theorem acts_foldl {ρ : Type} {op : Op} {body : Db → ρ → Db} (about : ρ → IncidentId)
    {f : ρ → Engagement → Engagement} {l : List ρ} (hl : (l.map about).Nodup)
    (hbody : ∀ db' r, Db.Turns db' (body db' r) (about r) (f r))
    (hmove : ∀ r ∈ l, ∀ e, db.engagement? (about r) = some e →
      Move db now (about r) e op (f r e)) : Acts db now op (l.foldl body db) := by
  have hnever (i : IncidentId) (hi : ∀ r ∈ l, about r ≠ i) :
      (l.foldl body db).engagement? i = db.engagement? i :=
    foldl_never body (fun db' : Db => db'.engagement? i) (I := fun _ => True)
      (fun _ _ _ => trivial)
      (fun db' r hr _ => (hbody db' r).elsewhere i (hi r hr).symm) trivial
  have honce (r : ρ) (hr : r ∈ l) :
      (l.foldl body db).engagement? (about r) = (db.engagement? (about r)).map (f r) := by
    exact foldl_once body (fun db' : Db => db'.engagement? (about r)) about (I := fun _ => True)
      (g := Option.map (f r)) (fun _ _ _ => trivial)
      (fun db' _ => (hbody db' r).here) (fun db' r' _ _ hne => (hbody db' r').elsewhere _ hne.symm)
      hl hr trivial
  refine ⟨fun i hi => ?_, fun i e he => ?_⟩
  · by_cases hr : ∃ r ∈ l, about r = i
    · obtain ⟨r, hr, rfl⟩ := hr
      rw [honce r hr, hi]
      rfl
    · rw [hnever i fun r hmem heq => hr ⟨r, hmem, heq⟩, hi]
  · by_cases hr : ∃ r ∈ l, about r = i
    · obtain ⟨r, hr, rfl⟩ := hr
      exact ⟨f r e, by rw [honce r hr, he]; rfl, hmove r hr e he⟩
    · exact ⟨e, (hnever i fun r hmem heq => hr ⟨r, hmem, heq⟩).trans he, .stay⟩

theorem acts_autoValidate :
    Acts db now .autoValidateOverdueResolutions
      ((autoValidateOverdueResolutions now).run db).2 := by
  unfold autoValidateOverdueResolutions
  simp only [Prog.run_bind, Prog.run_read, Prog.run_forEach, Prog.run_pure]
  refine acts_foldl Incident.id
    (f := fun _ e => { e.terminated with etat := .resolvedDefinitive })
    (db.incidents.nodup_select _) (fun db' r => ?_) fun r hr e he => ?_
  · have hsave : Db.Turns db'
        (db'.saveIncidentFields { r with etat := .resolvedDefinitive } [.etat]) r.id
        fun e => { e with etat := .resolvedDefinitive } :=
      Db.turns_saveIncidentFields rfl fun row hrow seat => rfl
    exact hsave.trans mapsSeats_terminate.turns
  · obtain ⟨hrow, hdue⟩ := Table.mem_select.mp hr
    cases he.symm.trans (Db.engagement?_eq hrow)
    simp only [overdueValidation, Bool.and_eq_true, decide_eq_true_eq, Option.any_eq_true] at hdue
    obtain ⟨hetat, deadline, hdeadline, hoverdue⟩ := hdue
    exact .autoValidate hetat hdeadline hoverdue

def antigelTurn (verdict : AntigelVerdict) (e : Engagement) : Engagement :=
  match verdict with
  | .revert => e.reverted
  | .warn90 => { e with warned75 := true, warned90 := true }
  | .warn75 => { e with warned75 := true }
  | .wait => e

theorem engagement?_notifyAntigelLeader (incident : Incident) (pct : Nat) (i : IncidentId) :
    (notifyAntigelLeader incident pct db).engagement? i = db.engagement? i := by
  unfold notifyAntigelLeader
  split <;> rfl

theorem turns_revertStaleOne (incident : Incident) (since : Instant) :
    Db.Turns db ((revertStaleOne now (incident, since)).run db).2 incident.id
      (antigelTurn (antigelVerdict now since incident)) := by
  have hnotified (pct : Nat) : Db.Turns db (notifyAntigelLeader incident pct db) incident.id id :=
    ⟨fun j _ => engagement?_notifyAntigelLeader incident pct j, by
      rw [engagement?_notifyAntigelLeader, Option.map_id_fun, id]⟩
  rw [revertStaleOne_run]
  cases antigelVerdict now since incident with
  | revert => exact Db.turns_saveIncidentFields rfl fun row _ seat => rfl
  | warn90 =>
      exact (hnotified 90).trans (Db.turns_saveIncidentFields (f := antigelTurn .warn90) rfl
        fun row _ seat => rfl)
  | warn75 =>
      exact (hnotified 75).trans (Db.turns_saveIncidentFields (f := antigelTurn .warn75) rfl
        fun row _ seat => rfl)
  | wait => exact .self fun e _ => rfl

theorem engagedSince_eq_some {incident row : Incident} {since : Instant}
    (h : engagedSince row = some (incident, since)) :
    row = incident ∧ incident.etat = .taken ∧ incident.takenInChargeAt = some since := by
  unfold engagedSince at h
  split at h
  · rename_i hetat
    obtain ⟨at', hat, heq⟩ := Option.map_eq_some_iff.mp h
    cases heq
    exact ⟨rfl, hetat, hat⟩
  · cases h

theorem acts_revertStale :
    Acts db now .revertStaleTakenIncidents ((revertStaleTakenIncidents now).run db).2 := by
  unfold revertStaleTakenIncidents
  simp only [Prog.run_bind, Prog.run_read, Prog.run_forEach, Prog.run_pure]
  refine acts_foldl (fun r => r.1.id) (f := fun r => antigelTurn (antigelVerdict now r.2 r.1))
    (db.incidents.nodup_filterMap fun row r hr => ?_)
    (fun db' r => turns_revertStaleOne r.1 r.2) fun r hr e he => ?_
  · rw [(engagedSince_eq_some hr).1]
    rfl
  · obtain ⟨row, hmem, hsince⟩ := List.mem_filterMap.mp hr
    obtain ⟨incident, since⟩ := r
    obtain ⟨rfl, hetat, hat⟩ := engagedSince_eq_some hsince
    have hrow : db.incidents.get? row.id = some row := Table.get?_of_mem hmem
    cases he.symm.trans (Db.engagement?_eq hrow)
    dsimp only
    cases hverdict : antigelVerdict now since row with
    | revert => exact .revert hrow hetat hat hverdict
    | warn90 => exact .warn true true hetat hat
    | warn75 => exact .warn true _ hetat hat
    | wait => exact .stay

theorem turns_autoAcceptOne (db : Db) (now : Instant) (assignment : IncidentOrgAssignment)
    (incident : Incident) :
    Db.Turns db ((autoAcceptOne now (assignment, incident)).run db).2 incident.id
      fun e => if incident.etat = .declared then
        e.engagedTacitly ((firstByPk (db.adminsOf assignment.organisation)).map User.id) now
      else e := by
  rw [autoAcceptOne_run]
  split
  · set leader := (firstByPk (db.adminsOf assignment.organisation)).map User.id
    have hsave : Db.Turns (db.answerAssignment assignment.id .accepted id now)
        ((db.answerAssignment assignment.id .accepted id now).saveIncidentFields
          (incident.engagedTacitly leader now) [.etat, .takenBy, .takenInChargeAt])
        incident.id fun e => e.engagedTacitly leader now :=
      Db.turns_saveIncidentFields rfl fun row _ seat => rfl
    exact ⟨hsave.elsewhere, hsave.here⟩
  · have hself : Db.Turns db db incident.id fun e => e := .self fun e _ => rfl
    exact ⟨hself.elsewhere, hself.here⟩

theorem users_autoAcceptOne (assignment : IncidentOrgAssignment) (incident : Incident) :
    ((autoAcceptOne now (assignment, incident)).run db).2.users = db.users := by
  rw [autoAcceptOne_run]
  split <;> rfl

/-- What tacit acceptance may have made of the engagement `e` of `i`. Several
assignments may be due for one incident: the last one decides. -/
def TacitOutcome (db : Db) (now : Instant) (i : IncidentId) (e e' : Engagement) : Prop :=
  e' = e ∨ ∃ assignment ∈ db.orgAssignments.rows, assignment.incident = i ∧
    assignment.status = .pending ∧ assignment.deadline < now ∧ e.etat = .declared ∧
    e' = e.engagedTacitly ((firstByPk (db.adminsOf assignment.organisation)).map User.id) now

theorem tacitOutcome_autoAcceptOne {db' : Db} {assignment : IncidentOrgAssignment}
    {incident : Incident} {i : IncidentId} {e e' : Engagement}
    (hmem : (assignment, incident) ∈ overdueAssignments now db) (husers : db'.users = db.users)
    (he : db.engagement? i = some e) (he' : db'.engagement? i = some e')
    (h : TacitOutcome db now i e e') :
    ∃ e'', ((autoAcceptOne now (assignment, incident)).run db').2.engagement? i = some e'' ∧
      TacitOutcome db now i e e'' := by
  obtain ⟨hrow, hpending, hdue, hinc⟩ := mem_overdueAssignments.mp hmem
  have hid : incident.id = assignment.incident := Table.key_of_get? hinc
  have hturns := turns_autoAcceptOne db' now assignment incident
  have hadmins : db'.adminsOf assignment.organisation = db.adminsOf assignment.organisation := by
    unfold Db.adminsOf
    rw [husers]
  rw [hadmins] at hturns
  by_cases hi : i = incident.id
  · subst hi
    refine ⟨_, by rw [hturns.here, he']; rfl, ?_⟩
    dsimp only
    split
    · rename_i hetat
      rw [hid, Db.engagement?_eq hinc] at he
      cases he
      refine Or.inr ⟨assignment, hrow, hid.symm, hpending, hdue, hetat, ?_⟩
      rcases h with rfl | ⟨other, -, -, -, -, -, rfl⟩ <;> rfl
    · exact h
  · exact ⟨e', (hturns.elsewhere i hi).trans he', h⟩

theorem acts_autoAccept :
    Acts db now .autoAcceptOverdueAssignments ((autoAcceptOverdueAssignments now).run db).2 := by
  unfold autoAcceptOverdueAssignments
  simp only [Prog.run_bind, Prog.run_read, Prog.run_forEach, Prog.run_pure]
  obtain ⟨-, hmissing, hmoves⟩ := foldl_inv (fun db' r => ((autoAcceptOne now r).run db').2)
    (fun db' => db'.users = db.users ∧
      (∀ i, db.engagement? i = none → db'.engagement? i = none) ∧
      ∀ i e, db.engagement? i = some e →
        ∃ e', db'.engagement? i = some e' ∧ TacitOutcome db now i e e')
    (overdueAssignments now db)
    (by
      rintro db' ⟨assignment, incident⟩ hmem ⟨husers, hmissing, hmoves⟩
      refine ⟨(users_autoAcceptOne assignment incident).trans husers, fun i hi => ?_, ?_⟩
      · have hturns := turns_autoAcceptOne db' now assignment incident
        by_cases hid : i = incident.id
        · subst hid
          rw [hturns.here, hmissing _ hi]
          rfl
        · rw [hturns.elsewhere i hid, hmissing i hi]
      · intro i e he
        obtain ⟨e', he', h⟩ := hmoves i e he
        exact tacitOutcome_autoAcceptOne hmem husers he he' h)
    (s := db) ⟨rfl, fun _ hi => hi, fun _ e he => ⟨e, he, Or.inl rfl⟩⟩
  refine ⟨hmissing, fun i e he => ?_⟩
  obtain ⟨e', he', rfl | ⟨assignment, hrow, rfl, hpending, hdue, hetat, rfl⟩⟩ := hmoves i e he
  · exact ⟨_, he', .stay⟩
  · exact ⟨_, he', .tacit hrow rfl hpending hdue hetat⟩

theorem engagement?_deleteIncident (i j : IncidentId) :
    (db.deleteIncident i).engagement? j = if j = i then none else db.engagement? j := by
  have hrow : (db.deleteIncident i).incidents.get? j =
      if j = i then none else db.incidents.get? j := Table.get?_erase _ _ _
  split
  · rename_i hj
    rw [if_pos hj] at hrow
    exact Db.engagement?_eq_none.mpr hrow
  · rename_i hj
    rw [if_neg hj] at hrow
    refine Db.engagement?_congr hrow (funext fun u => ?_)
    unfold Db.seats Db.collaboration? Db.deleteIncident
    rw [Table.get?_eraseWhere]
    cases hc : db.collaborations.get? (j, u) with
    | none => rfl
    | some c =>
        have hincident : c.incident = j := (Db.collaboration?_key hc).1
        simp [hincident, hj]

theorem engagement?_purgeExpiredTrash (db : Db) (now : Instant) (i : IncidentId) :
    ((purgeExpiredTrash now).run db).2.engagement? i = db.engagement? i ∨
      ((purgeExpiredTrash now).run db).2.engagement? i = none := by
  unfold purgeExpiredTrash
  simp only [Prog.run_bind, Prog.run_read, Prog.run_modify, Prog.run_pure]
  refine foldl_inv (fun (db' : Db) (r : Incident) => db'.deleteIncident r.id)
    (fun db' : Db => db'.engagement? i = db.engagement? i ∨ db'.engagement? i = none) _
    (fun db' r _ h => ?_) (Or.inl rfl)
  rw [engagement?_deleteIncident]
  split
  · exact Or.inr rfl
  · exact h

end Tasks

/-! ## Steps -/

section Steps

variable {db : Db} {event : Event} {i : IncidentId} {e : Engagement}

/-- The model of the endpoints refines the model of engagements: every
operation except the purge moves each incident as `Move` allows. Everything
about leadership, coverage and consent is proved there, on moves, and holds of
the code by this theorem. (The purge deletes rows, and leaves no engagement
that could move.) -/
theorem step_acts (hop : event.op ≠ .purgeExpiredTrash) :
    Acts db event.now event.op (db.step event) := by
  obtain ⟨now, op⟩ := event
  cases op with
  | takeInCharge auth i mode role => exact acts_takeInCharge mode role
  | handleIncident auth i action => exact acts_handleIncident action
  | closeIncident auth i start stop => exact acts_closeIncident start stop
  | prepareResolution auth i => exact acts_prepareResolution
  | returnForCompletion auth i => exact acts_returnForCompletion
  | declareResolved auth i => exact acts_declareResolved
  | disengage auth i => exact acts_disengage
  | validateResolution auth i => exact acts_validateResolution
  | rejectResolution auth i motif => exact acts_rejectResolution motif
  | assignToOrganisation auth i org => exact acts_assignToOrganisation org
  | acceptOrgAssignment auth pk => exact acts_acceptOrgAssignment pk
  | declineOrgAssignment auth pk reason => exact acts_declineOrgAssignment pk reason
  | requestCollaboration auth data => exact acts_requestCollaboration data
  | bulkRequest auth requests => exact acts_bulkRequest requests
  | handleCollaboration auth id action => exact acts_handleCollaboration id action
  | acceptCollaboration auth id => exact acts_acceptCollaboration id
  | declineCollaboration auth id => exact acts_declineCollaboration id
  | acceptSuggestion auth i pk => exact acts_acceptSuggestion pk
  | rejectSuggestion auth i pk => exact acts_rejectSuggestion pk
  | readDiscussion auth i => exact acts_readDiscussion
  | postDiscussion auth i data => exact acts_postDiscussion data
  | autoValidateOverdueResolutions => exact acts_autoValidate
  | revertStaleTakenIncidents => exact acts_revertStale
  | purgeExpiredTrash => exact absurd rfl hop
  | autoAcceptOverdueAssignments => exact acts_autoAccept

/-- A step moves every incident, or deletes it. The laws over runs are
inductions with this as their step: one case for each move. -/
theorem step_move (event : Event) (he : db.engagement? i = some e) :
    (db.step event).engagement? i = none ∨
      ∃ e', (db.step event).engagement? i = some e' ∧ Move db event.now i e event.op e' := by
  by_cases hop : event.op = .purgeExpiredTrash
  · have hstep : db.step event = ((purgeExpiredTrash event.now).run db).2 := by
      rw [Db.step, hop]
      rfl
    rw [hstep]
    rcases engagement?_purgeExpiredTrash db event.now i with h | h
    · exact Or.inr ⟨e, h.trans he, .stay⟩
    · exact Or.inl h
  · exact Or.inr ((step_acts hop).moves i e he)

theorem step_missing (he : db.engagement? i = none) : (db.step event).engagement? i = none := by
  by_cases hop : event.op = .purgeExpiredTrash
  · have hstep : db.step event = ((purgeExpiredTrash event.now).run db).2 := by
      rw [Db.step, hop]
      rfl
    rw [hstep]
    rcases engagement?_purgeExpiredTrash db event.now i with h | h
    · exact h.trans he
    · exact h
  · exact (step_acts hop).missing i he

/-- The engagement after a step comes from one before it. -/
theorem step_cases {e' : Engagement} (he' : (db.step event).engagement? i = some e') :
    ∃ e, db.engagement? i = some e ∧ Move db event.now i e event.op e' := by
  cases he : db.engagement? i with
  | none =>
      rw [step_missing he] at he'
      cases he'
  | some e =>
      rcases step_move event he with h | ⟨e'', he'', hmove⟩
      · rw [h] at he'
        cases he'
      · cases he''.symm.trans he'
        exact ⟨e, rfl, hmove⟩

end Steps

end Mapapi
