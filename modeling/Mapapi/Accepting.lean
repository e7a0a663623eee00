import Mapapi.Server

/-!
# The two endpoints that accept a collaboration

`HandleCollaborationRequestView`, with the action `accept`, and
`AcceptCollaborationView` ask for the same leader and store the same row. The second
one refuses a collaboration that is accepted already or has expired, the first one
does not look: the two agree exactly where there is nothing to look for.

Both ask for somebody who leads the incident. When a leader disengages, nobody does,
so that the contributors who have been offered the lead cannot accept it.
-/

namespace Mapapi

open Lib

/-- The two endpoints by which a leader accepts a request: the legacy one,
which takes an action, and the one that only accepts. -/
inductive AcceptEndpoint where
  | handle
  | accept

def AcceptEndpoint.view (now : Instant) (auth : Option UserId) (id : CollaborationId) :
    AcceptEndpoint → View
  | handle => handleCollaboration auth id (some .accept)
  | accept => acceptCollaboration now auth (.uuid id)

def Succeeds (out : Response × Db) : Prop := out.1.status < 400

instance (out : Response × Db) : Decidable (Succeeds out) := Nat.decLt ..

theorem not_succeeds_of_refused {db : Db} {out : Response × Db} (h : Refused db out) :
    ¬ Succeeds out :=
  Nat.not_lt.mpr h.2

/-- What both endpoints store once they have accepted: the row, and an
internal incident is opened to others. -/
def Db.acceptedRow (db : Db) (c : Collaboration) (incident : Incident) : Db :=
  if incident.takeInChargeMode = some .internal then
    (db.saveCollaboration { c with status := .accepted }).openIncident incident
  else db.saveCollaboration { c with status := .accepted }

/-! ## What the endpoints do -/

section Endpoints

variable {db : Db} {now : Instant} {auth : Option UserId} {id : CollaborationId} {user : User}
  {c : Collaboration} {incident : Incident}

theorem answersFor_passes {refusal : String} {view : Incident → View}
    (h : Answers db auth id user c incident) :
    (answersFor user c refusal view).run db = (view incident).run db := by
  have hid : incident.id = c.incident := Table.key_of_get? h.about
  unfold answersFor Db.incidentOf
  rw [Prog.run_bind, Prog.run_read]
  simp only [h.about, Prog.run_bind, isLeaderOf_run, hid, h.leads, decide_true, if_true]

theorem acceptRow_succeeds {message : String} :
    Succeeds ((acceptRow c incident (.ok 200 (.text message))).run db) ∧
      ((acceptRow c incident (.ok 200 (.text message))).run db).2 = db.acceptedRow c incident := by
  obtain ⟨hreply, hstore⟩ := @acceptRow_run db _ c incident (.ok 200 (.text message)) rfl
  refine ⟨?_, hstore⟩
  unfold Succeeds
  rw [hreply]
  exact Nat.lt_of_sub_pos (Nat.succ_pos 199)

theorem handle_passes (h : Answers db auth id user c incident) :
    Succeeds ((AcceptEndpoint.handle.view now auth id).run db) ∧
      ((AcceptEndpoint.handle.view now auth id).run db).2 = db.acceptedRow c incident := by
  unfold AcceptEndpoint.view handleCollaboration
  rw [authenticate_passes h.signedIn, permit_passes h.admin, Prog.run_bind, Prog.run_read]
  simp only [h.row]
  rw [answersFor_passes h]
  exact acceptRow_succeeds

theorem accept_passes_iff (h : Answers db auth id user c incident) :
    Succeeds ((AcceptEndpoint.accept.view now auth id).run db) ↔
      c.status ≠ .accepted ∧ c.expired now = false := by
  constructor
  · intro hsucceeds
    rcases @acceptCollaboration_run db now auth _ (.uuid id) rfl
      with hrefused | ⟨id', user', c', incident', hid, hanswers, hstatus, hexpired, -⟩
    · exact absurd hsucceeds (not_succeeds_of_refused hrefused)
    · cases hid
      obtain rfl := Option.some.inj (h.row.symm.trans hanswers.row)
      exact ⟨hstatus, hexpired⟩
  · rintro ⟨hstatus, hexpired⟩
    unfold AcceptEndpoint.view acceptCollaboration
    rw [authenticate_passes h.signedIn, permit_passes h.admin]
    simp only [Prog.run_bind, Prog.run_read, h.row]
    rw [answersFor_passes h, refuseIf_passes (decide_eq_false hstatus), refuseIf_passes hexpired]
    exact acceptRow_succeeds.1

/-- Either endpoint refuses, or stores what a leader of the incident has asked for. -/
theorem accept_run (endpoint : AcceptEndpoint) :
    Refused db ((endpoint.view now auth id).run db) ∨
      ∃ user c incident, Answers db auth id user c incident ∧
        Succeeds ((endpoint.view now auth id).run db) ∧
        ((endpoint.view now auth id).run db).2 = db.acceptedRow c incident := by
  cases endpoint with
  | handle =>
      rcases @handleCollaboration_run db auth _ id (some .accept) rfl with
        hrefused | ⟨user, c, incident, hanswers, -⟩
      · exact Or.inl hrefused
      · exact Or.inr ⟨user, c, incident, hanswers, handle_passes hanswers⟩
  | accept =>
      rcases @acceptCollaboration_run db now auth _ (.uuid id) rfl
        with hrefused | ⟨id', user, c, incident, hid, hanswers, hstatus, hexpired, hrow⟩
      · exact Or.inl hrefused
      · cases hid
        refine Or.inr ⟨user, c, incident, hanswers,
          (accept_passes_iff hanswers).mpr ⟨hstatus, hexpired⟩, ?_⟩
        exact (acceptRow_run hrow).2

end Endpoints

/-! ## Agreement -/

/-- The two endpoints are one operation, in a store and at an instant. -/
structure AcceptsAlike (db : Db) (now : Instant) (auth : Option UserId) (id : CollaborationId) :
    Prop where
  succeed : Succeeds ((AcceptEndpoint.handle.view now auth id).run db) ↔
    Succeeds ((AcceptEndpoint.accept.view now auth id).run db)
  rows : Succeeds ((AcceptEndpoint.handle.view now auth id).run db) →
    Succeeds ((AcceptEndpoint.accept.view now auth id).run db) →
      ((AcceptEndpoint.handle.view now auth id).run db).2.collaborations =
        ((AcceptEndpoint.accept.view now auth id).run db).2.collaborations ∧
      ((AcceptEndpoint.handle.view now auth id).run db).2.incidents =
        ((AcceptEndpoint.accept.view now auth id).run db).2.incidents
  refused : ∀ endpoint : AcceptEndpoint, ¬ Succeeds ((endpoint.view now auth id).run db) →
    ((endpoint.view now auth id).run db).2 = db

/-- The two endpoints agree exactly when no leader of the incident asks for a
collaboration that is accepted already or has expired. Everybody else is
refused by both, and a leader who asks for another collaboration is served by
both and leaves the same store. -/
theorem accepts_alike_iff (db : Db) (now : Instant) (auth : Option UserId)
    (id : CollaborationId) :
    AcceptsAlike db now auth id ↔
      ∀ user c incident, Answers db auth id user c incident →
        c.status ≠ .accepted ∧ c.expired now = false := by
  constructor
  · intro h user c incident hanswers
    exact (accept_passes_iff hanswers).mp (h.succeed.mp (handle_passes hanswers).1)
  · intro h
    have hrefused (endpoint : AcceptEndpoint)
        (hfails : ¬ Succeeds ((endpoint.view now auth id).run db)) :
        ((endpoint.view now auth id).run db).2 = db := by
      rcases @accept_run db now auth id endpoint with
        hrefused | ⟨_, _, _, -, hsucceeds, -⟩
      · exact hrefused.1
      · exact absurd hsucceeds hfails
    refine ⟨⟨fun hhandle => ?_, fun haccept => ?_⟩, fun hhandle haccept => ?_, hrefused⟩
    · rcases @accept_run db now auth id .handle with
        hno | ⟨user, c, incident, hanswers, -⟩
      · exact absurd hhandle (not_succeeds_of_refused hno)
      · exact (accept_passes_iff hanswers).mpr (h user c incident hanswers)
    · rcases @accept_run db now auth id .accept with
        hno | ⟨user, c, incident, hanswers, -⟩
      · exact absurd haccept (not_succeeds_of_refused hno)
      · exact (handle_passes hanswers).1
    · rcases @accept_run db now auth id .accept with
        hno | ⟨user, c, incident, hanswers, -, hstore⟩
      · exact absurd haccept (not_succeeds_of_refused hno)
      · rw [hstore, (handle_passes hanswers).2]
        exact ⟨rfl, rfl⟩

def twoOrganisations : Db :=
  Db.start [{ id := 1, name := "Voirie" }, { id := 2, name := "Eau" }]
    [.member 2 "voirie@map.ml" .orgAdmin 1, .member 3 "eau@map.ml" .orgAdmin 2]
    (.new 1 (some "Fuite") "Bamako" "01-02-2025")

def requestedUntilTen : List Event :=
  [⟨0, .takeInCharge (some 2) 1 (.one .collaborative) (.one .leader)⟩,
    ⟨days 1, .requestCollaboration (some 3)
      { incident := .value 1, role := .value .contributor, endDate := .value 10
        motivation := .absent, otherOption := .absent }⟩]

/-- On the twentieth day one endpoint still accepts the request, the other one refuses
it; and so it is with the collaboration of the leader, which is accepted already. -/
theorem accepts_differ :
    twoOrganisations.Fresh ∧
      let db := twoOrganisations.exec requestedUntilTen
      (¬ AcceptsAlike db (days 20) (some 2) 2 ∧
        ((AcceptEndpoint.handle.view (days 20) (some 2) 2).run db).1.status = 200 ∧
        ((AcceptEndpoint.accept.view (days 20) (some 2) 2).run db).1.status = 400) ∧
      ¬ AcceptsAlike db (days 2) (some 2) 1 := by
  refine ⟨Db.start_fresh _ _, ⟨fun h => ?_, by decide, by decide⟩, fun h => ?_⟩
  · exact absurd (h.succeed.mp (by decide)) (by decide)
  · exact absurd (h.succeed.mp (by decide)) (by decide)

/-! ## Handing over -/

/-- Somebody is responsible for the incident by `taken_by`, or by the row of
an accepted leader. The guards let in either, so a hand-over has to settle
both. -/
def Db.LeadsIn (db : Db) (i : IncidentId) (v : UserId) : Prop :=
  (db.incidents.get? i).map Incident.takenBy = some (some v) ∨
    db.leaderCollaborationExists i v = true

/-- The contributor who posts accept for the lead she has been offered gets it. -/
def Completes (endpoint : AcceptEndpoint) (db : Db) (now : Instant) (i : IncidentId)
    (u : UserId) : Prop :=
  ∀ c, db.collaboration? i u = some c → c.role = .leader → c.status = .pending →
    c.expired now = false →
      let out := (endpoint.view now (some u) c.id).run db
      Succeeds out ∧
        (∃ incident, out.2.incidents.get? i = some incident ∧ incident.takenBy = some u ∧
          incident.takenInChargeAt ≠ none) ∧
        ∀ v, out.2.leaderCollaborationExists i v = true ↔ v = u

/-- From a store where the lead is offered: she gets it at once, and in every later
store too, as long as nobody else comes to lead the incident. -/
def HandsOver (endpoint : AcceptEndpoint) (db : Db) (start : Instant) (i : IncidentId)
    (u : UserId) : Prop :=
  ∀ (events : List Event) (now : Instant), start ≤ now →
    Along Db.step (fun db event => ∀ v, v ≠ u → (db.step event).LeadsIn i v → db.LeadsIn i v)
      db events →
    Completes endpoint (db.exec events) now i u

section HandOver

variable {db : Db} {auth : Option UserId} {now : Instant} {i : IncidentId} {u : UserId}
  {c : Collaboration} {incident : Incident}

theorem takenBy_acceptedRow :
    ((db.acceptedRow c incident).incidents.get? i).map Incident.takenBy =
      (db.incidents.get? i).map Incident.takenBy := by
  have hset : Db.SetsSeat db (db.saveCollaboration { c with status := .accepted }) c.incident
      c.user _ := Db.setsSeat_saveCollaboration rfl rfl
  have hsaved := hset.rows.incidents
  unfold Db.acceptedRow
  split
  · rw [Db.openIncident, Db.get?_saveIncidentFields, hsaved]
    split
    · rw [Option.map_map]
      refine congrArg (Option.map · _) (funext fun row => ?_)
      unfold Function.comp Incident.writeColumns Incident.savedColumns
      split <;> rfl
    · rfl
  · rw [hsaved]

/-- When the leader leaves, the row of every accepted contributor becomes a
pending offer of the lead, and nobody is in charge of the incident. But it
takes a leader to accept an offer. -/
theorem disengage_offers (hdone : Succeeds ((disengage auth i).run db))
    (hrow : db.collaboration? i u = some c) (hrole : c.role = .contributor)
    (hstatus : c.status = .accepted) (hother : auth ≠ some u) :
    let db' := ((disengage auth i).run db).2
    (db'.incidents.get? i).map Incident.takenBy = some none ∧
      db'.collaboration? i u = some { c with role := .leader, status := .pending } := by
  rcases @disengage_run db auth i _ rfl with
    hrefused | ⟨user, incident, hauth, -, -, hinc, hetat, hstore⟩
  · exact absurd hdone (not_succeeds_of_refused hrefused)
  have huser : u ≠ user.id := by
    rintro rfl
    exact hother (authenticated_id hauth).1
  obtain ⟨hcinc, hcuser⟩ := Db.collaboration?_key hrow
  have hleft : (db.updateCollaborations (fun c => decide (c.incident = i ∧ c.user = user.id)) id
      .terminated).collaboration? i u = some c := by
    unfold Db.updateCollaborations Db.collaboration?
    rw [Table.get?_updateWhere, show db.collaborations.get? (i, u) = some c from hrow]
    simp [hcuser, huser]
  have hoffered : otherContributors i user.id c = true := by
    simp [otherContributors, hcinc, hrole, hstatus, hcuser, huser]
  rcases hstore with ⟨-, hstore⟩ | ⟨hnone, -⟩
  · rw [hstore]
    constructor
    · have hid : incident.released.id = i := Table.key_of_get? hinc
      rw [Db.row_saveIncidentFields (by exact hinc) hid rfl, Option.map_some,
        Incident.pinProgress_takenBy]
      rfl
    · change ((db.updateCollaborations _ _ _).collaborations.updateWhere _ _).get? (i, u) = _
      rw [Table.get?_updateWhere, show (db.updateCollaborations _ _ _).collaborations.get? (i, u) =
        some c from hleft, Option.map_some, if_pos hoffered]
  · have hmem := Table.mem_of_get? hleft
    have hselected := List.mem_filter.mpr ⟨hmem, hoffered⟩
    rw [show List.filter _ _ = [] from hnone] at hselected
    cases hselected

/-- An answer of either endpoint is given to somebody who leads the incident
already. So whoever is to lead it by accepting cannot be served first. -/
theorem accept_refused {endpoint : AcceptEndpoint} {id : CollaborationId}
    (hrow : db.collaborationById? id = some c) (hleads : ¬ db.LeadsIn c.incident u) :
    Refused db ((endpoint.view now (some u) id).run db) := by
  rcases @accept_run db now (some u) id endpoint with
    hrefused | ⟨user, c', incident, hanswers, -, -⟩
  · exact hrefused
  obtain rfl := Option.some.inj (hrow.symm.trans hanswers.row)
  obtain rfl : u = user.id := Option.some.inj (authenticated_id hanswers.signedIn).1
  refine absurd (hanswers.leads.imp (fun htaken => ?_) fun h => h) hleads
  rw [hanswers.about, Option.map_some, htaken]

end HandOver

/-- Leadership is never handed over by acceptance: once the leader has
disengaged, no contributor can accept the lead, and in every later store
neither endpoint serves somebody who does not lead yet. The later store is
arbitrary, so no other request helps unless it makes a leader itself. -/
theorem hand_over_stuck (endpoint : AcceptEndpoint) (db : Db) (auth : Option UserId)
    (start : Instant) (i : IncidentId) (u : UserId) (c : Collaboration)
    (hdone : Succeeds ((disengage auth i).run db)) (hrow : db.collaboration? i u = some c)
    (hrole : c.role = .contributor) (hstatus : c.status = .accepted) (hother : auth ≠ some u)
    (hfuture : c.expired start = false) :
    ¬ HandsOver endpoint ((disengage auth i).run db).2 start i u ∧
      ∀ (events : List Event) (now : Instant) (c' : Collaboration),
        let db' := ((disengage auth i).run db).2.exec events
        db'.collaborationById? c'.id = some c' → ¬ db'.LeadsIn c'.incident u →
          Refused db' ((endpoint.view now (some u) c'.id).run db') := by
  refine ⟨fun h => ?_, fun events now c' hrow' hleads => accept_refused hrow' hleads⟩
  obtain ⟨hnobody, hoffered⟩ := disengage_offers hdone hrow hrole hstatus hother
  obtain ⟨hsucceeds, ⟨incident, hinc, htaken, -⟩, -⟩ :=
    h [] start (Int.le_refl _) trivial _ hoffered rfl rfl hfuture
  change Succeeds ((endpoint.view start (some u) _).run ((disengage auth i).run db).2) at hsucceeds
  change ((endpoint.view start (some u) _).run ((disengage auth i).run db).2).2.incidents.get? i =
    some incident at hinc
  rcases @accept_run ((disengage auth i).run db).2 start (some u) c.id endpoint with
    hrefused | ⟨_, _, _, -, -, hstore⟩
  · exact absurd hsucceeds (not_succeeds_of_refused hrefused)
  · have hkept := congrArg (fun db : Db => (db.incidents.get? i).map Incident.takenBy) hstore
    rw [takenBy_acceptedRow, hnobody, hinc, Option.map_some, htaken] at hkept
    cases hkept

def contributedRun : List Event :=
  [⟨0, .takeInCharge (some 2) 1 (.one .collaborative) (.one .leader)⟩,
    ⟨days 1, .requestCollaboration (some 3)
      { incident := .value 1, role := .value .contributor, endDate := .absent
        motivation := .absent, otherOption := .absent }⟩,
    ⟨days 2, .acceptCollaboration (some 2) (.uuid 2)⟩]

/-- The first one leaves. The second one, an admin, has been offered the lead and is
refused it by both endpoints. -/
theorem lead_refused :
    twoOrganisations.Fresh ∧
      let db := twoOrganisations.exec contributedRun
      let left := ((disengage (some 2) 1).run db).2
      ((disengage (some 2) 1).run db).1.status = 200 ∧
        (left.collaboration? 1 3).map (fun c => (c.id, c.role, c.status)) =
          some (2, .leader, .pending) ∧
        ((AcceptEndpoint.handle.view (days 3) (some 3) 2).run left).1.status = 403 ∧
        ((AcceptEndpoint.accept.view (days 3) (some 3) 2).run left).1.status = 403 ∧
        ¬ HandsOver .handle left (days 3) 1 3 ∧ ¬ HandsOver .accept left (days 3) 1 3 := by
  refine ⟨Db.start_fresh _ _, by decide, by decide, by decide, by decide, fun h => ?_, fun h => ?_⟩
  all_goals
    have hrefused := (h [] (days 3) (Int.le_refl _) trivial _ rfl rfl rfl rfl).1
    exact absurd hrefused (by decide)

theorem hand_over_stuck_contributed :
    let left := ((disengage (some 2) 1).run (twoOrganisations.exec contributedRun)).2
    ¬ HandsOver .handle left (days 3) 1 3 ∧ ¬ HandsOver .accept left (days 3) 1 3 :=
  ⟨(hand_over_stuck .handle _ (some 2) (days 3) 1 3 _ (by decide) rfl rfl rfl (by decide) rfl).1,
    (hand_over_stuck .accept _ (some 2) (days 3) 1 3 _ (by decide) rfl rfl rfl (by decide) rfl).1⟩

end Mapapi
