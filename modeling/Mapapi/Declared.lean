import Mapapi.Failures
import Mapapi.Refinement

/-!
# Taking a declared incident

A declared incident waits for somebody to take it. In every state that a run
reaches, nobody has taken it and no organisation keeps it for itself
(`Engagement.Available`), so the guards on `taken_by` and on the state let an
administrator through. What earlier engagements have left can still stop it: a
mode that was set by somebody whose row the receivers took away again, and a
row of the administrator that was declined or terminated. `CollaborationView`
deletes such a row and stores a new one; `TakeInChargeView` refuses it in one
mode and keeps it, terminated, in the other.
-/

namespace Mapapi

open Lib

/-! ## Declared incidents -/

/-- A declared incident has not been taken, and is not kept internal. It may
still have the mode `collaborative`. -/
def Engagement.Available (e : Engagement) : Prop :=
  e.etat = .declared → e.takenBy = none ∧ e.mode ≠ some .internal

section Runs

variable {db : Db} {now : Instant} {i : IncidentId} {e e' : Engagement} {op : Op}

theorem or_collaborative_ne_internal {mode : Option TakeInChargeMode}
    (h : mode ≠ some .internal) : mode.or (some .collaborative) ≠ some .internal := by
  cases mode with
  | none => decide
  | some mode => exact h

theorem Engagement.Available.opened (h : e.Available) : e.opened.Available :=
  fun hetat => (h hetat).imp_right or_collaborative_ne_internal

theorem Engagement.available_sharedOut (h : e.Available) : e.sharedOut.Available := by
  refine fun hetat => ⟨(h hetat).1, ?_⟩
  unfold sharedOut
  split
  · nofun
  · assumption

theorem Move.available (h : Move db now i e op e') (he : e.Available) : e'.Available := by
  cases h with
  | stay | bulk | decline | acceptSuggestion | discussInternally | discussAsTaker | warn =>
      exact he
  | takeInternal | handleTaken | handleResolved | engage | tacit | prepare | returnBack
  | declareResolved | validate | autoValidate | reject | close => nofun
  | takeLead =>
      intro hetat
      have hdeclared := Engagement.etat_of_ledBy _ (by decide) hetat
      exact nomatch (if_pos hdeclared).symm.trans hetat
  | join => exact Engagement.Available.opened (e := e.setSeat _ _) he
  | request =>
      refine fun hetat => ⟨(he hetat).1, ?_⟩
      unfold Engagement.requested
      dsimp only
      split
      · exact or_collaborative_ne_internal (he hetat).2
      · exact (he hetat).2
  | accept => exact Engagement.available_sharedOut (e := e.withStatus _ _) he
  | disengageOffered _ _ _ htaken => exact fun hetat => (nomatch htaken.symm.trans hetat)
  | disengageAlone => exact fun _ => ⟨rfl, nofun⟩
  | revert => exact fun _ => ⟨rfl, nofun⟩

/-- In every state that a run reaches a declared incident is available, by
induction on the run: the moves that declare an incident again also give it
free. -/
theorem available_exec {start : Db} (hfresh : start.Fresh) (events : List Event)
    (he : (start.exec events).engagement? i = some e) : e.Available := by
  have hall : ∀ i e, (start.exec events).engagement? i = some e → e.Available := by
    refine exec_inv (I := fun db : Db => ∀ i e, db.engagement? i = some e → e.Available)
      (fun db event h i e' he' => ?_) (fun i e he => ?_) events
    · obtain ⟨e, he, hmove⟩ := step_cases he'
      exact hmove.available (h i e he)
    · obtain ⟨incident, hinc, rfl⟩ := Db.engagement?_eq_some.mp he
      obtain ⟨-, hfree, hmode, -⟩ := hfresh.declared i incident hinc
      exact fun _ => ⟨hfree, fun h => (nomatch hmode.symm.trans h)⟩
  exact hall i e he

end Runs

/-! ## Taking it -/

/-- A taking in charge that has worked: the row of the incident and the seat
agree. The view writes them in two tables, one after the other. -/
structure Db.TakenBy (db : Db) (i : IncidentId) (u : UserId) : Prop where
  row : ∃ incident, db.incidents.get? i = some incident ∧ incident.takenBy = some u ∧
    incident.etat = .taken
  seat : ∃ c, db.collaboration? i u = some c ∧ c.role = .leader ∧ c.status = .accepted

/-- It has worked and the client is told so. A request that stores everything
and then fails on the log is not among these. -/
def Takes (i : IncidentId) (u : UserId) (out : Response × Db) : Prop :=
  out.1.status = 200 ∧ out.2.TakenBy i u

section Take

variable {db db' : Db} {now : Instant} {i : IncidentId} {u v : UserId} {user : User}
  {incident row : Incident} {response : Response}

theorem Db.seats_eq_leader :
    db.seats i u = some Seat.leader ↔
      ∃ c, db.collaboration? i u = some c ∧ c.role = .leader ∧ c.status = .accepted := by
  unfold Db.seats
  rw [Option.map_eq_some_iff]
  refine exists_congr fun c => and_congr_right fun _ => ?_
  rw [Collaboration.seat, Seat.leader, Seat.mk.injEq]

theorem Db.takenBy_iff (hrow : db.incidents.get? i = some row) :
    db.TakenBy i u ↔
      row.takenBy = some u ∧ row.etat = .taken ∧ db.seats i u = some Seat.leader := by
  constructor
  · rintro ⟨⟨row', hrow', htaken, hetat⟩, hseat⟩
    obtain rfl := Option.some.inj (hrow.symm.trans hrow')
    exact ⟨htaken, hetat, Db.seats_eq_leader.mpr hseat⟩
  · rintro ⟨htaken, hetat, hseat⟩
    exact ⟨⟨row, hrow, htaken, hetat⟩, Db.seats_eq_leader.mp hseat⟩

theorem takes_refuseIf {refuse : Bool} {view : View} (h : response.status ≠ 200) :
    Takes i u ((refuseIf refuse response view).run db) ↔
      refuse = false ∧ Takes i u (view.run db) := by
  cases refuse with
  | true => exact ⟨fun htakes => absurd htakes.1 h, fun htakes => (nomatch htakes.1)⟩
  | false => exact ⟨fun htakes => ⟨rfl, htakes⟩, fun htakes => htakes.2⟩

theorem takes_createUserAction {text : String} {reply : UserAction → Reply} :
    Takes i u ((createUserAction v text fun action => pure (.ok 200 (reply action))).run db) ↔
      Fits text ∧ db.TakenBy i u := by
  unfold createUserAction
  rw [Prog.run_ite]
  split
  · rename_i hfits
    exact ⟨fun h => ⟨hfits, h.2.row, h.2.seat⟩, fun h => ⟨rfl, h.2.row, h.2.seat⟩⟩
  · rename_i hlong
    exact ⟨fun h => (nomatch h.1), fun h => absurd h.1 hlong⟩

/-- Taking it internally also asks that the mode is still empty, and that a
row the user may have kept is that of an accepted leader: `get_or_create` does
not change a row that is there. -/
theorem takeInternal_takes (huser : db.users.get? user.id = some user)
    (hinc : db.incidents.get? incident.id = some incident) (hetat : incident.etat = .declared)
    (hfree : incident.takenBy = none) :
    Takes incident.id user.id ((takeInternal now user incident).run db) ↔
      incident.takeInChargeMode = none ∧ Fits (internalMessage incident) ∧
        (db.seats incident.id user.id).or (some Seat.leader) = some Seat.leader := by
  unfold takeInternal
  rw [takes_refuseIf (by decide), takes_refuseIf (Nat.ne_of_gt (Nat.le_of_ble_eq_true rfl))]
  simp only [Prog.run_bind, Prog.run_modify, decide_eq_false_iff_not, hfree, hetat, ne_eq,
    not_true_eq_false, false_or, not_not, true_and, not_false_eq_true]
  refine and_congr_right fun _ => ?_
  set db1 := db.saveIncidentFields (incident.engagedBy user.id .internal now)
    [.takenBy, .etat, .takeInChargeMode, .takenInChargeAt, .antigelWarned75, .antigelWarned90]
    with hdb1
  have htaken : (db1.user? (incident.engagedBy user.id .internal now).takenBy).isSome :=
    Option.isSome_iff_exists.mpr ⟨user, huser⟩
  generalize hget : (getOrCreateCollaboration (incident.engagedBy user.id .internal now)
    (Db.newCollaboration incident.id user.id .leader .accepted)).run db1 = result
  obtain ⟨result, db2⟩ := result
  obtain ⟨collaboration, created, rfl, -, -, -, hset⟩ := Db.getOrCreateLeader_run
    (incident.engagedBy user.id .internal now) htaken hget
  have hrow : db2.incidents.get? incident.id =
      some (incident.engagedBy user.id .internal now).pinProgress := by
    rw [hset.rows.incidents, hdb1]
    exact Db.row_saveIncidentFields hinc rfl write_engagedBy
  have hseat : db2.seats incident.id user.id =
      (db.seats incident.id user.id).or (some Seat.leader) :=
    (hset.seats ..).trans (if_pos ⟨rfl, rfl⟩)
  refine takes_createUserAction.trans (and_congr_right fun _ => ?_)
  rw [Db.takenBy_iff hrow, hseat, Incident.pinProgress_takenBy, Incident.pinProgress_etat]
  exact ⟨fun h => h.2.2, fun h => ⟨rfl, rfl, h⟩⟩

/-- Taking the lead of a declared incident works exactly if the message of the
action fits the log. The row is created between the save and the log, so a
title that is too long leaves a taken incident behind a 500. -/
theorem takeLeader_takes (hinc : db.incidents.get? incident.id = some incident)
    (hetat : incident.etat = .declared) (hfree : incident.takenBy = none)
    (hnone : db.collaboration? incident.id user.id = none)
    (huser : db.users.get? user.id = some user) :
    Takes incident.id user.id ((takeLeader now user incident).run db) ↔
      Fits (leaderMessage incident) := by
  unfold takeLeader
  rw [takes_refuseIf (by decide)]
  simp only [Prog.run_bind, Prog.run_modify, Prog.run_atomic, decide_eq_false_iff_not, hfree,
    ne_eq, not_true_eq_false, not_false_eq_true, true_and]
  set db1 := db.saveIncidentFields (incident.ledBy user.id now) incident.ledColumns with hdb1
  have hled : incident.ledBy user.id now = incident.engagedBy user.id .collaborative now :=
    if_pos hetat
  have hkept : db1.receives (incident.ledBy user.id now).takenBy user.id .leader = true := by
    have huser' : db1.user? (some user.id) = some user := huser
    simp [Db.receives, hled, Incident.engagedBy, huser']
  obtain ⟨row, db2, hcreate, -, hset⟩ := Db.createNew
    (incident.ledBy user.id now) .leader .accepted (show db1.collaboration? _ _ = none from hnone)
  rw [hkept, if_pos rfl] at hset
  have hreset := Db.mapsSeats_reset db2 incident.id user.id
  have hrow : (db2.updateCollaborations (otherContributors incident.id user.id) id
      .pending).incidents.get? incident.id = some (incident.ledBy user.id now).pinProgress := by
    rw [hreset.rows.incidents, hset.rows.incidents, hdb1]
    exact Db.row_saveIncidentFields hinc (ledBy_id ..) write_ledBy
  have hseat : (db2.updateCollaborations (otherContributors incident.id user.id) id
      .pending).seats incident.id user.id = some Seat.leader := by
    have hset' : db2.seats incident.id user.id = some Seat.leader :=
      (hset.seats ..).trans (if_pos ⟨rfl, rfl⟩)
    rw [hreset.seats]
    simp [hset', Seat.reset, Seat.leader]
  simp only [hcreate, Prog.run_bind, Prog.run_atomic]
  refine takes_createUserAction.trans (and_iff_left ?_)
  rw [Db.takenBy_iff hrow, hseat, Incident.pinProgress_takenBy, Incident.pinProgress_etat, hled]
  exact ⟨rfl, rfl, rfl⟩

theorem fits_leaderMessage :
    Fits (leaderMessage incident) ↔ (printed incident.title).length ≤ 185 := by
  have hmessage : (leaderMessage incident).length = _ := length_around _ _ _
  have hstart : "a pris en charge l'incident «".length = 29 := by decide
  have hend : "» en tant que leader (mode collaboratif).".length = 41 := by decide
  have hmax : maxTextLength = 255 := rfl
  unfold Fits
  omega

theorem fits_internalMessage :
    Fits (internalMessage incident) ↔ (printed incident.title).length ≤ 208 := by
  have hmessage : (internalMessage incident).length = _ := length_around _ _ _
  have hstart : "a pris en charge l'incident «".length = 29 := by decide
  have hend : "» en mode interne.".length = 18 := by decide
  have hmax : maxTextLength = 255 := rfl
  unfold Fits
  omega

theorem takeInCharge_internal {auth : Option UserId} {role : Choice CollabRole}
    (hauth : db.authenticated auth = some user) (hadmin : isOrgAdmin user = true)
    (hinc : db.incidents.get? i = some incident) (hopen : incident.isResolved = false) :
    (takeInCharge now auth i (.one .internal) role).run db =
      (takeInternal now user incident).run db := by
  unfold takeInCharge
  rw [authenticate_passes hauth, permit_passes hadmin, getIncident_passes hinc,
    refuseIf_passes hopen]

theorem takeInCharge_collaborative {auth : Option UserId} {role : CollabRole}
    (hauth : db.authenticated auth = some user) (hadmin : isOrgAdmin user = true)
    (hinc : db.incidents.get? i = some incident) (hopen : incident.isResolved = false) :
    (takeInCharge now auth i (.one .collaborative) (.one role)).run db =
      (takeCollaborative now user incident role).run db := by
  unfold takeInCharge
  rw [authenticate_passes hauth, permit_passes hadmin, getIncident_passes hinc,
    refuseIf_passes hopen]

theorem takeCollaborative_takes (hinc : db.incidents.get? incident.id = some incident)
    (hetat : incident.etat = .declared) (hfree : incident.takenBy = none)
    (hmode : incident.takeInChargeMode ≠ some .internal)
    (huser : db.users.get? user.id = some user) :
    Takes incident.id user.id ((takeCollaborative now user incident .leader).run db) ↔
      db.collaboration? incident.id user.id = none ∧ Fits (leaderMessage incident) := by
  unfold takeCollaborative
  rw [refuseIf_passes (decide_eq_false hmode), Prog.run_bind, Prog.run_read]
  cases hrow : db.collaboration? incident.id user.id with
  | some existing => exact ⟨fun h => (nomatch h.1), fun h => (nomatch h.1)⟩
  | none => exact (takeLeader_takes hinc hetat hfree hrow huser).trans (and_iff_right rfl).symm

end Take

/-! ## In every reachable state -/

/-- In every state of every run, an administrator without an active row on a
declared incident can take it both ways if and only if no mode was left
behind, he has no row at all, and the title leaves room in the text that is
logged. That nobody leads the incident need not be asked: `available_exec`
gives it. -/
theorem declared_takable_iff {start : Db} (hfresh : start.Fresh) (events : List Event)
    {i : IncidentId} {incident : Incident} {u : UserId} {user : User}
    (hinc : (start.exec events).incidents.get? i = some incident)
    (hetat : incident.etat = .declared)
    (hauth : (start.exec events).authenticated (some u) = some user)
    (hadmin : isOrgAdmin user = true)
    (hinactive : ∀ c, (start.exec events).collaboration? i u = some c →
      c.status ≠ .pending ∧ c.status ≠ .accepted)
    (now : Instant) (role : Choice CollabRole) :
    Takes i u ((takeInCharge now (some u) i (.one .internal) role).run (start.exec events)) ∧
        Takes i u ((takeInCharge now (some u) i (.one .collaborative) (.one .leader)).run
          (start.exec events)) ↔
      incident.takeInChargeMode = none ∧ (start.exec events).collaboration? i u = none ∧
        (printed incident.title).length ≤ 185 := by
  obtain ⟨hfree, hmode⟩ : incident.takenBy = none ∧ incident.takeInChargeMode ≠ some .internal :=
    available_exec hfresh events (Db.engagement?_eq hinc) hetat
  generalize start.exec events = db at hinc hauth hinactive ⊢
  obtain ⟨hu, huser⟩ := authenticated_id hauth
  obtain rfl := Option.some.inj hu
  have hid : incident.id = i := Table.key_of_get? hinc
  subst hid
  have hopen : incident.isResolved = false := by simp [Incident.isResolved, hetat]
  rw [takeInCharge_internal hauth hadmin hinc hopen, takeInternal_takes huser hinc hetat hfree,
    takeInCharge_collaborative hauth hadmin hinc hopen,
    takeCollaborative_takes hinc hetat hfree hmode huser, fits_internalMessage, fits_leaderMessage]
  constructor
  · rintro ⟨⟨hnone, -, -⟩, hrow, hfits⟩
    exact ⟨hnone, hrow, hfits⟩
  · rintro ⟨hnone, hrow, hfits⟩
    have hseat : db.seats incident.id user.id = none := by
      unfold Db.seats
      rw [hrow]
      rfl
    exact ⟨⟨hnone, by omega, by rw [hseat]; rfl⟩, hrow, hfits⟩

def twoOffices : Db :=
  Db.start [] [.member 2 "voirie@map.ml" .orgAdmin 1, .member 3 "eaux@map.ml" .orgAdmin 2]
    (.new 1 (some "Fuite") "Bamako" "01-02-2025")

def givenUp : List Event :=
  [{ now := 0, op := .takeInCharge (some 2) 1 (.one .internal) .notText },
    { now := 5, op := .disengage (some 2) 1 }]

def givenUpIncident : Incident :=
  { Incident.new 1 (some "Fuite") "Bamako" "01-02-2025" with takenInChargeAt := none }

theorem declared_takable_iff_other :
    let db := twoOffices.exec givenUp
    Takes 1 3 ((takeInCharge 9 (some 3) 1 (.one .internal) .notText).run db) ∧
      Takes 1 3 ((takeInCharge 9 (some 3) 1 (.one .collaborative) (.one .leader)).run db) := by
  have hinactive : ∀ c, (twoOffices.exec givenUp).collaboration? 1 3 = some c →
      c.status ≠ .pending ∧ c.status ≠ .accepted := by
    intro c hc
    cases hc
  refine (@declared_takable_iff twoOffices (Db.start_fresh _ _) givenUp 1 givenUpIncident 3
    (.member 3 "eaux@map.ml" .orgAdmin 2) rfl rfl rfl rfl hinactive 9 .notText).mpr ?_
  exact ⟨rfl, rfl, by decide⟩

/-- The one who gave it up has a terminated row: he is refused as leader, and
taking the incident for his organisation keeps the row terminated. -/
theorem declared_refused :
    let db := twoOffices.exec givenUp
    twoOffices.Fresh ∧
      (∃ incident, db.incidents.get? 1 = some incident ∧ incident.etat = .declared ∧
        incident.isDeleted = false) ∧
      (∃ user, db.authenticated (some 2) = some user ∧ isOrgAdmin user = true) ∧
      (∃ c, db.collaboration? 1 2 = some c ∧ c.status = .terminated) ∧
      ¬ Takes 1 2 ((takeInCharge 9 (some 2) 1 (.one .collaborative) (.one .leader)).run db) ∧
      ¬ Takes 1 2 ((takeInCharge 9 (some 2) 1 (.one .internal) .notText).run db) := by
  refine ⟨Db.start_fresh _ _, ⟨givenUpIncident, rfl, rfl, rfl⟩, ⟨_, rfl, rfl⟩, ⟨_, rfl, rfl⟩,
    fun h => (nomatch h.1), fun h => ?_⟩
  obtain ⟨c, hc, -, haccepted⟩ := h.2.seat
  obtain rfl := Option.some.inj hc
  cases haccepted

end Mapapi
