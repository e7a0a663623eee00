import Mapapi.Coverage

/-!
# The leader of an incident

Who leads an incident is stored twice, as `taken_by` and as an accepted leader
collaboration, and the leader permission asks for either. The two agree as long
as every accepted leader seat is the seat of `taken_by` (`SingleLeader`).

Three operations break this. On an internal incident every member of the owning
organisation who opens the discussion gets an accepted leader collaboration, by
design. The anti-gel timer clears `taken_by` and leaves the leader collaboration
accepted, and the endpoints that accept a request accept one for the leader role
next to the leader that is there.
-/

namespace Mapapi

open Lib

/-- Every accepted leader seat is the seat of `taken_by`, and nobody has taken a
declared incident. -/
structure Engagement.SingleLeader (e : Engagement) : Prop where
  seat : ∀ u, e.seat u = some Seat.leader → e.takenBy = some u
  declared : e.etat = .declared → e.takenBy = none

namespace Engagement.SingleLeader

variable {e : Engagement}

theorem leads_iff (h : e.SingleLeader) (u : UserId) : e.Leads u ↔ e.takenBy = some u :=
  ⟨fun hleads => hleads.elim id (h.seat u), Or.inl⟩

theorem seat_ne_leader (h : e.SingleLeader) (hfree : e.takenBy = none) (u : UserId) :
    e.seat u ≠ some Seat.leader := by
  intro hseat
  have htaken := h.seat u hseat
  rw [hfree] at htaken
  cases htaken

/-- One seat changes: not to a leader seat, or to the one of `taken_by`. Most
operations that write collaborations are of this kind. -/
theorem setSeat (h : e.SingleLeader) {u : UserId} {s : Option Seat}
    (hs : s = some Seat.leader → e.takenBy = some u) : (e.setSeat u s).SingleLeader where
  seat v hv := by
    rw [setSeat_seat] at hv
    split at hv
    · rename_i heq
      rw [heq]
      exact hs hv
    · exact h.seat v hv
  declared := h.declared

theorem retake {e' : Engagement} (h : e.SingleLeader) (hetat : e.etat = .declared)
    (hseat : e'.seat = e.seat) (htaken : e'.etat = .taken) : e'.SingleLeader where
  seat u hu := absurd (hseat ▸ hu) (h.seat_ne_leader (h.declared hetat) u)
  declared hdeclared := nomatch htaken.symm.trans hdeclared

theorem of_terminated (hetat : e.etat = .declared → e.takenBy = none) :
    e.terminated.SingleLeader where
  seat u hu := by
    obtain ⟨s, -, hleader⟩ := Option.map_eq_some_iff.mp hu
    exact absurd (congrArg Seat.status hleader) s.terminate_status
  declared := hetat

end Engagement.SingleLeader

/-- An operation after which an accepted leader seat may belong to somebody
else than `taken_by`. The condition looks at the store before the operation:
whether somebody has an accepted leader seat there, or asks for one. -/
inductive Unsettles (db : Db) (now : Instant) (i : IncidentId) : Op → Prop where
  /-- The timer reverts an incident that has an accepted leader collaboration. -/
  | revert {incident since u} (hinc : db.incidents.get? i = some incident)
      (hetat : incident.etat = .taken) (hsince : incident.takenInChargeAt = some since)
      (hverdict : antigelVerdict now since incident = .revert)
      (hseat : db.seats i u = some Seat.leader) :
      Unsettles db now i .revertStaleTakenIncidents
  /-- A leader collaboration of somebody else is accepted. -/
  | accept {op auth user id c incident} (hop : op.Accepts now auth id c)
      (hanswers : Answers db auth id user c incident) (hincident : c.incident = i)
      (hrole : c.role = .leader) (hother : incident.takenBy ≠ some c.user) :
      Unsettles db now i op
  /-- Another member of the owning organisation, who has no collaboration of
  another role, opens the internal discussion. -/
  | discuss {op auth user incident owner organisation} (hop : op.Discusses auth i)
      (hauth : db.authenticated auth = some user) (hsuper : isSuperAdmin user = false)
      (hinc : db.incidents.get? i = some incident)
      (hmode : incident.takeInChargeMode = some .internal)
      (howner : db.user? incident.takenBy = some owner)
      (horganisation : owner.organisationMember = some organisation)
      (hmember : user.organisationMember = some organisation)
      (hother : incident.takenBy ≠ some user.id)
      (hrole : ∀ s, db.seats i user.id = some s → s.role = .leader) : Unsettles db now i op

section Moves

variable {db : Db} {now : Instant} {i : IncidentId} {e e' : Engagement} {op : Op}

/-- The step of the invariant, one case for each way an operation can move an
engagement. The moves that hand out the lead find `taken_by` empty, so nobody
else held it; those that break the invariant are the three that `Unsettles`
names. -/
theorem Move.singleLeader (he : db.engagement? i = some e) (h : Move db now i e op e')
    (hsingle : e.SingleLeader) (hsettled : ¬ Unsettles db now i op) : e'.SingleLeader := by
  obtain ⟨incident, hinc, rfl⟩ := Db.engagement?_eq_some.mp he
  cases h with
  | stay => exact hsingle
  | @takeInternal _ _ user _ _ hfree =>
      refine ⟨fun v hv => ?_, nofun⟩
      by_cases hvu : v = user.id
      · rw [hvu]
        rfl
      · refine absurd ?_ (hsingle.seat_ne_leader hfree v)
        exact (Function.update_of_ne hvu _ _).symm.trans hv
  | @takeLead _ user _ _ _ _ _ hfree =>
      refine ⟨fun v hv => ?_, fun hetat => ?_⟩
      · by_cases hvu : v = user.id
        · rw [hvu]
          rfl
        · refine absurd ?_ (hsingle.seat_ne_leader hfree v)
          obtain ⟨s, hs, hreset⟩ := Option.map_eq_some_iff.mp ((if_neg hvu).symm.trans hv)
          rw [hs, Seat.reset_eq_leader hreset]
      · have hdeclared := Engagement.etat_of_ledBy _ (by decide) hetat
        exact nomatch (if_pos hdeclared).symm.trans hetat
  | @join _ user role _ _ _ _ _ hrole =>
      have hset := hsingle.setSeat (u := user.id)
        (s := if db.receives incident.takenBy user.id role then
          some ⟨role, joinStatus incident role⟩ else none)
        (fun hs => by
          split at hs
          · exact absurd (Seat.mk.inj (Option.some.inj hs)).1 hrole
          · cases hs)
      exact ⟨hset.seat, hset.declared⟩
  | @request _ user _ _ role _ _ _ _ _ hleader =>
      have hset := hsingle.setSeat (u := user.id)
        (s := if db.receives incident.takenBy user.id (role.getD .contributor) then
          some ⟨role.getD .contributor, requestStatus incident role⟩ else none)
        (fun hs => by
          split at hs
          · exact absurd (Seat.mk.inj (Option.some.inj hs)).1 (getD_ne_leader hleader)
          · cases hs)
      exact ⟨hset.seat, hset.declared⟩
  | bulk _ _ hrole =>
      exact hsingle.setSeat fun hs => absurd (Seat.mk.inj (Option.some.inj hs)).1 hrole
  | @accept _ _ user _ c hop hauth hadmin hrow hincident hseat hleads =>
      have hset : ((incident.engagement (db.seats i)).withStatus c.user
          .accepted).SingleLeader := by
        refine hsingle.setSeat fun hs => ?_
        rw [hseat] at hs
        have hrole : c.role = .leader := (Seat.mk.inj (Option.some.inj hs)).1
        subst hincident
        have hanswers : Answers db _ _ user c incident := ⟨hauth, hadmin, hrow, hinc,
          hleads.imp_right Db.leaderCollaborationExists_seats.mpr⟩
        by_contra hother
        exact hsettled (.accept hop hanswers rfl hrole hother)
      exact ⟨hset.seat, hset.declared⟩
  | decline =>
      refine hsingle.setSeat fun hs => ?_
      obtain ⟨s, -, hleader⟩ := Option.map_eq_some_iff.mp hs
      exact nomatch (Seat.mk.inj hleader).2
  | acceptSuggestion => exact hsingle.setSeat fun hs => absurd hs suggestedSeat_ne_leader
  | discussInternally hop hauth hsuper hmode howner horganisation hmember =>
      refine hsingle.setSeat fun hs => ?_
      by_contra hother
      refine hsettled (.discuss hop hauth hsuper hinc hmode howner horganisation hmember hother
        fun s hseat => ?_)
      rw [show (incident.engagement (db.seats i)).seat _ = some s from hseat] at hs
      exact (Seat.mk.inj (Option.some.inj hs)).1
  | discussAsTaker _ _ _ _ htaken => exact hsingle.setSeat fun _ => htaken
  | handleTaken _ hetat => exact hsingle.retake hetat rfl rfl
  | handleResolved => exact ⟨hsingle.seat, nofun⟩
  | engage _ _ _ _ _ _ hetat => exact hsingle.retake hetat rfl rfl
  | tacit _ _ _ _ hetat => exact hsingle.retake hetat rfl rfl
  | prepare => exact ⟨hsingle.seat, nofun⟩
  | returnBack => exact ⟨hsingle.seat, nofun⟩
  | declareResolved => exact ⟨hsingle.seat, nofun⟩
  | validate | autoValidate =>
      exact ⟨(Engagement.SingleLeader.of_terminated hsingle.declared).seat, nofun⟩
  | reject => exact ⟨hsingle.seat, nofun⟩
  | @disengageOffered _ user _ _ hleads hetat =>
      refine ⟨fun v hv => ?_, fun hdeclared => nomatch hetat.symm.trans hdeclared⟩
      obtain ⟨s', hs', hoffer⟩ := Option.map_eq_some_iff.mp hv
      obtain ⟨s, hs, rfl⟩ := Option.map_eq_some_iff.mp hs'
      obtain ⟨hne, rfl⟩ := Seat.leave_eq_leader (Seat.offerLead_eq_leader hoffer)
      have htaken := (hsingle.leads_iff user.id).mp hleads
      exact absurd (Option.some.inj ((hsingle.seat v hs).symm.trans htaken)) hne
  | @disengageAlone _ user =>
      refine ⟨fun v hv => ?_, fun _ => rfl⟩
      obtain ⟨s, -, hleader⟩ := Option.map_eq_some_iff.mp hv
      exact absurd (congrArg Seat.status hleader) s.terminate_status
  | revert hrow hetat hsince hverdict =>
      cases hrow.symm.trans hinc
      refine ⟨fun v hv => ?_, fun _ => rfl⟩
      exact absurd (.revert hrow hetat hsince hverdict hv) hsettled
  | warn => exact ⟨hsingle.seat, hsingle.declared⟩
  | close => exact ⟨hsingle.seat, nofun⟩

end Moves

/-! ## The permission over runs -/

/-- The leader permission on an incident, for users that are not super admins,
agrees with `taken_by`. -/
structure LeaderAgrees (db : Db) (i : IncidentId) (incident : Incident) : Prop where
  leads_iff : ∀ user : User, user.isSuperuser = false →
    (db.leads user i = true ↔ incident.takenBy = some user.id)
  unique : ∀ user user' : User, user.isSuperuser = false → user'.isSuperuser = false →
    db.leads user i = true → db.leads user' i = true → user.id = user'.id
  declared : incident.etat = .declared → ∀ user : User, user.isSuperuser = false →
    db.leads user i = false

theorem leaderAgrees_of_singleLeader {db : Db} {i : IncidentId} {incident : Incident}
    (hinc : db.incidents.get? i = some incident)
    (hsingle : (incident.engagement (db.seats i)).SingleLeader) : LeaderAgrees db i incident := by
  have hiff (user : User) (huser : user.isSuperuser = false) :
      db.leads user i = true ↔ incident.takenBy = some user.id :=
    (Db.leads_iff_leads (Db.engagement?_eq hinc) huser).trans (hsingle.leads_iff user.id)
  refine ⟨hiff, fun user user' huser huser' hleads hleads' => ?_, fun hetat user huser => ?_⟩
  · rw [hiff user huser] at hleads
    rw [hiff user' huser', hleads] at hleads'
    exact Option.some.inj hleads'
  · rw [← Bool.not_eq_true, hiff user huser, show incident.takenBy = none from
      hsingle.declared hetat]
    exact nofun

theorem singleLeader_exec {db : Db} (hfresh : db.Fresh) (i : IncidentId) (events : List Event)
    (hsettled : Along Db.step (fun db event => ¬ Unsettles db event.now i event.op) db events) :
    ∀ e, (db.exec events).engagement? i = some e → e.SingleLeader := by
  refine hsettled.inv (I := fun db : Db => ∀ e, db.engagement? i = some e → e.SingleLeader) ?_ ?_
  · intro db event h hsettled e' he'
    obtain ⟨e, he, hmove⟩ := step_cases he'
    exact hmove.singleLeader he (h e he) hsettled
  · intro e he
    obtain ⟨incident, hinc, rfl⟩ := Db.engagement?_eq_some.mp he
    refine ⟨fun u hu => ?_, fun _ => (hfresh.declared i incident hinc).2.1⟩
    have hnone : db.seats i u = none :=
      congrArg (Option.map Collaboration.seat) (hfresh.alone i u)
    rw [show db.seats i u = some Seat.leader from hu] at hnone
    cases hnone

/-- A member of the owning organisation without a collaboration has the leader
permission once the internal discussion is open. -/
theorem leads_after_readDiscussion {db : Db} {auth : Option UserId} {i : IncidentId}
    {user owner : User} {incident : Incident} {organisation : OrganisationId}
    (hauth : db.authenticated auth = some user) (hsuper : isSuperAdmin user = false)
    (hinc : db.incidents.get? i = some incident)
    (hmode : incident.takeInChargeMode = some .internal)
    (howner : db.user? incident.takenBy = some owner)
    (horganisation : owner.organisationMember = some organisation)
    (hmember : user.organisationMember = some organisation)
    (hrow : db.collaboration? i user.id = none) :
    ((readDiscussion auth i).run db).2.leads user i = true := by
  have hset := readDiscussion_internal hauth hsuper hinc hmode howner horganisation hmember
  have hnone : db.seats i user.id = none := congrArg (Option.map Collaboration.seat) hrow
  rw [hnone] at hset
  have hseat : ((readDiscussion auth i).run db).2.seats i user.id = some Seat.leader := by
    rw [hset.seats, if_pos ⟨rfl, rfl⟩]
    rfl
  have hinc' : ((readDiscussion auth i).run db).2.incidents.get? i = some incident := by
    rw [hset.rows.incidents, hinc]
  refine Db.leads_of_engagement (Db.engagement?_eq hinc') (Or.inr (Or.inr ?_))
  exact hseat

/-- As long as nothing unsettles it, the leader permission is held by
`taken_by` and by nobody else; and the discussion of an internal incident
gives it to every member of the owning organisation who opens it. The first
half is an invariant of runs (`SingleLeader`), the second one holds in any
store. -/
theorem leader_permission :
    (∀ (db : Db) (i : IncidentId) (events : List Event), db.Fresh →
      Along Db.step (fun db event => ¬ Unsettles db event.now i event.op) db events →
      ∀ incident, (db.exec events).incidents.get? i = some incident →
        LeaderAgrees (db.exec events) i incident) ∧
    ∀ (db : Db) (auth : Option UserId) (i : IncidentId) (user owner : User)
      (incident : Incident) (organisation : OrganisationId),
      db.authenticated auth = some user → isSuperAdmin user = false →
      db.incidents.get? i = some incident → incident.takeInChargeMode = some .internal →
      db.user? incident.takenBy = some owner → owner.organisationMember = some organisation →
      user.organisationMember = some organisation → db.collaboration? i user.id = none →
      ((readDiscussion auth i).run db).2.leads user i = true := by
  refine ⟨fun db i events hfresh hsettled incident hinc => ?_, ?_⟩
  · exact leaderAgrees_of_singleLeader hinc
      (singleLeader_exec hfresh i events hsettled _ (Db.engagement?_eq hinc))
  · intro db auth i user owner incident organisation hauth hsuper hinc hmode howner horganisation
      hmember hrow
    exact leads_after_readDiscussion hauth hsuper hinc hmode howner horganisation hmember hrow

def colleaguesStore : Db :=
  Db.start [{ id := 1, name := "Voirie" }]
    [.superAdmin 1 "super@map.ml", .member 2 "voirie@map.ml" .orgAdmin 1,
      .member 4 "agent@map.ml" .bureauAgent 1]
    (.new 1 (some "Fuite") "Bamako" "01-02-2025")

def internalRun : List Event :=
  [⟨0, .takeInCharge (some 2) 1 (.one .internal) .unknown⟩]

theorem leader_permission_internalRun :
    (∃ incident, (colleaguesStore.exec internalRun).incidents.get? 1 = some incident ∧
      LeaderAgrees (colleaguesStore.exec internalRun) 1 incident) ∧
    ((readDiscussion (some 4) 1).run (colleaguesStore.exec internalRun)).2.leads
      (.member 4 "agent@map.ml" .bureauAgent 1) 1 = true := by
  have hsettled : Along Db.step (fun db event => ¬ Unsettles db event.now 1 event.op)
      colleaguesStore internalRun := by
    refine ⟨fun h => ?_, trivial⟩
    cases h with
    | accept hop => rcases hop with hop | ⟨hop, -⟩ <;> cases hop
    | discuss hop => rcases hop with hop | ⟨_, -, hop⟩ <;> cases hop
  obtain ⟨incident, hinc, htaken⟩ : ∃ incident,
      (colleaguesStore.exec internalRun).incidents.get? 1 = some incident ∧
        (incident.takenBy = some 2 ∧ incident.takeInChargeMode = some .internal) := by
    have h : ((colleaguesStore.exec internalRun).incidents.get? 1).any (fun incident =>
        decide (incident.takenBy = some 2 ∧
          incident.takeInChargeMode = some .internal)) = true := by
      decide
    simpa [Option.any_eq_true] using h
  refine ⟨⟨incident, hinc, leader_permission.1 _ 1 internalRun (Db.start_fresh _ _) hsettled
    incident hinc⟩, ?_⟩
  exact leader_permission.2 _ (some 4) 1 (.member 4 "agent@map.ml" .bureauAgent 1)
    (.member 2 "voirie@map.ml" .orgAdmin 1) incident 1 (by decide) (by decide) hinc htaken.2
    (by rw [htaken.1]; decide) rfl rfl (by decide)

/-- The office agent opens the discussion: two users lead. -/
theorem two_leaders :
    colleaguesStore.Fresh ∧
      let db := colleaguesStore.exec (internalRun ++ [⟨hours 1, .readDiscussion (some 4) 1⟩])
      (db.incidents.get? 1).map Incident.takenBy = some (some 2) ∧
        db.leads (.member 2 "voirie@map.ml" .orgAdmin 1) 1 = true ∧
        db.leads (.member 4 "agent@map.ml" .bureauAgent 1) 1 = true := by
  exact ⟨Db.start_fresh _ _, by decide, by decide, by decide⟩

end Mapapi
