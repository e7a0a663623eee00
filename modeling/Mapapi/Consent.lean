import Mathlib.Data.List.Induction
import Mapapi.Membership
import Mapapi.Refinement

/-!
# The consent of the leader

A contributor joins an incident that is already led by an acceptance: of the
request for collaboration, or of a suggestion, by somebody who may answer for
the incident. No other request makes a seat of a led incident the seat of an
accepted contributor, except one: the status of a row cannot be written, but
editing the role or the incident of an accepted row keeps it accepted. So an
observer, who is accepted without being asked, becomes a contributor by himself.

The law is about runs (`ConsentedRun`): every contributor of an incident that
was led before he contributed has been one since an acceptance. A run keeps it
exactly when none of its edits takes that way (`MembershipRequest.Spoils`).
-/

namespace Mapapi

open Lib

/-! ## Runs -/

/-- The operations by which users come to an incident: taking, asking,
answering and suggesting. The resolution and the timers, which end rows, are
left out, since the law is about how they begin. -/
def Op.isMembership : Op → Bool
  | takeInCharge .. | handleIncident .. | requestCollaboration .. | bulkRequest ..
  | handleCollaboration .. | acceptCollaboration .. | declineCollaboration ..
  | acceptSuggestion .. | rejectSuggestion .. => true
  | _ => false

/-- Whose token the request carries; a Celery task carries none. -/
def Op.issuer : Op → Option UserId
  | takeInCharge auth .. | handleIncident auth .. | closeIncident auth ..
  | prepareResolution auth .. | returnForCompletion auth .. | declareResolved auth ..
  | disengage auth .. | validateResolution auth .. | rejectResolution auth ..
  | assignToOrganisation auth .. | acceptOrgAssignment auth .. | declineOrgAssignment auth ..
  | requestCollaboration auth .. | bulkRequest auth .. | handleCollaboration auth ..
  | acceptCollaboration auth .. | declineCollaboration auth .. | acceptSuggestion auth ..
  | rejectSuggestion auth .. | readDiscussion auth .. | postDiscussion auth .. => auth
  | autoValidateOverdueResolutions | revertStaleTakenIncidents | purgeExpiredTrash
  | autoAcceptOverdueAssignments => none

/-- A request that is about taking part in an incident: an operation of the
server that is, a suggestion, or an edit or the removal of a row by
`CollaborationDetailView`. -/
inductive MembershipRequest where
  | server (op : Op) (hop : op.isMembership = true)
  | suggest (auth : Option UserId) (i : IncidentId) (data : SuggestionData)
  | edit (auth : Option UserId) (id : CollaborationId) (partialUpdate : Bool)
      (data : CollaborationData)
  | remove (auth : Option UserId) (id : CollaborationId)

def MembershipRequest.issuer : MembershipRequest → Option UserId
  | server op _ => op.issuer
  | suggest auth _ _ | edit auth _ _ _ | remove auth _ => auth

structure MembershipEvent where
  now : Instant
  request : MembershipRequest

/-- One request, as a step on the store. The edit and the removal are included
because it is the edit that breaks the law. -/
def Db.membership (isStaff : UserId → Bool) (db : Db) (event : MembershipEvent) : Db :=
  match event.request with
  | .server op _ => op.effect event.now db
  | .suggest auth i data => ((suggestPartner auth i data).run db).2
  | .edit auth id partialUpdate data =>
    ((editCollaboration isStaff event.now auth id partialUpdate data).run db).2
  | .remove auth id => ((removeCollaboration isStaff auth id).run db).2

/-! ## The law -/

/-- Somebody is in charge of the incident, whoever it is. The consent that is
asked for is that of anybody who may answer for it. -/
def Db.Led (db : Db) (i : IncidentId) : Prop :=
  ∃ incident, db.incidents.get? i = some incident ∧ incident.takenBy ≠ none

/-- A request by which the leader, an accepted leader or a super admin lets `u`
contribute to `i`: it accepts the row of `u`, with role contributor, or a suggestion
of `u` as contributor. -/
inductive Consents (db : Db) (i : IncidentId) (u : UserId) (event : MembershipEvent) : Prop where
  | collaboration {op hop auth user id c} (hrequest : event.request = .server op hop)
      (haccepts : op.Accepts event.now auth id c) (hauth : db.authenticated auth = some user)
      (hright : db.leads user i = true) (hrow : db.collaborationById? id = some c)
      (hincident : c.incident = i) (huser : c.user = u) (hrole : c.role = .contributor)
  | suggestion {auth user pk suggestion}
      (hrequest : event.request = .server (.acceptSuggestion auth i pk) rfl)
      (hauth : db.authenticated auth = some user) (hright : db.leads user i = true)
      (hsuggestion : db.partnerSuggestions.get? pk = some suggestion)
      (habout : suggestion.incident = i) (hpartner : suggestion.suggestedPartner = u)
      (hrole : suggestion.suggestedRole = .contributor)

/-- Who contributes to an incident at the end of the run, and did not at a point where
it was led, has been accepted since. And nobody gets there alone, unless he could
answer for the incident himself. -/
def ConsentedRun (isStaff : UserId → Bool) (start : Db) (events : List MembershipEvent) : Prop :=
  ∀ past rest i u, events = past ++ rest → (exec (Db.membership isStaff) start past).Led i →
    (exec (Db.membership isStaff) start past).contributorCollaborationExists i u = false →
    (exec (Db.membership isStaff) start events).contributorCollaborationExists i u = true →
    Since (Db.membership isStaff) (fun db event => Consents db i u event)
        (fun db => db.contributorCollaborationExists i u = false)
        (exec (Db.membership isStaff) start past) rest ∧
      ((∀ event ∈ rest, event.request.issuer = some u) → ∃ mid user, mid <+: rest ∧
        user.id = u ∧ (exec (Db.membership isStaff) start (past ++ mid)).leads user i = true)

/-- An edit that makes an accepted row the row of a contributor of a led incident. -/
inductive MembershipRequest.Spoils (isStaff : UserId → Bool) (db : Db) (now : Instant) :
    MembershipRequest → Prop where
  | edit {auth id partialUpdate data c incident}
      (hedits : Edits isStaff db now auth id partialUpdate data c incident)
      (hled : incident.takenBy ≠ none) (hstatus : c.status = .accepted)
      (hrole : (data.over c).role = .contributor)
      (hnew : c.role = .contributor → (data.over c).incident ≠ c.incident) :
      Spoils isStaff db now (.edit auth id partialUpdate data)

/-! ## One step -/

section Steps

variable {isStaff : UserId → Bool} {db : Db} {event : MembershipEvent} {i : IncidentId}
  {u : UserId} {e e' : Engagement} {op : Op}

def Seat.contributor : Seat := { role := .contributor, status := .accepted }

theorem contributorCollaborationExists_iff :
    db.contributorCollaborationExists i u = true ↔ db.seats i u = some Seat.contributor := by
  unfold Db.contributorCollaborationExists Db.seats
  rw [Option.any_eq_true, Option.map_eq_some_iff]
  refine exists_congr fun c => and_congr_right fun _ => ?_
  rw [decide_eq_true_eq, Collaboration.seat, Seat.contributor, Seat.mk.injEq]

theorem setSeat_contributor {v : UserId} {s : Option Seat}
    (h : (e.setSeat v s).seat u = some Seat.contributor) :
    e.seat u = some Seat.contributor ∨ u = v ∧ s = some Seat.contributor := by
  rw [Engagement.setSeat_seat] at h
  split at h
  · rename_i hu
    exact Or.inr ⟨hu, h⟩
  · exact Or.inl h

theorem requestStatus_led {role : Option CollabRole} (hled : e.takenBy ≠ none)
    (hrole : role.getD .contributor = .contributor) : e.requestStatus role ≠ .accepted := by
  unfold Engagement.requestStatus
  split
  · decide
  · split
    · rename_i hobserver
      rw [hobserver] at hrole
      cases hrole
    · split <;> decide

theorem Move.led {now : Instant} (hop : op.isMembership = true) (h : Move db now i e op e')
    (hled : e.takenBy ≠ none) : e'.takenBy ≠ none := by
  cases h with
  | takeInternal | takeLead | handleTaken | engage => nofun
  | tacit | disengageOffered | disengageAlone | revert => cases hop
  | stay | join | request | bulk | accept | decline | acceptSuggestion | discussInternally
  | discussAsTaker | handleResolved | prepare | returnBack | declareResolved | validate
  | autoValidate | reject | warn | close => exact hled

/-- Who contributes after an operation did before, or it was a consent. -/
theorem Move.contributor (hop : op.isMembership = true)
    (hrequest : event.request = .server op hop) (he : db.engagement? i = some e)
    (h : Move db event.now i e op e') (hled : e.takenBy ≠ none)
    (hseat : e'.seat u = some Seat.contributor) :
    e.seat u = some Seat.contributor ∨ Consents db i u event := by
  cases h with
  | stay | handleTaken | handleResolved => exact Or.inl hseat
  | takeInternal _ _ hfree => exact absurd hfree hled
  | takeLead _ _ _ _ _ hfree => exact absurd hfree hled
  | @join _ user role =>
      rcases setSeat_contributor hseat with h | ⟨-, hs⟩
      · exact Or.inl h
      · split at hs
        · obtain ⟨hrole, hstatus⟩ := Seat.mk.inj (Option.some.inj hs)
          rw [hrole, Engagement.joinStatus, if_neg (by decide), if_neg hled] at hstatus
          cases hstatus
        · cases hs
  | request =>
      rcases setSeat_contributor hseat with h | ⟨-, hs⟩
      · exact Or.inl h
      · split at hs
        · obtain ⟨hrole, hstatus⟩ := Seat.mk.inj (Option.some.inj hs)
          exact absurd hstatus (requestStatus_led hled hrole)
        · cases hs
  | bulk =>
      rcases setSeat_contributor hseat with h | ⟨-, hs⟩
      · exact Or.inl h
      · cases hs
  | @accept _ auth user id c haccepts hauth hadmin hrow hincident hcseat hleads =>
      rcases setSeat_contributor hseat with h | ⟨hu, hs⟩
      · exact Or.inl h
      · rw [hcseat] at hs
        have hrole : c.role = .contributor := (Seat.mk.inj (Option.some.inj hs)).1
        exact Or.inr (.collaboration hrequest haccepts hauth
          (Db.leads_of_engagement he (Or.inr hleads)) hrow hincident hu.symm hrole)
  | decline =>
      rcases setSeat_contributor hseat with h | ⟨-, hs⟩
      · exact Or.inl h
      · obtain ⟨s, -, hdeclined⟩ := Option.map_eq_some_iff.mp hs
        exact nomatch (Seat.mk.inj hdeclined).2
  | @acceptSuggestion auth user pk suggestion hauth hleads hsuggestion habout hpending =>
      rcases setSeat_contributor hseat with h | ⟨hu, hs⟩
      · exact Or.inl h
      · have hrole := (Seat.mk.inj (suggestedSeat_eq_some hs)).1
        have hsuggested : suggestion.suggestedRole = .contributor := by
          cases hsuggested : suggestion.suggestedRole with
          | contributor => rfl
          | observer =>
              rw [hsuggested] at hrole
              cases hrole
        exact Or.inr (.suggestion hrequest hauth (Db.leads_of_engagement he hleads) hsuggestion
          habout hu.symm hsuggested)
  | discussInternally hdiscusses | discussAsTaker hdiscusses =>
      rcases hdiscusses with rfl | ⟨_, _, rfl⟩ <;> cases hop
  | engage | tacit | prepare | returnBack | declareResolved | validate | autoValidate | reject
  | disengageOffered | disengageAlone | revert | warn | close => cases hop

theorem led_iff : db.Led i ↔ ∃ e, db.engagement? i = some e ∧ e.takenBy ≠ none := by
  constructor
  · rintro ⟨incident, hinc, htaken⟩
    exact ⟨_, Db.engagement?_eq hinc, htaken⟩
  · rintro ⟨e, he, htaken⟩
    obtain ⟨incident, hinc, rfl⟩ := Db.engagement?_eq_some.mp he
    exact ⟨incident, hinc, htaken⟩

theorem effect_moves (now : Instant) (hop : op.isMembership = true)
    (he : db.engagement? i = some e) :
    ∃ e', (op.effect now db).engagement? i = some e' ∧ Move db now i e op e' := by
  have hpurge : (Event.mk now op).op ≠ .purgeExpiredTrash := by
    rintro rfl
    cases hop
  exact (step_acts hpurge).moves i e he

/-- An edit makes somebody a contributor of a led incident only in the way
that `Spoils` describes, with the status that the row had before. -/
theorem edit_contributor {auth : Option UserId} {id : CollaborationId} {partialUpdate : Bool}
    {data : CollaborationData} {now : Instant} (hled : db.Led i)
    (h : ((editCollaboration isStaff now auth id partialUpdate data).run db).2.seats i u =
      some Seat.contributor) :
    db.seats i u = some Seat.contributor ∨
      (MembershipRequest.edit auth id partialUpdate data).Spoils isStaff db now := by
  rcases editCollaboration_run (Eq.refl
    ((editCollaboration isStaff now auth id partialUpdate data).run db)) with
    hrefused | ⟨c, incident, hedits, hout⟩
  · rw [hrefused.1] at h
    exact Or.inl h
  rw [hout, hedits.seats] at h
  split at h
  · rename_i hhere
    obtain ⟨rfl, rfl⟩ := hhere
    obtain ⟨hrole, hstatus⟩ := Seat.mk.inj (Option.some.inj h)
    by_cases hnew : c.role = .contributor → (data.over c).incident ≠ c.incident
    · obtain ⟨incident', hinc', htaken⟩ := hled
      obtain rfl := Option.some.inj (hedits.about.symm.trans hinc')
      exact Or.inr (.edit hedits htaken hstatus hrole hnew)
    · push Not at hnew
      obtain ⟨user, -, hrow⟩ := hedits.row
      refine Or.inl ?_
      unfold Db.seats
      rw [hnew.2, collaboration?_of_writable hrow,
        Option.map_some, Collaboration.seat, hnew.1, show c.status = .accepted from hstatus]
      rfl
  · split at h
    · cases h
    · exact Or.inl h

/-- Who contributes after a request did before, or it was a consent, or it
spoiled the law. The law for runs follows with `Lib.Since`: the last time the
user did not contribute, the next request was one of these. -/
theorem contributor_step (hled : db.Led i)
    (h : (db.membership isStaff event).contributorCollaborationExists i u = true) :
    db.contributorCollaborationExists i u = true ∨ Consents db i u event ∨
      event.request.Spoils isStaff db event.now := by
  rw [contributorCollaborationExists_iff] at h ⊢
  obtain ⟨now, request⟩ := event
  cases request with
  | server op hop =>
      obtain ⟨e, he, htaken⟩ := led_iff.mp hled
      obtain ⟨e', he', hmove⟩ := effect_moves now hop he
      obtain ⟨incident, -, rfl⟩ := Db.engagement?_eq_some.mp he
      obtain ⟨incident', -, rfl⟩ := Db.engagement?_eq_some.mp he'
      have hrequest : (⟨now, .server op hop⟩ : MembershipEvent).request = .server op hop := rfl
      exact (hmove.contributor hop hrequest he htaken h).imp_right Or.inl
  | suggest auth j data =>
      rcases suggestPartner_run (Eq.refl ((suggestPartner auth j data).run db)) with
        hrefused | ⟨suggestion, hout⟩
      · exact Or.inl (hrefused.1 ▸ h)
      · rw [show db.membership isStaff ⟨now, .suggest auth j data⟩ = _ from hout] at h
        exact Or.inl h
  | edit auth id partialUpdate data => exact (edit_contributor hled h).imp_right Or.inr
  | remove auth id =>
      rcases removeCollaboration_run (Eq.refl ((removeCollaboration isStaff auth id).run db)) with
        hrefused | ⟨c, hout⟩
      · exact Or.inl (hrefused.1 ▸ h)
      · rw [show db.membership isStaff ⟨now, .remove auth id⟩ = _ from hout,
          (Db.setsSeat_deleteCollaboration c).seats] at h
        split at h
        · cases h
        · exact Or.inl h

/-- Nobody who asks for, edits or answers anything here takes the lead away:
an incident that is led stays led. That is why the law can speak of one point
of the run and of what follows it. -/
theorem led_step (event : MembershipEvent) (hled : db.Led i) :
    (db.membership isStaff event).Led i := by
  have hsame (db' : Db) (h : db'.incidents = db.incidents) : db'.Led i := by
    obtain ⟨incident, hinc, htaken⟩ := hled
    exact ⟨incident, h ▸ hinc, htaken⟩
  obtain ⟨now, request⟩ := event
  cases request with
  | server op hop =>
      obtain ⟨e, he, htaken⟩ := led_iff.mp hled
      obtain ⟨e', he', hmove⟩ := effect_moves now hop he
      exact led_iff.mpr ⟨e', he', hmove.led hop htaken⟩
  | suggest auth j data =>
      refine hsame _ ?_
      rcases suggestPartner_run (Eq.refl ((suggestPartner auth j data).run db)) with
        hrefused | ⟨suggestion, hout⟩
      · exact congrArg Db.incidents hrefused.1
      · exact (congrArg Db.incidents hout :)
  | edit auth id partialUpdate data =>
      refine hsame _ ?_
      rcases editCollaboration_run (Eq.refl
        ((editCollaboration isStaff now auth id partialUpdate data).run db)) with
        hrefused | ⟨c, incident, -, hout⟩
      · exact congrArg Db.incidents hrefused.1
      · exact (congrArg Db.incidents hout).trans (incidents_replaceCollaboration c _)
  | remove auth id =>
      refine hsame _ ?_
      rcases removeCollaboration_run (Eq.refl ((removeCollaboration isStaff auth id).run db)) with
        hrefused | ⟨c, hout⟩
      · exact congrArg Db.incidents hrefused.1
      · exact (congrArg Db.incidents hout :)

/-- An edit is not a consent, and it makes somebody contribute who did not. -/
theorem MembershipRequest.Spoils.joins (h : event.request.Spoils isStaff db event.now) :
    ∃ i u, db.Led i ∧ db.contributorCollaborationExists i u = false ∧
      (db.membership isStaff event).contributorCollaborationExists i u = true ∧
      ¬ Consents db i u event := by
  obtain ⟨now, request⟩ := event
  cases h with
  | @edit auth id partialUpdate data c incident hedits hled hstatus hrole hnew =>
      refine ⟨(data.over c).incident, c.user, ⟨incident, hedits.about, hled⟩, ?_, ?_, ?_⟩
      · obtain ⟨user, -, hrow⟩ := hedits.row
        rw [← Bool.not_eq_true, contributorCollaborationExists_iff]
        intro hseat
        rcases hedits.free with hsame | hnone
        · rw [hsame, Db.seats, collaboration?_of_writable hrow] at hseat
          exact hnew (Seat.mk.inj (Option.some.inj hseat)).1 hsame
        · rw [Db.seats, hnone] at hseat
          cases hseat
      · rw [contributorCollaborationExists_iff, show db.membership isStaff
          ⟨now, .edit auth id partialUpdate data⟩ = _ from hedits.run,
          hedits.seats, if_pos ⟨rfl, rfl⟩, Collaboration.seat, hrole,
          show (data.over c).status = .accepted from hstatus]
        rfl
      · intro hconsents
        cases hconsents with
        | collaboration hrequest => cases hrequest
        | suggestion hrequest => cases hrequest

/-- Who consents may answer for the incident, so nobody consents to his own
request unless he leads. -/
theorem Consents.issuer (h : Consents db i u event) :
    ∃ user, db.authenticated event.request.issuer = some user ∧ db.leads user i = true := by
  obtain ⟨now, request⟩ := event
  cases h with
  | collaboration hrequest haccepts hauth hright =>
      cases hrequest
      rcases haccepts with rfl | ⟨rfl, -, -⟩
      · exact ⟨_, hauth, hright⟩
      · exact ⟨_, hauth, hright⟩
  | suggestion hrequest hauth hright =>
      cases hrequest
      exact ⟨_, hauth, hright⟩

end Steps

/-! ## Every run -/

section Runs

variable {isStaff : UserId → Bool} {s : Db} {i : IncidentId} {u : UserId}

theorem contributor_since {rest : List MembershipEvent}
    (hsafe : Along (Db.membership isStaff)
      (fun db event => ¬ event.request.Spoils isStaff db event.now) s rest)
    (hled : s.Led i) (hnot : s.contributorCollaborationExists i u = false)
    (hend : (exec (Db.membership isStaff) s rest).contributorCollaborationExists i u = true) :
    Since (Db.membership isStaff) (fun db event => Consents db i u event)
      (fun db => db.contributorCollaborationExists i u = false) s rest := by
  induction rest using List.reverseRecOn with
  | nil => exact absurd hend (by rw [exec_nil, hnot]; decide)
  | append_singleton rest event ih =>
      obtain ⟨hsafe, hlast, -⟩ := along_append.mp hsafe
      have hled' : (exec (Db.membership isStaff) s rest).Led i :=
        exec_inv (I := fun db : Db => db.Led i) (fun _ event h => led_step event h) hled rest
      refine since_snoc.mpr ⟨Bool.not_eq_false _ ▸ hend, ?_⟩
      rw [exec_snoc] at hend
      rcases contributor_step hled' hend with h | h | h
      · exact Or.inr (ih hsafe h)
      · exact Or.inl h
      · exact absurd h hlast

/-- In every state of a run the contributors have joined by consent if and
only if no edit of the run makes somebody a contributor. The law speaks of the
last time the user did not contribute, so an edit that spoils it is found in
the state right after it. -/
theorem consentedRun_iff (isStaff : UserId → Bool) (start : Db) (events : List MembershipEvent) :
    (∀ past, past <+: events → ConsentedRun isStaff start past) ↔
      Along (Db.membership isStaff)
        (fun db event => ¬ event.request.Spoils isStaff db event.now) start events := by
  constructor
  · intro h
    rw [along_iff]
    rintro past event rest rfl hspoils
    obtain ⟨i, u, hled, hnot, hjoins, hconsent⟩ := hspoils.joins
    have hrun := h (past ++ [event]) (List.append_cons past event rest ▸ List.prefix_append ..)
    obtain ⟨pre, event', post, heq, hmark, -⟩ :=
      (hrun past [event] i u rfl hled hnot (by rw [exec_snoc]; exact hjoins)).1
    rcases pre with - | ⟨_, pre⟩
    · obtain ⟨rfl, -⟩ := List.cons.inj heq
      exact hconsent hmark
    · exact absurd (congrArg List.length heq) (by simp)
  · rintro h _ ⟨suffix, rfl⟩ past rest i u rfl hled hnot hend
    have hsafe := (along_append.mp (along_append.mp h).1).2
    rw [exec_append] at hend
    have hsince := contributor_since hsafe hled hnot hend
    refine ⟨hsince, fun halone => ?_⟩
    obtain ⟨pre, event, post, rfl, hmark, -⟩ := hsince
    obtain ⟨user, hauth, hright⟩ := hmark.issuer
    have hissuer : event.request.issuer = some u := halone event (by simp)
    obtain ⟨huser, -⟩ := authenticated_id hauth
    refine ⟨pre, user, List.prefix_append .., ?_, ?_⟩
    · exact Option.some.inj (huser.symm.trans hissuer)
    · rw [exec_append]
      exact hright

end Runs

def consentStart : Db :=
  Db.start [] [.member 2 "voirie@map.ml" .orgAdmin 1, .member 3 "eaux@map.ml" .orgAdmin 2]
    (.new 1 (some "Fuite") "Bamako" "01-02-2025")

def leadTaken : List MembershipEvent :=
  [{ now := 0
     request := .server (.takeInCharge (some 2) 1 (.one .collaborative) (.one .leader)) rfl }]

/-- The other one observes, and edits the role of his row. -/
def selfPromotion : List MembershipEvent :=
  [{ now := 1
     request := .server (.takeInCharge (some 3) 1 (.one .collaborative) (.one .observer)) rfl },
    { now := 2
      request := .edit (some 3) 2 true { incident := .absent, role := .value .contributor
                                         endDate := .absent, motivation := .absent
                                         otherOption := .absent } }]

/-- He contributes to an incident that was led before, by his own requests only. -/
theorem observer_promotes_himself :
    consentStart.Fresh ∧ (∀ event ∈ selfPromotion, event.request.issuer = some 3) ∧
      ¬ ConsentedRun (fun _ => false) consentStart (leadTaken ++ selfPromotion) := by
  refine ⟨Db.start_fresh _ _, by decide, fun h => ?_⟩
  have hled : (exec (Db.membership fun _ => false) consentStart leadTaken).Led 1 :=
    ⟨_, rfl, nofun⟩
  obtain ⟨⟨pre, event, post, heq, hmark, -⟩, -⟩ :=
    h leadTaken selfPromotion 1 3 rfl hled (by decide +kernel) (by decide +kernel)
  -- neither of his two requests is a consent
  have hmem : event ∈ selfPromotion := by rw [heq]; simp
  rcases List.mem_cons.mp hmem with rfl | hmem
  · cases hmark with
    | collaboration hrequest haccepts =>
        cases hrequest
        rcases haccepts with h | ⟨h, -⟩ <;> cases h
    | suggestion hrequest => cases hrequest
  · obtain rfl := List.mem_singleton.mp hmem
    cases hmark with
    | collaboration hrequest => cases hrequest
    | suggestion hrequest => cases hrequest

end Mapapi
