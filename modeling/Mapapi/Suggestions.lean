import Mapapi.Accepting
import Mapapi.Membership

/-!
# What a partner suggestion stands for

A suggestion is made once and accepted any time later. When it is made, the
serializer looks at the incident in the body, and the row gets the incident of the
URL; what the view and the unique constraint check again is the state of that
incident and the pair, not the collaborations of the partner. When it is accepted,
nothing is looked at but the status of the suggestion: an incident may have been
closed in the meantime, and a partner who leads it gets the suggested role instead.
-/

namespace Mapapi

open Lib

/-! ## Making a suggestion -/

section Making

variable {db : Db} {auth : Option UserId} {i : IncidentId} {data : SuggestionData}
  {p : UserId} {out : Response × Db}

/-- The user has an accepted row. A request that waits is no collaboration
yet. -/
def Db.collaboratesOn (db : Db) (i : IncidentId) (u : UserId) : Bool :=
  (db.collaboration? i u).any fun c => decide (c.status = .accepted)

/-- The partner of valid data does not collaborate on the incident that was sent. -/
theorem suggestionIsValid_ok {role : SuggestionRole}
    (h : suggestionIsValid data db = .ok (p, role)) :
    ∃ sent, data.incident = .value sent ∧ db.collaboratesOn sent p = false := by
  unfold suggestionIsValid at h
  split at h
  · rename_i incident _ _ hincident _
    split at h
    · cases h
    · rename_i partner hvalid
      cases h
      obtain ⟨sent, hsent, hget⟩ := Option.bind_eq_some_iff.mp hincident
      have hid : incident.id = sent := Table.key_of_get? hget
      have hdata : data.incident = .value sent := by
        cases hdata : data.incident <;> rw [hdata] at hsent <;> cases hsent
        rfl
      refine ⟨sent, hdata, ?_⟩
      unfold validateSuggestion at hvalid
      dsimp only at hvalid
      split at hvalid
      · cases hvalid
      · split at hvalid
        · cases hvalid
        · split at hvalid
          · cases hvalid
          · rename_i hcollaborates
            split at hvalid
            · cases hvalid
            · cases hvalid
              rw [← hid]
              exact eq_false_of_ne_true hcollaborates
  · cases h

/-- When the row was stored, the incident was not resolved, and the partner neither
collaborated on it nor was suggested for it. -/
structure MadeRightly (db : Db) (s : PartnerSuggestion) : Prop where
  opened : ∃ incident, db.incidents.get? s.incident = some incident ∧ incident.etat ≠ .resolved
  outside : db.collaboratesOn s.incident s.suggestedPartner = false
  first : db.suggestionExists s.incident s.suggestedPartner = false

/-- New suggestions are right exactly if the incident of the body is that of
the path, or the partner does not take part in the one of the path yet: the
serializer checks the incident of the body, and the view stores that of the
path. -/
theorem madeRightly_iff :
    (∀ s ∈ ((suggestPartner auth i data).run db).2.partnerSuggestions.rows,
      s ∉ db.partnerSuggestions.rows → MadeRightly db s) ↔
      ∀ p, Suggests db auth i data p → data.incident = .value i ∨
        db.collaboratesOn i p = false := by
  constructor
  · intro h p hsuggests
    obtain ⟨s, rfl, rfl, hnew, hrun⟩ := hsuggests.run
    refine Or.inr (h s ?_ fun hmem => ?_).outside
    · rw [hrun]
      exact Table.mem_put_self _ _
    · rw [Table.get?_of_mem hmem] at hnew
      cases hnew
  · intro h s hmem hnot
    rcases suggests_of_run (Eq.refl ((suggestPartner auth i data).run db)) with
      ⟨hsame, -⟩ | ⟨p, hsuggests⟩
    · rw [hsame] at hmem
      exact absurd hmem hnot
    obtain ⟨row, rfl, rfl, -, hrun⟩ := hsuggests.run
    rw [hrun] at hmem
    obtain rfl : s = row := (Table.mem_put hmem).resolve_right hnot
    obtain ⟨incident, hinc, hopen⟩ := hsuggests.opened
    obtain ⟨role, hvalid⟩ := hsuggests.valid
    refine ⟨⟨incident, hinc, by simpa [Incident.isResolved] using hopen⟩, ?_, hsuggests.free⟩
    rcases h _ hsuggests with hsent | houtside
    · obtain ⟨sent, hdata, houtside⟩ := suggestionIsValid_ok hvalid
      rw [hsent] at hdata
      cases hdata
      exact houtside
    · exact houtside

end Making

/-! ## Accepting it -/

section Accepting

variable {db : Db} {auth : Option UserId} {i : IncidentId} {pk : SuggestionId}
  {s : PartnerSuggestion}

/-- The request of somebody who leads the incident accepts the pending suggestion `s`;
there is a row to rewrite, or an incident to store a new one for. -/
structure AcceptsSuggestion (db : Db) (auth : Option UserId) (i : IncidentId)
    (pk : SuggestionId) (s : PartnerSuggestion) : Prop where
  allowed : ∃ user, db.authenticated auth = some user ∧ db.leads user i = true
  row : db.partnerSuggestions.get? pk = some s
  about : s.incident = i
  pending : s.status = .pending
  stored : (db.collaboration? i s.suggestedPartner).isSome = true ∨
    (db.incidents.get? i).isSome = true

theorem AcceptsSuggestion.succeeds (h : AcceptsSuggestion db auth i pk s) :
    Succeeds ((acceptSuggestion auth i pk).run db) := by
  obtain ⟨⟨user, hauth, hleads⟩, hrow, rfl, hpending, hstored⟩ := h
  cases hcollaboration : db.collaboration? s.incident s.suggestedPartner with
  | some c =>
      rw [acceptSuggestion_existing hauth hleads hrow hpending hcollaboration]
      exact Nat.le_of_ble_eq_true rfl
  | none =>
      rw [hcollaboration] at hstored
      obtain ⟨incident, hinc⟩ := Option.isSome_iff_exists.mp (hstored.resolve_left (by decide))
      rw [acceptSuggestion_new hauth hleads hrow hpending hcollaboration hinc]
      exact Nat.le_of_ble_eq_true rfl

/-- What a success stands for: the request of somebody who leads the incident,
about a pending suggestion, with a row to rewrite or an incident to store a
new one for. -/
theorem accepts_of_succeeds (h : Succeeds ((acceptSuggestion auth i pk).run db)) :
    ∃ s, AcceptsSuggestion db auth i pk s ∧
      ∀ c, ((acceptSuggestion auth i pk).run db).2.collaboration? i s.suggestedPartner = some c →
        c.role ≠ .leader := by
  rcases acceptSuggestion_run (Eq.refl ((acceptSuggestion auth i pk).run db)) with
    hno | ⟨user, s, db', hauth, hleads, hget, rfl, hpending, hset, hout⟩
  · exact absurd h (not_succeeds_of_refused hno)
  refine ⟨s, ⟨⟨user, hauth, hleads⟩, hget, rfl, hpending, ?_⟩, fun c hc => ?_⟩
  · cases hcollaboration : db.collaboration? s.incident s.suggestedPartner with
    | some c => exact Or.inl rfl
    | none =>
        refine Or.inr ?_
        cases hinc : db.incidents.get? s.incident with
        | some incident => rfl
        | none =>
            have hcrash : (getOrCreateSuggested s).run db = (none, db) := by
              unfold getOrCreateSuggested getOrCreate
              simp only [Prog.run_bind, Prog.run_read]
              rw [show db.collaboration? s.collaboration.incident s.collaboration.user = none from
                hcollaboration]
              simp only [Prog.run_bind, Prog.run_atomic, hinc, Prog.run_read]
              rw [show db.collaboration? s.collaboration.incident s.collaboration.user = none from
                hcollaboration]
              rfl
            rw [acceptSuggestion_passes hauth hleads hget hpending, hcrash] at h
            exact absurd h (show ¬ 500 < 400 by decide)
  · have hseat : ((acceptSuggestion auth s.incident pk).run db).2.seats s.incident
        s.suggestedPartner = suggestedSeat db s := by
      rw [hout]
      exact (hset.seats _ _).trans (if_pos ⟨rfl, rfl⟩)
    have hrole := suggestedSeat_eq_some (hseat.symm.trans (congrArg (Option.map
      Collaboration.seat) hc))
    have hrole' : c.role = s.suggestedRole.toCollabRole := congrArg Seat.role hrole
    rw [hrole']
    cases s.suggestedRole <;> decide

/-- A success is on an incident that is not closed, and leaves a leader a leader. -/
def AcceptedRightly (db : Db) (auth : Option UserId) (i : IncidentId) (pk : SuggestionId) :
    Prop :=
  Succeeds ((acceptSuggestion auth i pk).run db) → ∀ s, db.partnerSuggestions.get? pk = some s →
    (∀ incident, db.incidents.get? i = some incident → incident.isFinished = false) ∧
      (db.LeadsIn i s.suggestedPartner →
        ∃ c, ((acceptSuggestion auth i pk).run db).2.collaboration? i s.suggestedPartner = some c ∧
          c.role = .leader)

theorem acceptedRightly_iff :
    AcceptedRightly db auth i pk ↔ ∀ s, AcceptsSuggestion db auth i pk s →
      (∀ incident, db.incidents.get? i = some incident → incident.isFinished = false) ∧
        ¬ db.LeadsIn i s.suggestedPartner := by
  constructor
  · intro h s haccepts
    obtain ⟨s', haccepts', hrole⟩ := accepts_of_succeeds haccepts.succeeds
    obtain rfl := Option.some.inj (haccepts.row.symm.trans haccepts'.row)
    obtain ⟨hopen, hleader⟩ := h haccepts.succeeds s haccepts.row
    refine ⟨hopen, fun hleads => ?_⟩
    obtain ⟨c, hc, hled⟩ := hleader hleads
    exact hrole c hc hled
  · intro h hsucceeds s hget
    obtain ⟨s', haccepts, -⟩ := accepts_of_succeeds hsucceeds
    obtain rfl := Option.some.inj (hget.symm.trans haccepts.row)
    obtain ⟨hopen, hleader⟩ := h s haccepts
    exact ⟨hopen, fun hleads => absurd hleads hleader⟩

end Accepting

/-- A suggestion that is stored means what was validated exactly when no
offered partner collaborates on the incident of the URL while another incident
was sent. An accepted one does exactly when the incident is not closed and the
partner does not lead it. Both conditions are about the store before the
request. -/
theorem suggestions_mean_iff (db : Db) (auth : Option UserId) (i : IncidentId) :
    (∀ data : SuggestionData,
      (∀ s ∈ ((suggestPartner auth i data).run db).2.partnerSuggestions.rows,
        s ∉ db.partnerSuggestions.rows → MadeRightly db s) ↔
        ∀ p, Suggests db auth i data p → data.incident = .value i ∨
          db.collaboratesOn i p = false) ∧
      ∀ pk : SuggestionId, AcceptedRightly db auth i pk ↔
        ∀ s, AcceptsSuggestion db auth i pk s →
          (∀ incident, db.incidents.get? i = some incident → incident.isFinished = false) ∧
            ¬ db.LeadsIn i s.suggestedPartner :=
  ⟨fun _ => madeRightly_iff, fun _ => acceptedRightly_iff⟩

def takenRow (i : IncidentId) (etat : Etat) : Incident :=
  { Incident.new i (some "Fuite") "Bamako" "01-02-2025" with
    etat := etat, takenBy := some 2, takeInChargeMode := some .collaborative }

/-- User 2 has taken three incidents, the last of which is closed for good. User 3
collaborates on the first. User 2 is suggested for the first, user 3 for the last. -/
def suggestionStore : Db :=
  { Db.start [{ id := 1, name := "Voirie" }, { id := 2, name := "Eau" }]
      [.member 2 "voirie@map.ml" .orgAdmin 1, .member 3 "eau@map.ml" .orgAdmin 2]
      (.new 1 (some "Fuite") "Bamako" "01-02-2025") with
    incidents := ⟨[takenRow 1 .taken, takenRow 2 .taken, takenRow 3 .resolvedDefinitive],
      by decide⟩
    collaborations := ⟨[{ Db.newCollaboration 1 3 .contributor .accepted with id := 1 }],
      List.nodup_singleton _⟩
    partnerSuggestions := ⟨[
      { id := 1, incident := 1, suggestedBy := 3, suggestedPartner := 2
        suggestedRole := .contributor, status := .pending },
      { id := 2, incident := 3, suggestedBy := 3, suggestedPartner := 3
        suggestedRole := .observer, status := .pending }], by decide⟩ }

/-- The collaborator of the first incident, with the second incident in the body. -/
def suggestElsewhere : SuggestionData :=
  { incident := .value 2, suggestedPartner := .value 3, suggestedOrganisation := .absent
    suggestedRole := .value .observer, justification := .value "Expertise" }

/-- Suggested although she collaborates already; accepted on a closed incident; and the
leader accepted as a contributor. -/
theorem suggestions_mean_otherwise :
    (∃ s ∈ ((suggestPartner (some 2) 1 suggestElsewhere).run
        suggestionStore).2.partnerSuggestions.rows,
      s ∉ suggestionStore.partnerSuggestions.rows ∧ ¬ MadeRightly suggestionStore s) ∧
      ¬ AcceptedRightly suggestionStore (some 2) 3 2 ∧
        suggestionStore.LeadsIn 1 2 ∧
          Succeeds ((acceptSuggestion (some 2) 1 1).run suggestionStore) ∧
            ((acceptSuggestion (some 2) 1 1).run suggestionStore).2.seats 1 2 =
              some ⟨.contributor, .accepted⟩ := by
  refine ⟨⟨{ id := 3, incident := 1, suggestedBy := 2, suggestedPartner := 3
             suggestedRole := .observer, status := .pending }, by decide, by decide, ?_⟩,
    fun h => ?_, Or.inl rfl, by decide, by decide⟩
  · exact fun h => absurd h.outside (by decide)
  · exact absurd ((h (by decide) _ rfl).1 _ rfl) (by decide)

end Mapapi
