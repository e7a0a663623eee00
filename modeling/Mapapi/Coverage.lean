import Mapapi.Definitive

/-!
# The anti-gel clock covers engaged incidents

`revert_stale_taken_incidents` selects the incidents that are taken into
account and whose `taken_in_charge_at` is known, and warns `taken_by`. Most
ways into `taken_into_account` write both columns, and the resolution workflow
keeps them. Three operations do not: a leader who leaves contributors behind
clears both, a tacit acceptance for an organisation without an admin has no
leader to write, and the legacy endpoint writes no instant.

A user who takes the lead over afterwards is written to `taken_by`, but does not
start the clock: that takes a new engagement, from `declared`. So the law over
runs is a debt (`Lib.Since`), one for each of the two columns, and it is off the
books when the incident is `declared` again.
-/

namespace Mapapi

open Lib

/-- What the timer needs of an incident: somebody to warn, and an instant to count
from. -/
inductive TimerNeed where
  | leader
  | instant

namespace Engagement

variable (e : Engagement)

/-- The incident is engaged: the states between `declared` and the resolution. -/
def InCare : Prop :=
  e.etat = .taken ∨ e.etat = .resolutionPrepared ∨ e.etat = .inValidation

/-- What the timer needs of an engagement, of one kind or the other: somebody
to warn, or an instant to count from. -/
def Has : TimerNeed → Prop
  | .leader => e.takenBy ≠ none
  | .instant => e.since ≠ none

theorem not_inCare_of_declared {e : Engagement} (h : e.etat = .declared) : ¬ e.InCare := by
  rintro (h' | h' | h') <;> rw [h] at h' <;> cases h'

theorem inCare_of_taken {e : Engagement} (h : e.etat = .taken) : e.InCare := Or.inl h

end Engagement

/-- An operation that leaves the incident `i` taken into account without a leader
or without an instant. -/
inductive Uncovers (db : Db) (now : Instant) (i : IncidentId) : TimerNeed → Op → Prop where
  /-- The leader leaves, and accepted contributors are offered the lead. -/
  | disengage {need auth user incident} (hauth : db.authenticated auth = some user)
      (hadmin : isOrgAdmin user = true) (hleads : db.leads user i = true)
      (hinc : db.incidents.get? i = some incident) (hetat : incident.etat = .taken)
      (hother : ∃ v, v ≠ user.id ∧
        db.seats i v = some { role := .contributor, status := .accepted }) :
      Uncovers db now i need (.disengage auth i)
  /-- The organisation that accepts tacitly has no admin. -/
  | tacit {assignment incident} (hassignment : assignment ∈ db.orgAssignments.rows)
      (hincident : assignment.incident = i) (hpending : assignment.status = .pending)
      (hoverdue : assignment.deadline < now) (hinc : db.incidents.get? i = some incident)
      (hetat : incident.etat = .declared) (hadmins : db.adminsOf assignment.organisation = []) :
      Uncovers db now i .leader .autoAcceptOverdueAssignments
  /-- The legacy endpoint writes no instant. -/
  | handle {auth user incident} (hauth : db.authenticated auth = some user)
      (hinc : db.incidents.get? i = some incident) (hetat : incident.etat = .declared) :
      Uncovers db now i .instant (.handleIncident auth i (some .takenIntoAccount))

theorem firstByPk_isSome {users : List User} (h : users ≠ []) : (firstByPk users).isSome := by
  cases users with
  | nil => exact absurd rfl h
  | cons u rest =>
      unfold firstByPk
      cases firstByPk rest with
      | none => rfl
      | some v => dsimp only; split <;> rfl

section Moves

variable {db : Db} {now : Instant} {i : IncidentId} {e e' : Engagement} {op : Op}

/-- A move on an engaged incident keeps what the timer needs, or is one of the
operations that lose it. One lemma serves both columns: the need is a
parameter, and the operations that lose it depend on it. -/
theorem Move.has {need : TimerNeed} (he : db.engagement? i = some e)
    (h : Move db now i e op e') (hhas : e.InCare → e.Has need) (hcare : e'.InCare) :
    e'.Has need ∨ Uncovers db now i need op := by
  obtain ⟨incident, hinc, rfl⟩ := Db.engagement?_eq_some.mp he
  cases h with
  | takeInternal | engage => cases need <;> exact Or.inl nofun
  | @takeLead _ user =>
      cases need with
      | leader => exact Or.inl nofun
      | instant =>
          by_cases hetat : incident.etat = .declared
          · have hsince : ((incident.engagement (db.seats i)).ledBy user.id now).since =
              some now := if_pos hetat
            exact Or.inl (by rw [Engagement.Has, hsince]; nofun)
          · have hsince : ((incident.engagement (db.seats i)).ledBy user.id now).since =
              incident.takenInChargeAt := if_neg hetat
            have hsame : ((incident.engagement (db.seats i)).ledBy user.id now).etat =
              incident.etat := if_neg hetat
            rw [Engagement.InCare, hsame] at hcare
            exact Or.inl (by rw [Engagement.Has, hsince]; exact hhas hcare)
  | handleTaken hauth hetat =>
      cases need with
      | leader => exact Or.inl nofun
      | instant => exact Or.inr (.handle hauth hinc hetat)
  | @tacit assignment hassignment hincident hpending hoverdue hetat =>
      cases need with
      | leader =>
          by_cases hadmins : db.adminsOf assignment.organisation = []
          · exact Or.inr (.tacit hassignment hincident hpending hoverdue hinc hetat hadmins)
          · obtain ⟨leader, hleader⟩ := Option.isSome_iff_exists.mp (firstByPk_isSome hadmins)
            rw [hleader]
            exact Or.inl nofun
      | instant => exact Or.inl nofun
  | disengageOffered hauth hadmin hleads hetat hother =>
      exact Or.inr (.disengage hauth hadmin (Db.leads_of_engagement he (Or.inr hleads)) hinc hetat
        hother)
  | prepare _ _ hetat => cases need <;> exact Or.inl (hhas (Or.inl hetat))
  | returnBack _ _ hetat => cases need <;> exact Or.inl (hhas (Or.inr (Or.inl hetat)))
  | reject _ _ hetat => cases need <;> exact Or.inl (hhas (Or.inr (Or.inr hetat)))
  | declareResolved _ _ hetat => cases need <;> exact Or.inl (hhas (hetat.imp_right Or.inl))
  | handleResolved | validate | autoValidate | disengageAlone | revert | close =>
      rcases hcare with h | h | h <;> cases h
  | stay | join | request | bulk | accept | decline | acceptSuggestion | discussInternally
  | discussAsTaker | warn => cases need <;> exact Or.inl (hhas hcare)

end Moves

/-! ## The law over runs -/

/-- The incident `i` lost what the timer needs in the run, and has not been
declared since then. -/
def UncoveredSince (i : IncidentId) (need : TimerNeed) (db : Db) (events : List Event) : Prop :=
  Since Db.step (fun db event => Uncovers db event.now i need event.op)
    (fun db => db.etat? i = some .declared) db events

/-- An engaged incident has what the timer needs, or has lost it and was not
declared since. The induction is on the run, with `Lib.since_snoc` for the
debt and `Move.has` for the step. -/
theorem has_or_uncoveredSince {db : Db} (hfresh : db.Fresh) (i : IncidentId) (need : TimerNeed)
    (events : List Event) :
    ∀ e, (db.exec events).engagement? i = some e → e.InCare →
      e.Has need ∨ UncoveredSince i need db events := by
  induction events using List.reverseRecOn with
  | nil =>
      intro e he hcare
      obtain ⟨incident, hinc, rfl⟩ := Db.engagement?_eq_some.mp he
      exact absurd hcare (Engagement.not_inCare_of_declared (hfresh.declared i incident hinc).1)
  | append_singleton past event ih =>
      intro e' he' hcare'
      have hsnoc : db.exec (past ++ [event]) = (db.exec past).step event := Lib.exec_snoc ..
      have hengaged : ¬ (db.exec (past ++ [event])).etat? i = some .declared := by
        intro hetat
        obtain ⟨e₀, he₀, hdeclared⟩ := etat?_eq_some.mp hetat
        cases he'.symm.trans he₀
        exact Engagement.not_inCare_of_declared hdeclared hcare'
      have hdebt : UncoveredSince i need db (past ++ [event]) ↔
          ¬ (db.exec (past ++ [event])).etat? i = some .declared ∧
            (Uncovers (db.exec past) event.now i need event.op ∨ UncoveredSince i need db past) :=
        since_snoc
      rw [hsnoc] at he'
      obtain ⟨e, he, hmove⟩ := step_cases he'
      by_cases hhas : e.InCare → e.Has need
      · rcases hmove.has he hhas hcare' with h | h
        · exact Or.inl h
        · exact Or.inr (hdebt.mpr ⟨hengaged, Or.inl h⟩)
      · obtain ⟨hcare, hlost⟩ := Classical.not_imp.mp hhas
        have hsince := (ih e he hcare).resolve_left hlost
        exact Or.inr (hdebt.mpr ⟨hengaged, Or.inr hsince⟩)

/-- An incident that is taken into account has a leader, unless its leader left
contributors behind or an organisation without an admin accepted it tacitly, and
it has an instant, unless its leader left contributors behind or the legacy
endpoint took it; each after it was declared last. -/
theorem taken_covered {db : Db} (hfresh : db.Fresh) (events : List Event) (i : IncidentId)
    (incident : Incident) (hinc : (db.exec events).incidents.get? i = some incident)
    (hetat : incident.etat = .taken) :
    (incident.takenBy ≠ none ∨ UncoveredSince i .leader db events) ∧
      (incident.takenInChargeAt ≠ none ∨ UncoveredSince i .instant db events) :=
  have hcare := Engagement.inCare_of_taken hetat
  ⟨has_or_uncoveredSince hfresh i .leader events _ (Db.engagement?_eq hinc) hcare,
    has_or_uncoveredSince hfresh i .instant events _ (Db.engagement?_eq hinc) hcare⟩

theorem taken_covered_refusedRun :
    let events : List Event :=
      [⟨0, .takeInCharge (some 2) 1 (.one .internal) .unknown⟩,
        ⟨hours 1, .declareResolved (some 2) 1⟩,
        ⟨hours 2, .rejectResolution (some 1) 1 (.one "incomplet")⟩]
    ∃ incident, (resolutionStore.exec events).incidents.get? 1 = some incident ∧
      incident.etat = .taken ∧
      (incident.takenBy ≠ none ∨ UncoveredSince 1 .leader resolutionStore events) ∧
      (incident.takenInChargeAt ≠ none ∨ UncoveredSince 1 .instant resolutionStore events) := by
  intro events
  have hsome : ((resolutionStore.exec events).incidents.get? 1).any
      (fun incident => decide (incident.etat = .taken)) = true := by decide
  obtain ⟨incident, hinc, hetat⟩ := (Option.any_eq_true _ _).mp hsome
  have hetat' : incident.etat = .taken := by simpa using hetat
  have hcovered := taken_covered (Db.start_fresh _ _) events 1 incident hinc hetat'
  exact ⟨incident, hinc, hetat', hcovered.1, hcovered.2⟩

def adminlessStore : Db :=
  (Db.start [{ id := 3, name := "Mairie" }] [.superAdmin 1 "super@map.ml"]
    (.new 1 (some "Fuite") "Bamako" "01-02-2025")).waitingFor
      { id := 1, incident := 1, organisation := 3, assignedBy := some 1, status := .pending,
        declineReason := none, deadline := hours 72, respondedAt := none }

/-- Its tacit acceptance takes it into account without a leader. -/
theorem taken_without_leader :
    adminlessStore.Fresh ∧
      ((adminlessStore.exec [⟨hours 73, .autoAcceptOverdueAssignments⟩]).incidents.get? 1).map
        (fun incident => (incident.etat, incident.takenBy)) = some (.taken, none) := by
  exact ⟨(Db.start_fresh _ _).waitingFor _, by decide⟩

end Mapapi
