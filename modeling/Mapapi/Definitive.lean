import Mathlib.Data.List.Induction
import Mapapi.Refinement

/-!
# Definitive resolution

`resolved_definitive` is meant as the last state of an incident, entered from
`in_validation` only, by a super admin or, 72 hours after the last declaration
of the resolution, by itself. The entrances hold in every run. The exit does
not: `CloseIncidentView` refuses `resolved` only, so it takes a definitively
resolved incident back to `resolved`. The guard on the state names one of the
two states in which an incident is finished; the theorems say what holds as
long as no request reaches the gap.
-/

namespace Mapapi

open Lib

def Db.etat? (db : Db) (i : IncidentId) : Option Etat :=
  (db.incidents.get? i).map Incident.etat

theorem etat?_eq_some {db : Db} {i : IncidentId} {etat : Etat} :
    db.etat? i = some etat ↔ ∃ e, db.engagement? i = some e ∧ e.etat = etat := by
  unfold Db.etat? Db.engagement?
  cases db.incidents.get? i <;> simp [Incident.engagement]

/-! ## The moves around the last state -/

section Moves

variable {db : Db} {now : Instant} {i : IncidentId} {e e' : Engagement} {op : Op}

theorem Move.of_definitive (h : Move db now i e op e') (hetat : e.etat = .resolvedDefinitive) :
    e'.etat = .resolvedDefinitive ∨
      ∃ auth user start stop, op = .closeIncident auth i (.value start) (.value stop) ∧
        db.authenticated auth = some user ∧ isOrgAdmin user = true ∧ e.Leads user.id ∧
        db.openTasks i = [] := by
  cases h with
  | close hauth hadmin hleads hopen htasks =>
      exact Or.inr ⟨_, _, _, _, rfl, hauth, hadmin, hleads, htasks⟩
  | takeLead =>
      have hother : e.etat ≠ .declared := by rw [hetat]; decide
      exact Or.inl ((if_neg hother).trans hetat)
  | takeInternal _ _ _ _ h => rw [hetat] at h; cases h
  | handleTaken _ h => rw [hetat] at h; cases h
  | handleResolved _ h => rw [hetat] at h; cases h
  | engage _ _ _ _ _ _ h => rw [hetat] at h; cases h
  | tacit _ _ _ _ h => rw [hetat] at h; cases h
  | prepare _ _ h => rw [hetat] at h; cases h
  | returnBack _ _ h => rw [hetat] at h; cases h
  | declareResolved _ _ h => rw [hetat] at h; rcases h with h | h <;> cases h
  | validate => exact Or.inl rfl
  | autoValidate => exact Or.inl rfl
  | reject _ _ h => rw [hetat] at h; cases h
  | disengageOffered _ _ _ h => rw [hetat] at h; cases h
  | disengageAlone _ _ _ h => rw [hetat] at h; cases h
  | revert _ h => rw [hetat] at h; cases h
  | stay | join | request | bulk | accept | decline | acceptSuggestion | discussInternally
  | discussAsTaker | warn => exact Or.inl hetat

theorem Move.to_definitive (h : Move db now i e op e') (hetat : e'.etat = .resolvedDefinitive)
    (hbefore : e.etat ≠ .resolvedDefinitive) :
    e.etat = .inValidation ∧
      ((∃ auth user, op = .validateResolution auth i ∧ db.authenticated auth = some user ∧
          isSuperAdmin user = true) ∨
        op = .autoValidateOverdueResolutions ∧
          ∃ deadline, e.validationDeadline = some deadline ∧ deadline < now) := by
  cases h with
  | validate hauth hsuper h => exact ⟨h, Or.inl ⟨_, _, rfl, hauth, hsuper⟩⟩
  | autoValidate h hdeadline hoverdue => exact ⟨h, Or.inr ⟨rfl, _, hdeadline, hoverdue⟩⟩
  | takeLead => exact absurd (e.etat_of_ledBy (by decide) hetat) hbefore
  | stay | join | request | bulk | accept | decline | acceptSuggestion | discussInternally
  | discussAsTaker | warn | disengageOffered => exact absurd hetat hbefore
  | takeInternal | handleTaken | handleResolved | engage | tacit | prepare | returnBack
  | declareResolved | reject | disengageAlone | revert | close => cases hetat

/-- Only a declaration enters the validation, and it sets the deadline. -/
theorem Move.to_inValidation (h : Move db now i e op e') (hetat : e'.etat = .inValidation) :
    e.etat = .inValidation ∧ e'.validationDeadline = e.validationDeadline ∨
      (∃ auth, op = .declareResolved auth i) ∧
        (e.etat = .taken ∨ e.etat = .resolutionPrepared) ∧
        e'.validationDeadline = some (now + hours 72) := by
  cases h with
  | declareResolved _ _ h => exact Or.inr ⟨⟨_, rfl⟩, h, rfl⟩
  | takeLead => exact Or.inl ⟨e.etat_of_ledBy (by decide) hetat, rfl⟩
  | stay | join | request | bulk | accept | decline | acceptSuggestion | discussInternally
  | discussAsTaker | warn | disengageOffered => exact Or.inl ⟨hetat, rfl⟩
  | takeInternal | handleTaken | handleResolved | engage | tacit | prepare | returnBack
  | validate | autoValidate | reject | disengageAlone | revert | close => cases hetat

end Moves

/-! ## The deadline -/

/-- The instant of a declaration of the resolution of `i` that is answered 200. -/
def declaredAt (i : IncidentId) (db : Db) (event : Event) : Option Instant :=
  match event.op with
  | .declareResolved auth j =>
    if j = i ∧ ((declareResolved event.now auth j).run db).1.status = 200 then some event.now
    else none
  | _ => none

/-- When the resolution was last declared, kept as a history of the run. -/
def lastDeclared (i : IncidentId) (db : Db) (events : List Event) : Option Instant :=
  Lib.latest Db.step (declaredAt i) db events

section Deadline

variable {db : Db} {event : Event} {i : IncidentId} {e e' : Engagement}

/-- A declaration is not answered 200 once the incident is in validation. So
the deadline is not pushed back, and the last declaration that was answered is
the one that set it. -/
theorem declaredAt_inValidation (he : db.engagement? i = some e) (hetat : e.etat = .inValidation) :
    declaredAt i db event = none := by
  unfold declaredAt
  split
  · rename_i auth j hop
    refine if_neg ?_
    rintro ⟨rfl, hstatus⟩
    rcases declareResolved_run (Eq.refl ((declareResolved event.now auth j).run db)) with
      ⟨-, hrefused⟩ | ⟨user, incident, -, -, hinc, hguard, -, -⟩
    · omega
    · cases he.symm.trans (Db.engagement?_eq hinc)
      have hetat' : incident.etat = .inValidation := hetat
      rcases hguard with h | h <;> rw [hetat'] at h <;> cases h
  · rfl

theorem declaredAt_declares {auth : Option UserId} (hop : event.op = .declareResolved auth i)
    (he : db.engagement? i = some e) (hetat : e.etat = .taken ∨ e.etat = .resolutionPrepared)
    (he' : (db.step event).engagement? i = some e') (hetat' : e'.etat = .inValidation) :
    declaredAt i db event = some event.now := by
  have hstep : db.step event = ((declareResolved event.now auth i).run db).2 := by
    rw [Db.step, hop]
    rfl
  unfold declaredAt
  rw [hop]
  refine if_pos ⟨rfl, ?_⟩
  rcases declareResolved_run (Eq.refl ((declareResolved event.now auth i).run db)) with
    ⟨hsame, -⟩ | ⟨user, incident, -, -, -, -, hstatus, -⟩
  · rw [hstep, hsame, he] at he'
    cases he'
    rcases hetat with h | h <;> rw [hetat'] at h <;> cases h
  · exact hstatus

/-- In every run, the deadline of an incident in validation is 72 hours after
the last declaration. The induction is on the run, from its end: a step that
is no declaration keeps both sides. -/
theorem deadline_lastDeclared (hfresh : db.Fresh) (events : List Event) :
    ∀ e, (db.exec events).engagement? i = some e → e.etat = .inValidation →
      ∃ declared, lastDeclared i db events = some declared ∧
        e.validationDeadline = some (declared + hours 72) := by
  induction events using List.reverseRecOn with
  | nil =>
      intro e he hetat
      obtain ⟨incident, hinc, rfl⟩ := Db.engagement?_eq_some.mp he
      have hdeclared := (hfresh.declared i incident hinc).1
      rw [show incident.etat = .inValidation from hetat] at hdeclared
      cases hdeclared
  | append_singleton past event ih =>
      intro e' he' hetat'
      rw [Db.exec, Lib.exec_snoc] at he'
      obtain ⟨e, he, hmove⟩ := step_cases he'
      unfold lastDeclared
      rw [Lib.latest_snoc]
      rcases hmove.to_inValidation hetat' with
        ⟨hetat, hdeadline⟩ | ⟨⟨auth, hop⟩, hetat, hdeadline⟩
      · obtain ⟨declared, hlast, hsome⟩ := ih e he hetat
        rw [declaredAt_inValidation he hetat, Option.none_or, hdeadline]
        exact ⟨declared, hlast, hsome⟩
      · rw [declaredAt_declares hop he hetat he' hetat']
        exact ⟨event.now, rfl, hdeadline⟩

end Deadline

/-! ## The law over runs -/

structure DefinitiveStep (i : IncidentId) (db : Db) (past : List Event) (event : Event) :
    Prop where
  /-- A definitively resolved incident does not change its state. -/
  terminal : (db.exec past).etat? i = some .resolvedDefinitive →
    ∀ etat, (db.exec (past ++ [event])).etat? i = some etat → etat = .resolvedDefinitive
  /-- The state is entered from `in_validation`, by a super admin or late enough. -/
  entrances : (db.exec past).etat? i ≠ some .resolvedDefinitive →
    (db.exec (past ++ [event])).etat? i = some .resolvedDefinitive →
      (db.exec past).etat? i = some .inValidation ∧
        ((∃ auth user, event.op = .validateResolution auth i ∧
            (db.exec past).authenticated auth = some user ∧ isSuperAdmin user = true) ∨
          event.op = .autoValidateOverdueResolutions ∧
            ∃ declared, lastDeclared i db past = some declared ∧
              declared + hours 72 < event.now)

/-- The law of a whole run, as a law of each of its steps, after whatever has
come before it. -/
def DefinitiveLaw (i : IncidentId) (db : Db) (events : List Event) : Prop :=
  ∀ past event rest, events = past ++ event :: rest → DefinitiveStep i db past event

/-- A closure that passes the guards of `CloseIncidentView` on an incident that is
definitively resolved already. -/
def ClosesDefinitive (i : IncidentId) (db : Db) (event : Event) : Prop :=
  db.etat? i = some .resolvedDefinitive ∧
    ∃ auth user start stop, event.op = .closeIncident auth i (.value start) (.value stop) ∧
      db.authenticated auth = some user ∧ isOrgAdmin user = true ∧ db.leads user i = true ∧
      db.openTasks i = []

theorem etat?_of_closesDefinitive {db : Db} {event : Event} {i : IncidentId}
    (h : ClosesDefinitive i db event) : (db.step event).etat? i = some .resolved := by
  obtain ⟨hetat, auth, user, start, stop, hop, hauth, hadmin, hleads, htasks⟩ := h
  obtain ⟨incident, hinc, hdefinitive⟩ := Option.map_eq_some_iff.mp hetat
  have hopen : incident.etat ≠ .resolved := by rw [hdefinitive]; decide
  have hstep : db.step event =
      ((closeIncident auth i (.value start) (.value stop)).run db).2 := by
    rw [Db.step, hop]
    rfl
  rw [hstep, closeIncident_passes hauth hadmin hleads hinc hopen htasks, Db.etat?,
    Db.incidents_saveIncident]
  exact congrArg (Option.map Incident.etat) (if_pos (Table.key_of_get? hinc).symm)

/-- A step keeps the law unless it closes a definitive incident in the old
way. The parts of the law are about the state before and after the step, and
the moves of `Mapapi.Engagement` say which states follow which; the state that
the closure goes to is the only one that follows `resolved_definitive`. -/
theorem definitiveStep_iff {db : Db} {i : IncidentId} (hfresh : db.Fresh) (past : List Event)
    (event : Event) :
    DefinitiveStep i db past event ↔ ¬ ClosesDefinitive i (db.exec past) event := by
  have hsnoc : db.exec (past ++ [event]) = (db.exec past).step event := Lib.exec_snoc ..
  constructor
  · intro h hcloses
    have hafter := etat?_of_closesDefinitive hcloses
    rw [← hsnoc] at hafter
    cases h.terminal hcloses.1 _ hafter
  · intro hopen
    refine ⟨fun hbefore etat hafter => ?_, fun hbefore hafter => ?_⟩
    · rw [hsnoc] at hafter
      obtain ⟨e', he', rfl⟩ := etat?_eq_some.mp hafter
      obtain ⟨e, he, hmove⟩ := step_cases he'
      have hetat : e.etat = .resolvedDefinitive := by
        obtain ⟨e₀, he₀, hetat⟩ := etat?_eq_some.mp hbefore
        cases he.symm.trans he₀
        exact hetat
      rcases hmove.of_definitive hetat with
        h | ⟨auth, user, start, stop, hop, hauth, hadmin, hleads, htasks⟩
      · exact h
      · refine absurd ⟨hbefore, auth, user, start, stop, hop, hauth, hadmin, ?_, htasks⟩ hopen
        exact (Db.leads_iff_leads he (isOrgAdmin_iff.mp hadmin).1).mpr hleads
    · rw [hsnoc] at hafter
      obtain ⟨e', he', hetat'⟩ := etat?_eq_some.mp hafter
      obtain ⟨e, he, hmove⟩ := step_cases he'
      have hetat : e.etat ≠ .resolvedDefinitive := fun hetat =>
        hbefore (etat?_eq_some.mpr ⟨e, he, hetat⟩)
      obtain ⟨hvalidation, hwho⟩ := hmove.to_definitive hetat' hetat
      refine ⟨etat?_eq_some.mpr ⟨e, he, hvalidation⟩, hwho.imp_right ?_⟩
      rintro ⟨hop, deadline, hdeadline, hoverdue⟩
      obtain ⟨declared, hlast, hsome⟩ := deadline_lastDeclared hfresh past e he hvalidation
      rw [hdeadline] at hsome
      cases hsome
      exact ⟨hop, declared, hlast, hoverdue⟩

/-- Definitive resolution is terminal and has its two entrances only, exactly
in the runs that never close an incident that is definitively resolved. The
entrances hold in every run, by the moves; the exit is what the condition is
about. -/
theorem definitive_law_iff {db : Db} (hfresh : db.Fresh) (i : IncidentId)
    (events : List Event) :
    DefinitiveLaw i db events ↔
      Along Db.step (fun db event => ¬ ClosesDefinitive i db event) db events := by
  rw [along_iff]
  refine forall_congr' fun past => forall_congr' fun event => forall_congr' fun rest => ?_
  exact imp_congr_right fun _ => definitiveStep_iff hfresh past event

def resolutionStore : Db :=
  Db.start [{ id := 1, name := "Voirie" }, { id := 2, name := "Eaux" }]
    [.superAdmin 1 "super@map.ml", .member 2 "voirie@map.ml" .orgAdmin 1,
      .member 3 "eaux@map.ml" .orgAdmin 2]
    (.new 1 (some "Fuite") "Bamako" "01-02-2025")

/-- User 2 takes the incident in charge and declares it resolved; the super
admin validates the resolution. -/
def validatedRun : List Event :=
  [⟨0, .takeInCharge (some 2) 1 (.one .internal) .unknown⟩,
    ⟨hours 1, .declareResolved (some 2) 1⟩,
    ⟨hours 2, .validateResolution (some 1) 1⟩]

theorem definitive_law_validatedRun :
    resolutionStore.Fresh ∧ DefinitiveLaw 1 resolutionStore validatedRun := by
  have hfresh : resolutionStore.Fresh := Db.start_fresh _ _
  refine ⟨hfresh, (definitive_law_iff hfresh 1 validatedRun).mpr ?_⟩
  refine ⟨?_, ?_, ?_, trivial⟩ <;> (rintro ⟨-, _, _, _, _, hop, -⟩; cases hop)

theorem definitive_law_fails :
    resolutionStore.Fresh ∧
      ¬ DefinitiveLaw 1 resolutionStore
        (validatedRun ++ [⟨hours 3, .closeIncident (some 2) 1 (.value 0) (.value 1)⟩]) := by
  refine ⟨Db.start_fresh _ _, fun h => ?_⟩
  have hstep := h validatedRun _ [] rfl
  exact absurd (hstep.terminal (by decide) .resolved (by decide)) (by decide)

/-! ## Collaborations after the end -/

/-- An operation that lets somebody in on the incident `i`: it stores an
accepted collaboration, or turns one into an accepted one. The guards of these
operations look for `resolved`, none of them for the definitive state. -/
inductive Admits (db : Db) (now : Instant) (i : IncidentId) : Op → Prop where
  | takeLead {auth user incident} (hauth : db.authenticated auth = some user)
      (hadmin : isOrgAdmin user = true) (hinc : db.incidents.get? i = some incident)
      (hopen : incident.etat ≠ .resolved)
      (hmode : incident.takeInChargeMode ≠ some .internal)
      (hseat : db.seats i user.id = none) (hfree : incident.takenBy = none) :
      Admits db now i (.takeInCharge auth i (.one .collaborative) (.one .leader))
  | join {auth user incident role} (hauth : db.authenticated auth = some user)
      (hadmin : isOrgAdmin user = true) (hinc : db.incidents.get? i = some incident)
      (hopen : incident.etat ≠ .resolved)
      (hmode : incident.takeInChargeMode ≠ some .internal)
      (hseat : db.seats i user.id = none) (hrole : role ≠ .leader)
      (hstatus : joinStatus incident role = .accepted)
      (hkept : db.receives incident.takenBy user.id role = true) :
      Admits db now i (.takeInCharge auth i (.one .collaborative) (.one role))
  | request {auth user data valid} (hauth : db.authenticated auth = some user)
      (hoperative : isOrgOperative user = true)
      (hvalid : collaborationIsValid now data db = .ok valid) (hincident : valid.incident.id = i)
      (hseat : ∀ s, db.seats i user.id = some s → s.status ≠ .pending ∧ s.status ≠ .accepted)
      (hstatus : requestStatus valid.incident valid.role = .accepted)
      (hkept : db.receives valid.incident.takenBy user.id (valid.role.getD .contributor) = true) :
      Admits db now i (.requestCollaboration auth data)
  | accept {op auth user id c incident} (hop : op.Accepts now auth id c)
      (hanswers : Answers db auth id user c incident) (hincident : c.incident = i) :
      Admits db now i op
  | acceptSuggestion {auth user pk suggestion} (hauth : db.authenticated auth = some user)
      (hleads : db.leads user i = true)
      (hsuggestion : db.partnerSuggestions.get? pk = some suggestion)
      (habout : suggestion.incident = i) (hpending : suggestion.status = .pending)
      (hkept : suggestedSeat db suggestion ≠ none) :
      Admits db now i (.acceptSuggestion auth i pk)
  | discuss {op auth user incident} (hop : op.Discusses auth i)
      (hauth : db.authenticated auth = some user) (hsuper : isSuperAdmin user = false)
      (hinc : db.incidents.get? i = some incident)
      (henters : EntersDiscussion db incident user) : Admits db now i op

def Engagement.Closed (e : Engagement) : Prop :=
  e.etat = .resolvedDefinitive → ∀ u s, e.seat u = some s → s.status ≠ .accepted

theorem Engagement.Closed.of_etat {e : Engagement} (h : e.etat ≠ .resolvedDefinitive) : e.Closed :=
  fun hetat => absurd hetat h

theorem Engagement.Closed.setSeat {e : Engagement} (h : e.Closed) {u : UserId}
    {seat : Option Seat} (hseat : ∀ s, seat = some s → s.status ≠ .accepted) :
    (e.setSeat u seat).Closed := by
  intro hetat v s hs
  rw [Engagement.setSeat_seat] at hs
  split at hs
  · exact hseat s hs
  · exact h hetat v s hs

section Closed

variable {db : Db} {now : Instant} {i : IncidentId} {e e' : Engagement} {op : Op}

/-- The incident stays without accepted collaborations, unless somebody is let in
after the end. -/
theorem Move.closed (he : db.engagement? i = some e) (h : Move db now i e op e')
    (hclosed : e.Closed) (hlate : e.etat = .resolvedDefinitive → ¬ Admits db now i op) :
    e'.Closed := by
  obtain ⟨incident, hinc, rfl⟩ := Db.engagement?_eq_some.mp he
  cases h with
  | takeLead hauth hadmin hopen hmode hseat hfree =>
      by_cases hetat : incident.etat = .resolvedDefinitive
      · exact absurd (.takeLead hauth hadmin hinc hopen hmode hseat hfree) (hlate hetat)
      · exact .of_etat fun hetat' => hetat (Engagement.etat_of_ledBy _ (by decide) hetat')
  | join hauth hadmin hopen hmode hseat hrole =>
      intro hetat
      refine hclosed.setSeat (fun s hs haccepted => ?_) hetat
      split at hs
      · rename_i hkept
        cases hs
        exact hlate hetat (.join hauth hadmin hinc hopen hmode hseat hrole haccepted hkept)
      · cases hs
  | @request auth user data valid role hauth hoperative hvalid hincident hrole hleader hopen
      hseat =>
      subst hrole
      have hinc' := (collaborationIsValid_ok hvalid).2.1
      rw [hincident, hinc] at hinc'
      cases hinc'
      intro hetat
      refine hclosed.setSeat (fun s hs haccepted => ?_) hetat
      split at hs
      · rename_i hkept
        cases hs
        exact hlate hetat (.request hauth hoperative hvalid hincident hseat haccepted hkept)
      · cases hs
  | bulk =>
      refine hclosed.setSeat fun s hs => ?_
      cases hs
      exact nofun
  | accept hop hauth hadmin hrow hincident hseat hleads =>
      subst hincident
      intro hetat
      have hanswers : Answers db _ _ _ _ incident := ⟨hauth, hadmin, hrow, hinc,
        hleads.imp_right Db.leaderCollaborationExists_seats.mpr⟩
      exact absurd (.accept hop hanswers rfl) (hlate hetat)
  | decline =>
      refine hclosed.setSeat fun s hs => ?_
      obtain ⟨s', -, rfl⟩ := Option.map_eq_some_iff.mp hs
      exact nofun
  | acceptSuggestion hauth hleads hsuggestion habout hpending =>
      intro hetat
      refine hclosed.setSeat (fun s hs => ?_) hetat
      have hkept : suggestedSeat db _ ≠ none := Option.ne_none_iff_exists'.mpr ⟨s, hs⟩
      exact absurd (.acceptSuggestion hauth (Db.leads_of_engagement he hleads) hsuggestion habout
        hpending hkept) (hlate hetat)
  | discussInternally hop hauth hsuper hmode howner horganisation hmember =>
      intro hetat
      refine absurd ?_ (hlate hetat)
      exact .discuss hop hauth hsuper hinc
        ⟨Or.inl ⟨hmode, _, _, howner, horganisation, hmember⟩⟩
  | discussAsTaker hop hauth hsuper hmode htaken =>
      intro hetat
      refine absurd ?_ (hlate hetat)
      exact .discuss hop hauth hsuper hinc ⟨Or.inr ⟨hmode, htaken⟩⟩
  | validate | autoValidate =>
      intro _ u s hs
      obtain ⟨s', -, rfl⟩ := Option.map_eq_some_iff.mp hs
      exact s'.terminate_status
  | stay => exact hclosed
  | warn _ _ hetat =>
      exact .of_etat fun h => nomatch hetat.symm.trans h
  | disengageOffered _ _ _ hetat =>
      exact .of_etat fun h => nomatch hetat.symm.trans h
  | takeInternal | handleTaken | handleResolved | engage | tacit | prepare | returnBack
  | declareResolved | reject | disengageAlone | revert | close =>
      exact .of_etat (by rintro ⟨⟩)

end Closed

/-- No collaboration of a definitively resolved incident is accepted, in every
run that lets nobody in on it after the end. Validation ends what was
accepted, and the condition is about what comes later. -/
theorem no_accepted_after_definitive {db : Db} (hfresh : db.Fresh) (i : IncidentId)
    (events : List Event)
    (hlate : Along Db.step (fun db event =>
      ¬ (db.etat? i = some .resolvedDefinitive ∧ Admits db event.now i event.op)) db events) :
    (db.exec events).etat? i = some .resolvedDefinitive →
      ∀ u c, (db.exec events).collaboration? i u = some c → c.status ≠ .accepted := by
  have hclosed : ∀ e, (db.exec events).engagement? i = some e → e.Closed := by
    refine hlate.inv (I := fun db : Db => ∀ e, db.engagement? i = some e → e.Closed) ?_ ?_
    · intro db event h hlate e' he'
      obtain ⟨e, he, hmove⟩ := step_cases he'
      refine hmove.closed he (h e he) fun hetat hadmits => ?_
      exact hlate ⟨etat?_eq_some.mpr ⟨e, he, hetat⟩, hadmits⟩
    · intro e he
      obtain ⟨incident, hinc, rfl⟩ := Db.engagement?_eq_some.mp he
      have hdeclared : incident.etat = .declared := (hfresh.declared i incident hinc).1
      exact .of_etat fun hetat => nomatch hdeclared.symm.trans hetat
  intro hetat u c hc
  obtain ⟨e, he, hdefinitive⟩ := etat?_eq_some.mp hetat
  obtain ⟨incident, -, rfl⟩ := Db.engagement?_eq_some.mp he
  exact hclosed _ he hdefinitive u c.seat (congrArg (Option.map Collaboration.seat) hc)

def unansweredRun : List Event :=
  [⟨0, .takeInCharge (some 2) 1 (.one .collaborative) (.one .leader)⟩,
    ⟨hours 1, .requestCollaboration (some 3)
      { incident := .value 1, role := .value .contributor, endDate := .absent
        motivation := .absent, otherOption := .absent }⟩,
    ⟨hours 2, .declareResolved (some 2) 1⟩,
    ⟨hours 3, .validateResolution (some 1) 1⟩]

theorem no_accepted_unansweredRun :
    (resolutionStore.exec unansweredRun).etat? 1 = some .resolvedDefinitive ∧
      ∀ u c, (resolutionStore.exec unansweredRun).collaboration? 1 u = some c →
        c.status ≠ .accepted := by
  have hetat : (resolutionStore.exec unansweredRun).etat? 1 = some .resolvedDefinitive := by
    decide +kernel
  refine ⟨hetat, no_accepted_after_definitive (Db.start_fresh _ _) 1 unansweredRun ?_ hetat⟩
  exact ⟨fun h => absurd h.1 (by decide), fun h => absurd h.1 (by decide),
    fun h => absurd h.1 (by decide), fun h => absurd h.1 (by decide), trivial⟩

/-- The leader answers the request when the incident is definitively resolved. -/
theorem accepted_after_definitive :
    resolutionStore.Fresh ∧
      (resolutionStore.exec (unansweredRun ++
        [⟨hours 4, .handleCollaboration (some 2) 2 (some .accept)⟩])).etat? 1 =
          some .resolvedDefinitive ∧
      ((resolutionStore.exec (unansweredRun ++
        [⟨hours 4, .handleCollaboration (some 2) 2 (some .accept)⟩])).collaboration? 1 3).map
          Collaboration.status = some .accepted := by
  exact ⟨Db.start_fresh _ _, by decide +kernel, by decide +kernel⟩

end Mapapi
