import Mapapi.IncidentPut
import Mapapi.Server
import Mapapi.TaskWrites

/-!
# The workflow and the generic update

The endpoints of `Resolution.lean` move an incident along the edges of a
workflow, and keep the engagement columns in step with the state. The generic
update does neither: it stores what the body says, from any state to any
other, and only looks at what an incident needs to be `resolved`. The one
column it does not take from the body is the progress.

Anybody may send it, signed in or not, and for a client that does so the
workflow does not exist. What can still be promised is what
`IncidentSerializer` checks on the row as it would be stored;
`putIncident_law` is the whole of it.
-/

namespace Mapapi

open Lib

/-! ## The workflow -/

/-- The states that the workflow leads to from a state. The legacy `resolved`
is reached by the closure, which is meant for incidents that are taken into
account. -/
def Etat.next : Etat → List Etat
  | declared => [taken]
  | taken => [resolutionPrepared, inValidation, declared, resolved]
  | resolutionPrepared => [taken, inValidation]
  | inValidation => [resolvedDefinitive, taken]
  | resolved | resolvedDefinitive | inProgress => []

/-- The columns of the engagement agree with the state: nobody is in charge of
a declared incident, somebody of a taken one. -/
structure Incident.EngagementFits (incident : Incident) : Prop where
  declared : incident.etat = .declared → incident.takenBy = none ∧ incident.takenInChargeAt = none
  taken : incident.etat = .taken →
    incident.takenBy.isSome = true ∧ incident.takenInChargeAt.isSome = true

/-- A request on `i` respects the workflow: a change of state that does not
involve the legacy `in_progress` follows an edge, and a success leaves the
engagement and the progress as they should be. -/
structure RespectsWorkflow (db : Db) (i : IncidentId) (out : Response × Db) : Prop where
  edge : ∀ before after, db.incidents.get? i = some before →
    out.2.incidents.get? i = some after → before.etat ≠ after.etat →
    before.etat ≠ .inProgress → after.etat ≠ .inProgress → after.etat ∈ before.etat.next
  engagement : out.1.status = 200 → ∀ after, out.2.incidents.get? i = some after →
    after.EngagementFits
  progress : out.1.status = 200 → ∀ after, out.2.incidents.get? i = some after →
    out.2.ProgressRight after

/-! ## What the generic update stores -/

variable {db db' : Db} {auth : Option UserId} {i : IncidentId} {data : IncidentData}
  {mailSent : Bool} {incident : Incident} {out : Response × Db}

/-- Everything that the serializer checks about an incident to be closed. -/
theorem validateIncident_eq_none {openTasks : List IncidentTask}
    (h : validateIncident openTasks incident = none) (hetat : incident.etat = .resolved) :
    ∃ start stop, incident.resolutionStartDate = some start ∧
      incident.resolutionEndDate = some stop ∧ start ≤ stop ∧ openTasks = [] := by
  unfold validateIncident at h
  rw [if_pos hetat] at h
  cases hstart : incident.resolutionStartDate with
  | none =>
      rw [hstart] at h
      cases h
  | some start =>
      cases hstop : incident.resolutionEndDate with
      | none =>
          rw [hstart, hstop] at h
          cases h
      | some stop =>
          rw [hstart, hstop] at h
          dsimp only at h
          split at h
          · cases h
          · rename_i horder
            split at h
            · cases h
            · rename_i htasks
              exact ⟨start, stop, rfl, rfl, Int.not_lt.mp horder, by simpa using htasks⟩

/-- What an update that stores a row leaves: the body over the row, with the
progress that a finished incident has; every other incident and every task as
it was; and, for an incident that is closed afterwards, what the serializer
has asked for. -/
structure PutStored (db : Db) (i : IncidentId) (data : IncidentData) (before : Incident)
    (db' : Db) : Prop where
  found : db.incidents.get? i = some before
  row : db'.incidents.get? i = some (data.over before).pinProgress
  others : ∀ j, j ≠ i → db'.incidents.get? j = db.incidents.get? j
  tasks : db'.tasks = db.tasks
  closing : (data.over before).etat = .resolved →
    ∃ start stop, (data.over before).resolutionStartDate = some start ∧
      (data.over before).resolutionEndDate = some stop ∧ start ≤ stop ∧ db.openTasks i = []

theorem putIncident_stores (h : (putIncident auth i data mailSent).run db = out) :
    Refused db out ∨ ∃ before, PutStored db i data before out.2 := by
  rcases putIncident_run h with ⟨h, -⟩ | ⟨incident, hinc, haccepted, rfl⟩
  · exact Or.inl h
  have hid : incident.id = i := Table.key_of_get? hinc
  refine Or.inr ⟨incident, hinc, ?_, fun j hj => ?_, rfl, fun hetat => ?_⟩
  · exact (Db.incidents_saveIncident ..).trans (if_pos hid.symm)
  · exact (Db.incidents_saveIncident ..).trans (if_neg fun hj' => hj (hj'.trans hid))
  · exact hid ▸ validateIncident_eq_none haccepted.closing hetat

/-! ## What holds of it -/

/-- The generic update stores the body over the row, whatever the two states
are. Only an incident with dates in order and no open task can be `resolved`
afterwards. The engagement still fits when the body changes neither the state
nor the engagement, and the progress is still right unless the body reopens a
finished incident. -/
theorem putIncident_law (db : Db) (auth : Option UserId) (i : IncidentId) (data : IncidentData)
    (mailSent : Bool) :
    Refused db ((putIncident auth i data mailSent).run db) ∨
      ∃ before, PutStored db i data before ((putIncident auth i data mailSent).run db).2 ∧
        ((data.over before).etat = before.etat → (data.over before).takenBy = before.takenBy →
          (data.over before).takenInChargeAt = before.takenInChargeAt →
          before.EngagementFits → (data.over before).pinProgress.EngagementFits) ∧
        ((data.over before).isFinished = true ∨
            before.isFinished = false ∧ db.ProgressRight before →
          ((putIncident auth i data mailSent).run db).2.ProgressRight
            (data.over before).pinProgress) := by
  rcases putIncident_stores rfl with h | ⟨before, hstored⟩
  · exact Or.inl h
  refine Or.inr ⟨before, hstored, fun hetat htaken hsince hfits => ?_, ?_⟩
  · have hrow : (data.over before).pinProgress.etat = before.etat ∧
        (data.over before).pinProgress.takenBy = before.takenBy ∧
        (data.over before).pinProgress.takenInChargeAt = before.takenInChargeAt := by
      unfold Incident.pinProgress
      split <;> exact ⟨hetat, htaken, hsince⟩
    constructor
    · rw [hrow.1, hrow.2.1, hrow.2.2]
      exact hfits.declared
    · rw [hrow.1, hrow.2.1, hrow.2.2]
      exact hfits.taken
  · intro hkept
    by_cases hfin : (data.over before).isFinished = true
    · exact Db.progressRight_pinProgress hfin
    · obtain ⟨hopen, hright⟩ := hkept.resolve_left hfin
      have hopen' : (data.over before).isFinished = false := by simpa using hfin
      rw [Incident.pinProgress_open hopen']
      calc (data.over before).progress
          = before.progress := rfl
        _ = db.computedProgress before := hright
        _ = ((putIncident auth i data mailSent).run db).2.computedProgress (data.over before) :=
            (Db.computedProgress_congr hstored.tasks
              (show (data.over before).id = before.id from rfl) (hopen'.trans hopen.symm)).symm

/-! ## Outside the workflow -/

def IncidentData.only (zone : String) (etat : Etat) : IncidentData :=
  { title := .absent, zone := .value zone, userId := .absent, etat := .value etat
    takenBy := .absent, takeInChargeMode := .absent, takenInChargeAt := .absent
    severity := .absent, antigelWarned75 := .absent, antigelWarned90 := .absent
    resolutionStartDate := .absent, resolutionEndDate := .absent
    resolutionSubmittedBy := .absent, resolutionSubmittedAt := .absent
    validationDeadline := .absent, rejectionReason := .absent, isDeleted := .absent
    deletedAt := .absent, otherErrors := [] }

/-- The smallest body that moves a state: the zone, which is required, and the
state. -/
def Db.putEtat (etat : Etat) (db : Db) : Response × Db :=
  (putIncident none 1 (.only "Bamako" etat) true).run db

/-- A client that is not signed in ends a declared incident, takes one without
an engagement, and gives a finished one another state at 100 %. Each is one
accepted request. -/
theorem put_leaves_workflow :
    ∃ db : Db, db.Fresh ∧
      ¬ RespectsWorkflow db 1 (db.putEtat .resolvedDefinitive) ∧
      ¬ RespectsWorkflow db 1 (db.putEtat .taken) ∧
      ¬ RespectsWorkflow (db.putEtat .resolvedDefinitive).2 1
        ((db.putEtat .resolvedDefinitive).2.putEtat .inProgress) := by
  refine ⟨Db.start [] [] (.new 1 none "Bamako" "01-01-2025"), Db.start_fresh _ _, fun h => ?_,
    fun h => ?_, fun h => ?_⟩
  · have hedge := h.edge _ _ rfl rfl (by decide) (by decide) (by decide)
    revert hedge
    decide
  · have hengaged := ((h.engagement rfl _ rfl).taken rfl).1
    revert hengaged
    decide
  · have hprogress := h.progress rfl _ rfl
    revert hprogress
    decide

end Mapapi
