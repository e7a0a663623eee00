import Mapapi.Resolution

/-!
# The generic update of an incident

`IncidentAPIView.put`, which anybody may call. `IncidentSerializer` exposes
every column but `progress`; beyond the types of the fields it only checks
that an incident becomes, or stays, `resolved` with its dates in order and no
open task. The view then saves the row, and looks at `etat` in the body to
mail the user who has reported the incident.

A column that the body leaves out keeps its value. The empty text that the
choice `take_in_charge_mode` accepts besides null counts as null.

The update is one of the few views with something to do after its save: it
mails the reporter when the body names a state, and nobody catches the error
of a mail server. So an update can be stored and answered 500
(`IncidentData.failsLate`).
-/

namespace Mapapi

open Lib

/-! ## IncidentSerializer -/

/-- The fields a client may write. Those of columns that are left out only show
in the errors they cause (`otherErrors`). -/
structure IncidentData where
  title : Arg String
  zone : Arg String
  userId : Arg UserId
  etat : Arg Etat
  takenBy : Arg UserId
  takeInChargeMode : Arg TakeInChargeMode
  takenInChargeAt : Arg Instant
  severity : Arg Severity
  antigelWarned75 : Arg Bool
  antigelWarned90 : Arg Bool
  resolutionStartDate : Arg Date
  resolutionEndDate : Arg Date
  resolutionSubmittedBy : Arg UserId
  resolutionSubmittedAt : Arg Instant
  validationDeadline : Arg Instant
  rejectionReason : Arg String
  isDeleted : Arg Bool
  deletedAt : Arg Instant
  otherErrors : List FieldError
  deriving DecidableEq

def severityProblem : Arg Severity → Option FieldProblem
  | .absent | .null => none
  | .invalid => some .invalid
  | .value (.unknown s) => if s = "" then none else some .invalid
  | .value _ => none

/-- The writable fields of the serializer. State, responsibility and the
instants of the trash are among them: nothing marks them read-only. -/
def incidentFieldErrors (data : IncidentData) (db : Db) : List FieldError :=
  fieldErrors
    [("title", nullableProblem 250 data.title.stripped),
      ("zone", textProblem false 250 data.zone.stripped),
      ("user_id", userProblem db data.userId),
      ("etat", defaultProblem data.etat),
      ("taken_by", userProblem db data.takenBy),
      ("take_in_charge_mode", parsedProblem data.takeInChargeMode),
      ("taken_in_charge_at", parsedProblem data.takenInChargeAt),
      ("severity", severityProblem data.severity),
      ("antigel_warned_75", flagProblem data.antigelWarned75),
      ("antigel_warned_90", flagProblem data.antigelWarned90),
      ("resolution_start_date", parsedProblem data.resolutionStartDate),
      ("resolution_end_date", parsedProblem data.resolutionEndDate),
      ("resolution_submitted_by", userProblem db data.resolutionSubmittedBy),
      ("resolution_submitted_at", parsedProblem data.resolutionSubmittedAt),
      ("validation_deadline", parsedProblem data.validationDeadline),
      ("rejection_reason", parsedProblem data.rejectionReason),
      ("is_deleted", flagProblem data.isDeleted),
      ("deleted_at", parsedProblem data.deletedAt)] ++ data.otherErrors

/-- The row as it would be stored: what was sent, over what the view has read.
The view then saves every column, so what another request has changed since
the read goes. -/
def IncidentData.over (incident : Incident) (data : IncidentData) : Incident :=
  { incident with
    title := data.title.stripped.overNullable incident.title
    zone := data.zone.stripped.over incident.zone
    userId := data.userId.overNullable incident.userId
    etat := data.etat.over incident.etat
    takenBy := data.takenBy.overNullable incident.takenBy
    takeInChargeMode := data.takeInChargeMode.overNullable incident.takeInChargeMode
    takenInChargeAt := data.takenInChargeAt.overNullable incident.takenInChargeAt
    severity := data.severity.overNullable incident.severity
    antigelWarned75 := data.antigelWarned75.over incident.antigelWarned75
    antigelWarned90 := data.antigelWarned90.over incident.antigelWarned90
    resolutionStartDate := data.resolutionStartDate.overNullable incident.resolutionStartDate
    resolutionEndDate := data.resolutionEndDate.overNullable incident.resolutionEndDate
    resolutionSubmittedBy :=
      data.resolutionSubmittedBy.overNullable incident.resolutionSubmittedBy
    resolutionSubmittedAt :=
      data.resolutionSubmittedAt.overNullable incident.resolutionSubmittedAt
    validationDeadline := data.validationDeadline.overNullable incident.validationDeadline
    rejectionReason := data.rejectionReason.stripped.overNullable incident.rejectionReason
    isDeleted := data.isDeleted.over incident.isDeleted
    deletedAt := data.deletedAt.overNullable incident.deletedAt }

/-- `IncidentSerializer.validate`, on the row as it would be stored. It asks
for the dates and the tasks only when that row is `resolved`, whether the
request closes the incident or finds it closed. -/
def validateIncident (openTasks : List IncidentTask) (incident : Incident) : Option String :=
  if incident.etat = .resolved then
    match incident.resolutionStartDate, incident.resolutionEndDate with
    | some start, some stop =>
      if stop < start then
        some "resolution_start_date doit être antérieure ou égale à resolution_end_date."
      else if !openTasks.isEmpty then
        some ("Impossible de clôturer : " ++ toString openTasks.length ++
          " tâche(s) non terminée(s).")
      else none
    | _, _ => some "La clôture d'un incident exige resolution_start_date et resolution_end_date."
  else none

/-! ## IncidentAPIView.put -/

/-- A view without permission classes serves anonymous requests, and still
refuses a bad token. -/
def allowAnonymous (auth : Option UserId) (view : View) : View :=
  match auth with
  | none => view
  | some _ => authenticate auth fun _ => view

/-- The mail to the user who has reported an incident raises: there is no such
user, or the mail server refuses (`mailSent`). Without an address nothing is
sent. -/
def Db.mailRaises (db : Db) (reporter : Option UserId) (mailSent : Bool) : Bool :=
  reporter.any fun u => (db.users.get? u).all fun user => decide (user.email ≠ "") && !mailSent

/-- Mail the user who has reported the incident, and answer. -/
def mailReporter (incident : Incident) (mailSent : Bool) (reply : Response) : View := do
  if ← Prog.read fun db => db.mailRaises incident.userId mailSent then pure .crash
  else pure reply

/-- `IncidentAPIView.put`. The checks of the serializer are two reads and the
save is one action; the answer may still be an error after it, when `etat` is
missing from the body or the mail cannot be sent. -/
def putIncident (auth : Option UserId) (i : IncidentId) (data : IncidentData)
    (mailSent : Bool) : View :=
  allowAnonymous auth <|
  getIncident i "" fun incident => do
  let errors ← Prog.read (incidentFieldErrors data)
  refuseIf (!errors.isEmpty) (.invalid errors) do
  let incident' := data.over incident
  let openTasks ← Prog.read fun db => db.openTasks i
  match validateIncident openTasks incident' with
  | some message => pure (.invalid [{ field := "non_field_errors", problem := .text message }])
  | none => do
    Prog.modify (Db.saveIncident incident')
    answer incident' (.ok 200 (.incident none incident'.pinProgress))
where
  /-- What follows the save looks at `etat` in the body, which must be there. -/
  answer (incident : Incident) (reply : Response) : View :=
    match data.etat with
    | .value .resolved | .value .inProgress => mailReporter incident mailSent reply
    | .value _ => pure reply
    | _ => pure .crash

/-! ## What the request does -/

variable {db : Db} {auth : Option UserId} {i : IncidentId} {data : IncidentData}
  {mailSent : Bool} {incident : Incident} {out : Response × Db}

/-- No credentials are accepted and wrong ones are not: the endpoint is open,
but a token that does not count is refused. -/
def Db.admits (db : Db) (auth : Option UserId) : Prop :=
  auth = none ∨ (db.authenticated auth).isSome

/-- The serializer accepts the data: the token is good or there is none, the
fields have no errors, and the row as it would be stored may be closed if it
is `resolved`. -/
structure IncidentData.Accepted (data : IncidentData) (db : Db) (auth : Option UserId)
    (incident : Incident) : Prop where
  admitted : db.admits auth
  fields : incidentFieldErrors data db = []
  closing : validateIncident (db.openTasks incident.id) (data.over incident) = none

/-- The view raises after it has saved the row. -/
def IncidentData.failsLate (data : IncidentData) (db : Db) (incident : Incident)
    (mailSent : Bool) : Bool :=
  match data.etat with
  | .value .resolved | .value .inProgress =>
    db.mailRaises (data.userId.overNullable incident.userId) mailSent
  | .value _ => false
  | _ => true

theorem allowAnonymous_run {view : View} (h : (allowAnonymous auth view).run db = out) :
    Refused db out ∧ ¬ db.admits auth ∨ db.admits auth ∧ view.run db = out := by
  cases auth with
  | none => exact Or.inr ⟨Or.inl rfl, h⟩
  | some u =>
      cases hauth : db.authenticated (some u) with
      | none =>
          have hbad : ¬ db.admits (some u) := by
            rintro (h | h)
            · cases h
            · rw [hauth] at h
              cases h
          unfold allowAnonymous authenticate at h
          rw [Prog.run_bind, Prog.run_read, hauth] at h
          exact Or.inl ⟨pure_run (by decide) h, hbad⟩
      | some user =>
          unfold allowAnonymous at h
          rw [authenticate_passes hauth] at h
          exact Or.inr ⟨Or.inr (by rw [hauth]; rfl), h⟩

theorem mailReporter_run {reply : Response} :
    (mailReporter incident mailSent reply).run db =
      (if db.mailRaises incident.userId mailSent then .crash else reply, db) := by
  unfold mailReporter
  rw [Prog.run_bind, Prog.run_read, Prog.run_ite]
  split <;> rfl

theorem answerPut_run :
    (putIncident.answer data mailSent (data.over incident)
      (.ok 200 (.incident none (data.over incident).pinProgress))).run
        (db.saveIncident (data.over incident)) =
      (if data.failsLate db incident mailSent then .crash
        else .ok 200 (.incident none (data.over incident).pinProgress),
        db.saveIncident (data.over incident)) := by
  have hraises : (db.saveIncident (data.over incident)).mailRaises
      (data.over incident).userId mailSent =
        db.mailRaises (data.userId.overNullable incident.userId) mailSent := rfl
  unfold putIncident.answer IncidentData.failsLate
  cases data.etat with
  | value etat => cases etat <;> first | rfl | rw [mailReporter_run, hraises]
  | absent => rfl
  | null => rfl
  | invalid => rfl

/-- The request is refused, or the row is saved; then the answer may still be
an error. -/
theorem putIncident_run (h : (putIncident auth i data mailSent).run db = out) :
    (Refused db out ∧
        ¬ ∃ incident, db.incidents.get? i = some incident ∧ data.Accepted db auth incident) ∨
      ∃ incident, db.incidents.get? i = some incident ∧ data.Accepted db auth incident ∧
        out = (if data.failsLate db incident mailSent then .crash
          else .ok 200 (.incident none (data.over incident).pinProgress),
          db.saveIncident (data.over incident)) := by
  unfold putIncident at h
  rcases allowAnonymous_run h with ⟨h, hbad⟩ | ⟨hgood, h⟩
  · exact Or.inl ⟨h, fun ⟨incident, _, hok⟩ => hbad hok.admitted⟩
  cases hinc : db.incidents.get? i with
  | none =>
      unfold getIncident at h
      rw [Prog.run_bind, Prog.run_read, hinc] at h
      refine Or.inl ⟨pure_run (by decide) h, ?_⟩
      rintro ⟨incident, hsome, -⟩
      cases hsome
  | some incident =>
      have hid : incident.id = i := Table.key_of_get? hinc
      subst hid
      rw [getIncident_passes hinc, Prog.run_bind, Prog.run_read] at h
      have hall {P : Incident → Prop} : (∃ inc, some incident = some inc ∧ P inc) → P incident := by
        rintro ⟨inc, heq, hP⟩
        exact Option.some.inj heq ▸ hP
      cases hfields : incidentFieldErrors data db with
      | cons error rest =>
          rw [hfields] at h
          refine Or.inl ⟨pure_run (Nat.le_refl _) h, fun hex => ?_⟩
          rw [(hall hex).fields] at hfields
          cases hfields
      | nil =>
          rw [hfields] at h
          change ((Prog.read fun db => db.openTasks incident.id) >>= _).run db = out at h
          rw [Prog.run_bind, Prog.run_read] at h
          cases hclosing : validateIncident (db.openTasks incident.id) (data.over incident) with
          | some message =>
              dsimp only at h
              rw [hclosing] at h
              refine Or.inl ⟨pure_run (Nat.le_refl _) h, fun hex => ?_⟩
              rw [(hall hex).closing] at hclosing
              cases hclosing
          | none =>
              dsimp only at h
              rw [hclosing] at h
              refine Or.inr ⟨incident, rfl, ⟨hgood, hfields, hclosing⟩, ?_⟩
              rw [Prog.run_bind, Prog.run_modify] at h
              exact h.symm.trans answerPut_run

end Mapapi
