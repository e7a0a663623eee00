import Mapapi.Collaborations
import Mapapi.IncidentPut
import Mapapi.Server

/-!
# Requests that fail

A request that is answered with an error should have changed nothing.
Requests do not run in a transaction, so this holds when a view checks
everything before its first write. `TakeInChargeView`, `HandleIncidentView`,
`DeclineCollaborationView` and the update of an incident do not: after their
writes they store a text that may be too long for its column, queue a mail, or
read a key of the body that may be missing.

`CleanFailure` is followed through the guards of a view (a guard refuses
before anything is written) to the writes, where what can still fail decides.
-/

namespace Mapapi

open Lib

/-! ## The requests -/

/-- `DeclineCollaborationView.post` when the mail queue takes the mail to the
requester (`queued`), or refuses it: the view catches the error and answers
500. -/
def declineQueuing (queued : Bool) (auth : Option UserId) (id : RawId) : View :=
  authenticate auth fun user =>
  permit (isOrgAdmin user) isOrgAdminMessage <|
  match id with
  | .absent => pure (.error 404 "Collaboration non trouvée")
  | .malformed => pure .crash
  | .uuid id => do
    match ← Prog.read fun db => db.collaborationById? id with
    | none => pure (.error 404 "Collaboration non trouvée")
    | some c =>
      answersFor user c "Seul le leader de l'incident peut décliner une collaboration."
        fun incident => do
      Prog.modify (Db.saveCollaboration { c with status := .declined })
      refuseIf (!queued) .crash <|
        if (declineMessage incident).length ≤ maxTextLength then
          pure (.ok 200 (.text "Collaboration déclinée et notification supprimée."))
        else pure .crash

/-- With a working mail queue this is the endpoint as it was. -/
theorem declineQueuing_true (auth : Option UserId) (id : RawId) :
    declineQueuing true auth id = declineCollaboration auth id := rfl

/-- The four kinds of requests with something after their save that can fail:
the log, the queue of mails, the state that the body has to name. -/
inductive LifecycleRequest where
  | take (now : Instant) (auth : Option UserId) (i : IncidentId)
      (mode : Choice TakeInChargeMode) (role : Choice CollabRole)
  | handle (auth : Option UserId) (i : IncidentId) (action : Option HandleAction)
  | decline (queued : Bool) (auth : Option UserId) (id : RawId)
  | put (auth : Option UserId) (i : IncidentId) (data : IncidentData) (mailSent : Bool)

def LifecycleRequest.view : LifecycleRequest → View
  | take now auth i mode role => takeInCharge now auth i mode role
  | handle auth i action => handleIncident auth i action
  | decline queued auth id => declineQueuing queued auth id
  | put auth i data mailSent => putIncident auth i data mailSent

/-! ## Clean failures -/

structure SameTables (db db' : Db) : Prop where
  incidents : db'.incidents = db.incidents
  collaborations : db'.collaborations = db.collaborations
  notifications : db'.notifications = db.notifications
  userActions : db'.userActions = db.userActions

/-- A request that fails has changed nothing. -/
def CleanFailure (db : Db) (out : Response × Db) : Prop :=
  400 ≤ out.1.status → SameTables db out.2

section Guards

variable {db db' : Db} {auth : Option UserId} {i : IncidentId} {user : User}
  {response : Response} {out : Response × Db}

theorem SameTables.refl : SameTables db db := ⟨rfl, rfl, rfl, rfl⟩

theorem cleanFailure_pure : CleanFailure db ((pure response : View).run db) :=
  fun _ => SameTables.refl

theorem cleanFailure_ok (h : out.1.status < 400) : CleanFailure db out :=
  fun hfail => absurd h (Nat.not_lt.mpr hfail)

theorem cleanFailure_authenticate {view : User → View} :
    CleanFailure db ((authenticate auth view).run db) ↔
      ∀ user, db.authenticated auth = some user → CleanFailure db ((view user).run db) := by
  cases hauth : db.authenticated auth with
  | none =>
      unfold authenticate
      rw [Prog.run_bind, Prog.run_read, hauth]
      exact ⟨fun _ _ h => (nomatch h), fun _ => cleanFailure_pure⟩
  | some user =>
      rw [authenticate_passes hauth]
      exact ⟨fun h user' heq => Option.some.inj heq ▸ h, fun h => h user rfl⟩

theorem cleanFailure_permit {allowed : Bool} {message : String} {view : View} :
    CleanFailure db ((permit allowed message view).run db) ↔
      (allowed = true → CleanFailure db (view.run db)) := by
  cases allowed with
  | false => exact ⟨fun _ h => (nomatch h), fun _ => cleanFailure_pure⟩
  | true => exact ⟨fun h _ => h, fun h => h rfl⟩

theorem cleanFailure_getIncident {notFound : String} {view : Incident → View} :
    CleanFailure db ((getIncident i notFound view).run db) ↔
      ∀ incident, db.incidents.get? i = some incident →
        CleanFailure db ((view incident).run db) := by
  cases hinc : db.incidents.get? i with
  | none =>
      unfold getIncident
      rw [Prog.run_bind, Prog.run_read, hinc]
      exact ⟨fun _ _ h => (nomatch h), fun _ => cleanFailure_pure⟩
  | some incident =>
      rw [getIncident_passes hinc]
      exact ⟨fun h incident' heq => Option.some.inj heq ▸ h, fun h => h incident rfl⟩

theorem cleanFailure_refuseIf {refuse : Bool} {view : View} :
    CleanFailure db ((refuseIf refuse response view).run db) ↔
      (refuse = false → CleanFailure db (view.run db)) := by
  cases refuse with
  | true => exact ⟨fun _ h => (nomatch h), fun _ => cleanFailure_pure⟩
  | false => exact ⟨fun h _ => h, fun h => h rfl⟩

/-- After a write, a log entry that does not fit its column is what fails. -/
theorem cleanFailure_createUserAction {v : UserId} {text : String} {view : UserAction → View}
    (hchanged : ¬ SameTables db db')
    (hok : ∀ action db, ((view action).run db).1.status < 400) :
    CleanFailure db ((createUserAction v text view).run db') ↔
      text.length ≤ maxTextLength := by
  unfold createUserAction
  rw [Prog.run_ite]
  split
  · rename_i hfits
    rw [Prog.run_bind]
    exact ⟨fun _ => hfits, fun _ => cleanFailure_ok (hok _ _)⟩
  · rename_i hlong
    refine ⟨fun h => absurd (h ?_) hchanged, fun hfits => absurd hfits hlong⟩
    exact Nat.le_of_ble_eq_true rfl

end Guards

/-! ## Taking in charge -/

def internalMessage (incident : Incident) : String :=
  "a pris en charge l'incident «" ++ printed incident.title ++ "» en mode interne."

def leaderMessage (incident : Incident) : String :=
  "a pris en charge l'incident «" ++ printed incident.title ++
    "» en tant que leader (mode collaboratif)."

def joinMessage (incident : Incident) (role : CollabRole) : String :=
  "a rejoint l'incident «" ++ printed incident.title ++ "» en tant que " ++ role.french ++ "."

/-- The text goes into a column of the log. Titles are part of it, so a long
title is what makes it fail. -/
def Fits (text : String) : Prop := text.length ≤ maxTextLength

section Take

variable {db db' : Db} {now : Instant} {auth : Option UserId} {i : IncidentId} {user : User}
  {incident row : Incident} {c : Collaboration} {out : Response × Db}

theorem not_sameTables_row (hinc : db.incidents.get? i = some incident)
    (hrow : db'.incidents.get? i = some row) (hne : row ≠ incident) : ¬ SameTables db db' := by
  intro h
  rw [h.incidents, hinc] at hrow
  exact hne (Option.some.inj hrow).symm

theorem takeInternal_clean (huser : db.users.get? user.id = some user)
    (hinc : db.incidents.get? incident.id = some incident) :
    CleanFailure db ((takeInternal now user incident).run db) ↔
      (incident.takenBy = none → incident.takeInChargeMode = none → incident.etat = .declared →
        Fits (internalMessage incident)) := by
  unfold takeInternal
  rw [cleanFailure_refuseIf, cleanFailure_refuseIf]
  simp only [Prog.run_bind, Prog.run_modify, decide_eq_false_iff_not, not_or, not_not]
  set db1 := db.saveIncidentFields (incident.engagedBy user.id .internal now)
    [.takenBy, .etat, .takeInChargeMode, .takenInChargeAt, .antigelWarned75, .antigelWarned90]
    with hdb1
  have htaken : (db1.user? (incident.engagedBy user.id .internal now).takenBy).isSome :=
    Option.isSome_iff_exists.mpr ⟨user, huser⟩
  generalize hget : (getOrCreateCollaboration (incident.engagedBy user.id .internal now)
    (Db.newCollaboration incident.id user.id .leader .accepted)).run db1 = result
  obtain ⟨result, db2⟩ := result
  obtain ⟨collaboration, created, rfl, -, -, -, hset⟩ := Db.getOrCreateLeader_run
    (incident.engagedBy user.id .internal now) htaken hget
  have hrow : db2.incidents.get? incident.id =
      some (incident.engagedBy user.id .internal now).pinProgress := by
    rw [hset.rows.incidents, hdb1]
    exact Db.row_saveIncidentFields hinc rfl write_engagedBy
  rw [and_imp]
  refine imp_congr_right fun _ => imp_congr_right fun _ => imp_congr_right fun hetat => ?_
  refine cleanFailure_createUserAction (not_sameTables_row hinc hrow fun heq => ?_) fun _ _ =>
    Nat.le_of_ble_eq_true rfl
  rw [← heq, Incident.pinProgress_etat] at hetat
  cases hetat

theorem takeLeader_clean (hinc : db.incidents.get? incident.id = some incident)
    (hnone : db.collaboration? incident.id user.id = none) :
    CleanFailure db ((takeLeader now user incident).run db) ↔
      (incident.takenBy = none → Fits (leaderMessage incident)) := by
  unfold takeLeader
  rw [cleanFailure_refuseIf]
  simp only [Prog.run_bind, Prog.run_modify, Prog.run_atomic, decide_eq_false_iff_not, not_not]
  refine imp_congr_right fun hfree => ?_
  set db1 := db.saveIncidentFields (incident.ledBy user.id now) incident.ledColumns with hdb1
  obtain ⟨row, db2, hcreate, -, hset⟩ := Db.createNew
    (incident.ledBy user.id now) .leader .accepted (show db1.collaboration? _ _ = none from hnone)
  have htaken : (incident.ledBy user.id now).takenBy = some user.id := by
    unfold Incident.ledBy
    split <;> rfl
  have hrow : db2.incidents.get? incident.id =
      some (incident.ledBy user.id now).pinProgress := by
    rw [hset.rows.incidents, hdb1]
    exact Db.row_saveIncidentFields hinc (ledBy_id ..) write_ledBy
  simp only [hcreate, Prog.run_bind, Prog.run_atomic]
  refine cleanFailure_createUserAction (not_sameTables_row hinc hrow fun heq => ?_) fun _ _ =>
    Nat.le_of_ble_eq_true rfl
  rw [← heq, Incident.pinProgress_takenBy, htaken] at hfree
  cases hfree

theorem userActions_insertCollaboration (db : Db) (incident : Incident) (c : Collaboration) :
    ∃ action, (db.insertCollaboration incident c).2.userActions = db.userActions ++ [action] := by
  unfold Db.insertCollaboration Db.notifyOrganisationOnCollaboration
  dsimp only
  split
  · split
    · exact ⟨_, rfl⟩
    · split
      · split <;> exact ⟨_, rfl⟩
      · exact ⟨_, rfl⟩
  · exact ⟨_, rfl⟩

theorem createCollaboration_logged (incident : Incident)
    (hfree : db.collaboration? c.incident c.user = none) :
    ∃ row db2 action, db.createCollaboration incident c = (some row, db2) ∧
      db2.userActions = db.userActions ++ [action] := by
  obtain ⟨action, haction⟩ := userActions_insertCollaboration db incident
    { c with id := db.freshCollaborationId }
  refine ⟨{ c with id := db.freshCollaborationId }, _, action, ?_, haction⟩
  rw [Db.createCollaboration, hfree]
  rfl

theorem takeJoin_clean {role : CollabRole} (hnone : db.collaboration? incident.id user.id = none) :
    CleanFailure db ((takeJoin user incident role).run db) ↔ Fits (joinMessage incident role) := by
  obtain ⟨row, db2, action, hcreate, haction⟩ := createCollaboration_logged incident
    (c := Db.newCollaboration incident.id user.id role (joinStatus incident role)) hnone
  unfold takeJoin
  simp only [Prog.run_bind, Prog.run_atomic, hcreate, Prog.run_when, Prog.run_modify]
  refine cleanFailure_createUserAction (fun hsame => ?_) fun _ _ => Nat.le_of_ble_eq_true rfl
  have hactions : db2.userActions = db.userActions := by
    rw [← hsame.userActions]
    split <;> rfl
  rw [haction] at hactions
  simp at hactions

theorem takeCollaborative_clean {role : CollabRole}
    (hinc : db.incidents.get? incident.id = some incident) :
    CleanFailure db ((takeCollaborative now user incident role).run db) ↔
      (incident.takeInChargeMode ≠ some .internal → db.collaboration? incident.id user.id = none →
        if role = .leader then incident.takenBy = none → Fits (leaderMessage incident)
        else Fits (joinMessage incident role)) := by
  unfold takeCollaborative
  rw [cleanFailure_refuseIf, Prog.run_bind, Prog.run_read, decide_eq_false_iff_not]
  refine imp_congr_right fun _ => ?_
  cases hrow : db.collaboration? incident.id user.id with
  | some existing => exact ⟨fun _ h => (nomatch h), fun _ => cleanFailure_pure⟩
  | none =>
      rw [forall_prop_of_true rfl]
      cases role with
      | leader => exact takeLeader_clean hinc hrow
      | contributor => exact takeJoin_clean hrow
      | observer => exact takeJoin_clean hrow

/-- What a request to take an incident in charge may still fail on: the text
of the log, for the branch that the request takes. Where the request is
refused before it writes, nothing is asked. -/
def TakeFits (db : Db) (auth : Option UserId) (i : IncidentId) (mode : Choice TakeInChargeMode)
    (role : Choice CollabRole) : Prop :=
  ∀ user incident, db.authenticated auth = some user → isOrgAdmin user = true →
    db.incidents.get? i = some incident → incident.etat ≠ .resolved →
    match mode, role with
    | .one .internal, _ =>
      incident.takenBy = none → incident.takeInChargeMode = none → incident.etat = .declared →
        Fits (internalMessage incident)
    | .one .collaborative, .one role =>
      incident.takeInChargeMode ≠ some .internal → db.collaboration? i user.id = none →
        if role = .leader then incident.takenBy = none → Fits (leaderMessage incident)
        else Fits (joinMessage incident role)
    | _, _ => True

theorem takeInCharge_clean {mode : Choice TakeInChargeMode} {role : Choice CollabRole} :
    CleanFailure db ((takeInCharge now auth i mode role).run db) ↔
      TakeFits db auth i mode role := by
  unfold takeInCharge TakeFits
  rw [cleanFailure_authenticate]
  refine forall_congr' fun user => ?_
  rw [forall_comm]
  refine imp_congr_right fun hauth => ?_
  rw [cleanFailure_permit, forall_comm]
  refine imp_congr_right fun _ => ?_
  rw [cleanFailure_getIncident]
  refine forall_congr' fun incident => imp_congr_right fun hinc => ?_
  have hid : incident.id = i := Table.key_of_get? hinc
  subst hid
  rw [cleanFailure_refuseIf, Incident.isResolved, decide_eq_false_iff_not]
  refine imp_congr_right fun _ => ?_
  have huser := (authenticated_id hauth).2
  cases mode with
  | notText => exact iff_of_true cleanFailure_pure trivial
  | unknown => exact iff_of_true cleanFailure_pure trivial
  | one mode =>
      cases mode with
      | internal => exact takeInternal_clean huser hinc
      | collaborative =>
          cases role with
          | notText => exact iff_of_true cleanFailure_pure trivial
          | unknown => exact iff_of_true cleanFailure_pure trivial
          | one role => exact takeCollaborative_clean hinc

end Take

/-! ## The other three -/

def takenMessage (incident : Incident) : String :=
  "a pris en charge l'incident «" ++ printed incident.title ++ "»."

def resolvedMessage (incident : Incident) : String :=
  "a résolu l'incident «" ++ printed incident.title ++ "»."

/-- Each action logs a text of its own, and only if the state lets it go on.
Without an action nothing is stored. -/
def HandleFits (db : Db) (auth : Option UserId) (i : IncidentId) (action : Option HandleAction) :
    Prop :=
  ∀ user incident, db.authenticated auth = some user → db.incidents.get? i = some incident →
    match action with
    | some .takenIntoAccount => incident.etat = .declared → Fits (takenMessage incident)
    | some .resolved => incident.etat = .taken → Fits (resolvedMessage incident)
    | none => True

/-- The answer to a request for collaboration changes the row: whoever answers
leads the incident, and has not declined the row before. -/
def DeclineFits (db : Db) (queued : Bool) (auth : Option UserId) (id : RawId) : Prop :=
  ∀ rawId user c incident, id = .uuid rawId → Answers db auth rawId user c incident →
    c.status ≠ .declined → queued = true ∧ Fits (declineMessage incident)

/-- An update that stores another row names the state, and its mail is sent. -/
def PutFits (db : Db) (auth : Option UserId) (i : IncidentId) (data : IncidentData)
    (mailSent : Bool) : Prop :=
  ∀ incident, db.incidents.get? i = some incident → data.Accepted db auth incident →
    (data.over incident).pinProgress ≠ incident → data.failsLate db incident mailSent = false

section Others

variable {db db' : Db} {auth : Option UserId} {i : IncidentId} {user : User}
  {incident row : Incident} {out : Response × Db}

theorem saveIncident_changes (hinc : db.incidents.get? i = some incident) (hid : row.id = i)
    (hne : row.pinProgress ≠ incident) : ¬ SameTables db (db.saveIncident row) := by
  refine not_sameTables_row hinc ?_ hne
  rw [Db.incidents_saveIncident, if_pos hid.symm]

theorem handled_clean {actionMessage : String} (hinc : db.incidents.get? i = some incident)
    (hid : row.id = i) (hetat : row.etat ≠ incident.etat) :
    CleanFailure db ((handleIncident.handled user row actionMessage).run db) ↔
      Fits actionMessage := by
  unfold handleIncident.handled
  rw [Prog.run_bind, Prog.run_modify]
  refine cleanFailure_createUserAction (saveIncident_changes hinc hid fun heq => hetat ?_)
    fun _ _ => Nat.le_of_ble_eq_true rfl
  rw [← heq, Incident.pinProgress_etat]

theorem handleIncident_clean {action : Option HandleAction} :
    CleanFailure db ((handleIncident auth i action).run db) ↔ HandleFits db auth i action := by
  unfold handleIncident HandleFits
  rw [cleanFailure_authenticate]
  refine forall_congr' fun user => ?_
  rw [forall_comm]
  refine imp_congr_right fun _ => ?_
  rw [cleanFailure_getIncident]
  refine forall_congr' fun incident => imp_congr_right fun hinc => ?_
  have hid : incident.id = i := Table.key_of_get? hinc
  cases action with
  | none => exact iff_of_true cleanFailure_pure trivial
  | some action =>
      cases action with
      | takenIntoAccount =>
          dsimp only
          rw [cleanFailure_refuseIf, decide_eq_false_iff_not, not_not]
          refine imp_congr_right fun hetat => handled_clean hinc hid ?_
          rw [hetat]
          exact fun h => (nomatch h)
      | resolved =>
          dsimp only
          rw [cleanFailure_refuseIf, decide_eq_false_iff_not, not_not]
          refine imp_congr_right fun hetat => handled_clean hinc hid ?_
          rw [hetat]
          exact fun h => (nomatch h)

theorem Db.saveCollaboration_self {c : Collaboration}
    (hrow : db.collaboration? c.incident c.user = some c) : db.saveCollaboration c = db := by
  unfold Db.saveCollaboration
  dsimp only
  rw [hrow, if_neg (by simp), Table.put_self hrow]

theorem saveCollaboration_changes {c c' : Collaboration}
    (hrow : db.collaboration? c.incident c.user = some c) (hincident : c'.incident = c.incident)
    (huser : c'.user = c.user) (hne : c'.status ≠ c.status) :
    ¬ SameTables db (db.saveCollaboration c') := by
  intro hsame
  have hset : Db.SetsSeat db (db.saveCollaboration c') c.incident c.user (some c'.seat) :=
    Db.setsSeat_saveCollaboration hincident huser
  have hseat := hset.seats c.incident c.user
  rw [if_pos ⟨rfl, rfl⟩, Db.seats, Db.collaboration?, hsame.collaborations] at hseat
  rw [show db.collaborations.get? (c.incident, c.user) = some c from hrow, Option.map_some,
    Option.some.injEq] at hseat
  exact hne (congrArg Seat.status hseat).symm

theorem cleanFailure_answersFor {c : Collaboration} {refusal : String} {view : Incident → View} :
    CleanFailure db ((answersFor user c refusal view).run db) ↔
      ∀ incident, db.incidents.get? c.incident = some incident →
        (incident.takenBy = some user.id ∨
          db.leaderCollaborationExists c.incident user.id = true) →
        CleanFailure db ((view incident).run db) := by
  unfold answersFor Db.incidentOf
  rw [Prog.run_bind, Prog.run_read]
  cases hinc : db.incidents.get? c.incident with
  | none => exact iff_of_true cleanFailure_pure fun _ h => (nomatch h)
  | some incident =>
      have hid : incident.id = c.incident := Table.key_of_get? hinc
      simp only [Prog.run_bind, isLeaderOf_run, hid]
      by_cases hleads : incident.takenBy = some user.id ∨
          db.leaderCollaborationExists c.incident user.id = true
      · simp only [hleads, decide_true, ↓reduceIte]
        exact ⟨fun h row heq _ => Option.some.inj heq ▸ h, fun h => h incident rfl hleads⟩
      · simp only [hleads, decide_false, Bool.false_eq_true, ↓reduceIte]
        refine iff_of_true cleanFailure_pure fun row heq hleads' => ?_
        exact absurd (Option.some.inj heq ▸ hleads') hleads

/-- The end of a refusal: the row is saved first. A failure after that is
clean only if the row was declined already. -/
theorem declined_clean {c : Collaboration} {queued : Bool} {reply : Reply}
    (hrow : db.collaboration? c.incident c.user = some c) :
    CleanFailure db ((Prog.modify (Db.saveCollaboration { c with status := .declined }) >>= fun _ =>
        refuseIf (!queued) .crash <|
          if (declineMessage incident).length ≤ maxTextLength then pure (.ok 200 reply)
          else pure .crash).run db) ↔
      (c.status ≠ .declined → queued = true ∧ Fits (declineMessage incident)) := by
  rw [Prog.run_bind, Prog.run_modify]
  by_cases hstatus : c.status = .declined
  · have hsame : { c with status := .declined } = c := by
      rw [← hstatus]
    rw [hsame, Db.saveCollaboration_self hrow]
    refine iff_of_true ?_ fun h => absurd hstatus h
    rw [cleanFailure_refuseIf, Prog.run_ite]
    split <;> exact fun _ => cleanFailure_pure
  · have hchanged : ¬ SameTables db (db.saveCollaboration { c with status := .declined }) :=
      saveCollaboration_changes hrow rfl rfl fun h => hstatus h.symm
    rw [forall_prop_of_true hstatus]
    cases queued with
    | false =>
        refine iff_of_false (fun h => hchanged (h (Nat.le_of_ble_eq_true rfl))) fun h => ?_
        exact (nomatch h.1)
    | true =>
        rw [Bool.not_true, refuseIf_passes rfl, Prog.run_ite]
        split
        · rename_i hfits
          exact iff_of_true (cleanFailure_ok (Nat.le_of_ble_eq_true rfl)) ⟨rfl, hfits⟩
        · rename_i hlong
          exact iff_of_false (fun h => hchanged (h (Nat.le_of_ble_eq_true rfl))) fun h => hlong h.2

/-- The whole endpoint, check by check; only what comes after the save can
fail in an unclean way. -/
theorem declineQueuing_clean {queued : Bool} {id : RawId} :
    CleanFailure db ((declineQueuing queued auth id).run db) ↔ DeclineFits db queued auth id := by
  unfold declineQueuing DeclineFits
  rw [cleanFailure_authenticate]
  cases id with
  | absent =>
      refine iff_of_true (fun user _ => ?_) fun _ _ _ _ h => (nomatch h)
      exact cleanFailure_permit.mpr fun _ => cleanFailure_pure
  | malformed =>
      refine iff_of_true (fun user _ => ?_) fun _ _ _ _ h => (nomatch h)
      exact cleanFailure_permit.mpr fun _ => cleanFailure_pure
  | uuid id =>
      constructor
      · intro h rawId user c incident heq hanswers
        obtain rfl := RawId.uuid.inj heq
        have hadmitted := cleanFailure_permit.mp (h user hanswers.signedIn) hanswers.admin
        rw [Prog.run_bind, Prog.run_read, hanswers.row] at hadmitted
        have hanswered :=
          cleanFailure_answersFor.mp hadmitted incident hanswers.about hanswers.leads
        exact (declined_clean (Db.collaboration?_of_byId hanswers.row)).mp hanswered
      · intro h user hauth
        refine cleanFailure_permit.mpr fun hadmin => ?_
        rw [Prog.run_bind, Prog.run_read]
        cases hrow : db.collaborationById? id with
        | none => exact cleanFailure_pure
        | some c =>
            refine cleanFailure_answersFor.mpr fun incident hinc hleads => ?_
            exact (declined_clean (Db.collaboration?_of_byId hrow)).mpr
              (h id user c incident rfl ⟨hauth, hadmin, hrow, hinc, hleads⟩)

/-- The generic PUT saves the row first. It fails cleanly exactly if what
comes after the save does not fail, or the save has left the row as it was. -/
theorem putIncident_clean {data : IncidentData} {mailSent : Bool} :
    CleanFailure db ((putIncident auth i data mailSent).run db) ↔
      PutFits db auth i data mailSent := by
  rcases putIncident_run (Eq.refl ((putIncident auth i data mailSent).run db)) with
    ⟨hrefused, hnot⟩ | ⟨incident, hinc, haccepted, hout⟩
  · refine iff_of_true (fun _ => hrefused.1.symm ▸ SameTables.refl) ?_
    exact fun incident hinc haccepted => absurd ⟨incident, hinc, haccepted⟩ hnot
  · have hid : incident.id = i := Table.key_of_get? hinc
    rw [hout]
    have hfits : PutFits db auth i data mailSent ↔
        ((data.over incident).pinProgress ≠ incident →
          data.failsLate db incident mailSent = false) := by
      constructor
      · exact fun h => h incident hinc haccepted
      · intro h row hrow _
        obtain rfl := Option.some.inj (hinc.symm.trans hrow)
        exact h
    rw [hfits]
    cases hlate : data.failsLate db incident mailSent with
    | false => exact iff_of_true (cleanFailure_ok (Nat.le_of_ble_eq_true rfl)) fun _ => rfl
    | true =>
        constructor
        · intro hclean hne
          exact absurd (hclean (Nat.le_of_ble_eq_true rfl)) (saveIncident_changes hinc hid hne)
        · intro h _
          by_cases hsame : (data.over incident).pinProgress = incident
          · refine ⟨?_, rfl, rfl, rfl⟩
            have hself : db.incidents.get? incident.id = some incident := hid.symm ▸ hinc
            exact (congrArg db.incidents.put hsame).trans (Table.put_self hself)
          · exact nomatch h hsame

end Others

/-! ## All of them -/

/-- What has to fit so that the request cannot fail after its first write. It
is decided before the write, from the store and the body, so the view could
check it. -/
def LifecycleRequest.Fits (db : Db) : LifecycleRequest → Prop
  | take _ auth i mode role => TakeFits db auth i mode role
  | handle auth i action => HandleFits db auth i action
  | decline queued auth id => DeclineFits db queued auth id
  | put auth i data mailSent => PutFits db auth i data mailSent

/-- A request changes nothing when it fails if and only if all that it still
needs after its first write is there before. Where the condition fails, the
request is answered with an error and its first write stays, since nothing
undoes it. -/
theorem cleanFailure_iff (db : Db) (request : LifecycleRequest) :
    CleanFailure db (request.view.run db) ↔ request.Fits db := by
  cases request with
  | take now auth i mode role => exact takeInCharge_clean
  | handle auth i action => exact handleIncident_clean
  | decline queued auth id => exact declineQueuing_clean
  | put auth i data mailSent => exact putIncident_clean

def titleOf (n : Nat) : String := String.ofList (List.replicate n 'a')

theorem length_titleOf (n : Nat) : (titleOf n).length = n := by
  rw [titleOf, String.length_ofList, List.length_replicate]

theorem length_around (start title stop : String) :
    (start ++ title ++ stop).length = start.length + title.length + stop.length := by
  rw [String.length_append, String.length_append]

theorem length_internalMessage {incident : Incident} {title : String}
    (h : incident.title = some title) :
    (internalMessage incident).length = 29 + title.length + 18 := by
  have hstart : "a pris en charge l'incident «".length = 29 := by decide
  have hend : "» en mode interne.".length = 18 := by decide
  have htext : internalMessage incident =
      "a pris en charge l'incident «" ++ title ++ "» en mode interne." := by
    unfold internalMessage printed
    rw [h]
    rfl
  calc (internalMessage incident).length
      = ("a pris en charge l'incident «" ++ title ++ "» en mode interne.").length := by rw [htext]
    _ = "a pris en charge l'incident «".length + title.length + "» en mode interne.".length :=
        length_around _ _ _
    _ = 29 + title.length + 18 := by rw [hstart, hend]

def titledIncident (n : Nat) : Incident := .new 1 (some (titleOf n)) "Bamako" "01-01-2025"

def titled (n : Nat) : Db :=
  Db.start [] [.member 2 "admin@example.org" .orgAdmin 1] (titledIncident n)

def takeTitled : LifecycleRequest := .take 0 (some 2) 1 (.one .internal) .notText

theorem takeTitled_fails {n : Nat} (h : 209 ≤ n) :
    ¬ CleanFailure (titled n) (takeTitled.view.run (titled n)) := by
  intro hclean
  have hfits : TakeFits (titled n) (some 2) 1 (.one .internal) .notText :=
    takeInCharge_clean.mp hclean
  have hlong : (internalMessage (titledIncident n)).length ≤ 255 :=
    hfits (.member 2 "admin@example.org" .orgAdmin 1) (titledIncident n) rfl rfl rfl
      (fun h => (nomatch h)) rfl rfl rfl
  rw [length_internalMessage (show _ = some (titleOf n) from rfl), length_titleOf] at hlong
  omega

/-- Taking an incident with the longest title fails, and the incident is taken. -/
theorem failed_take_kept :
    (titled 250).Fresh ∧ (titleOf 250).length = 250 ∧
      ¬ CleanFailure (titled 250) (takeTitled.view.run (titled 250)) :=
  ⟨Db.start_fresh _ _, length_titleOf 250, takeTitled_fails (by omega)⟩

end Mapapi
