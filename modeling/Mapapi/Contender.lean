import Mapapi.Server

/-!
# A request that takes an incident in charge, turn by turn

A request is followed from `Stage` to stage, while other requests may happen in
between. What is left of it at a stage is again a program (`Contender.rest`),
so there is one lemma for each stage: what the next action reads and writes,
and to which stage it leads (`step_start`, `step_signedIn`, ...).

The stages are the states of this protocol, and the programs that are left are
written out once, next to the view they come from. That they are what is left
is checked by the step lemmas, each of which runs one action of the view.
-/

namespace Mapapi

open Lib

/-- How an incident is taken in charge. The role of an internal request is not
looked at. -/
inductive Way where
  | internal (role : Choice CollabRole)
  | leader
  deriving DecidableEq

namespace Way

def mode : Way → TakeInChargeMode
  | internal _ => .internal
  | leader => .collaborative

def role : Way → Choice CollabRole
  | internal role => role
  | leader => .one .leader

/-- The turn at which the incident is saved. -/
def saveTurn : Way → Nat
  | internal _ => 3
  | leader => 4

end Way

structure Contender where
  now : Instant
  user : User
  way : Way

/-- Where a request is. The stages are named by what has happened last, and
hold what the program still has in memory: the row it has read, the
collaboration it has created. -/
inductive Stage where
  | start
  | signedIn
  | read (row : Incident)
  | unseated
  | saved
  | looked
  | seated (c : Collaboration)
  | reset (c : Collaboration) (n : Nat)
  | refused (response : Response)
  | answered (response : Response)

namespace Contender

variable (x : Contender)

def request (i : IncidentId) : View :=
  takeInCharge x.now (some x.user.id) i (.one x.way.mode) x.way.role

def message (r : Incident) : String :=
  match x.way with
  | .internal _ => "a pris en charge l'incident «" ++ printed r.title ++ "» en mode interne."
  | .leader => "a pris en charge l'incident «" ++ printed r.title ++
    "» en tant que leader (mode collaboratif)."

def engaged (r : Incident) : Incident := r.engagedBy x.user.id x.way.mode x.now

def collaboration (r : Incident) : Collaboration :=
  Db.newCollaboration r.id x.user.id .leader .accepted

def onIncident (row : Incident) : View :=
  refuseIf row.isResolved (.error 400 "Cet incident est clôturé.") <|
  match x.way with
  | .internal _ => takeInternal x.now x.user row
  | .leader => takeCollaborative x.now x.user row .leader

def onSeated (r : Incident) (c : Collaboration) (reset : Option Nat) : View :=
  createUserAction x.user.id (x.message r) fun _ =>
    pure (.ok 200 (.takenInCharge (x.message r) x.way.mode
      (match x.way with | .internal _ => none | .leader => some .leader) none reset
      (x.engaged r) c))

def resetContributors (r : Incident) (db : Db) : Nat × Db :=
  ((db.collaborations.select (otherContributors r.id x.user.id)).length,
    db.updateCollaborations (otherContributors r.id x.user.id) id .pending)

/-- What is left of `get_or_create` once no collaboration was found. -/
def createRow (r : Incident) : Prog Db (Option (Collaboration × Bool)) := do
  match ← Prog.atomic (Db.createCollaborationAtomic (x.engaged r) (x.collaboration r)) with
  | some row => pure (some (row, true))
  | none =>
    match ← Prog.read fun db => db.collaboration? r.id x.user.id with
    | some row => pure (some (row, false))
    | none => pure none

def rest (r : Incident) : Stage → View
  | .start => x.request r.id
  | .signedIn => getIncident r.id incidentNotFound x.onIncident
  | .read row => x.onIncident row
  | .unseated => takeLeader x.now x.user r
  | .saved =>
    match x.way with
    | .internal _ => do
      match ← getOrCreateCollaboration (x.engaged r) (x.collaboration r) with
      | none => pure .crash
      | some (c, _) => x.onSeated r c none
    | .leader => do
      match ← Prog.atomic (Db.createCollaboration (x.engaged r) (x.collaboration r)) with
      | none => pure .crash
      | some c => do
        let reset ← Prog.atomic (x.resetContributors r)
        x.onSeated r c (some reset)
  | .looked => do
    match ← x.createRow r with
    | none => pure .crash
    | some (c, _) => x.onSeated r c none
  | .seated c =>
    match x.way with
    | .internal _ => x.onSeated r c none
    | .leader => do
      let reset ← Prog.atomic (x.resetContributors r)
      x.onSeated r c (some reset)
  | .reset c n => x.onSeated r c (some n)
  | .refused response | .answered response => pure response

end Contender

/-! ## One turn -/

section Turn

variable {db db' : Db} {x : Contender} {r row : Incident} {c : Collaboration}

theorem step_authenticate {auth : Option UserId} {user : User} {view : User → View}
    (h : db.authenticated auth = some user) :
    (authenticate auth view).step db = (view user, db) := by
  unfold authenticate
  rw [Prog.step_read, h]

theorem step_getIncident {i : IncidentId} {notFound : String} {view : Incident → View}
    (h : db.incidents.get? i = some row) :
    (getIncident i notFound view).step db = (view row, db) := by
  unfold getIncident
  rw [Prog.step_read, h]

theorem step_start (hauth : db.authenticated (some x.user.id) = some x.user)
    (hadmin : isOrgAdmin x.user = true) :
    (x.rest r .start).step db = (x.rest r .signedIn, db) := by
  refine (step_authenticate hauth).trans (Prod.ext ?_ rfl)
  dsimp only
  rw [permit, if_pos hadmin]
  obtain ⟨now, user, _ | _⟩ := x <;> rfl

theorem step_signedIn (hrow : db.incidents.get? r.id = some row) :
    (x.rest r .signedIn).step db = (x.rest r (.read row), db) :=
  step_getIncident hrow

/-- Nobody has engaged the incident yet: this is how two contenders can both
read it and both go on. -/
structure Free (r : Incident) : Prop where
  declared : r.etat = .declared
  nobody : r.takenBy = none
  noMode : r.takeInChargeMode = none

def engagedColumns : List Incident.Column :=
  [.takenBy, .etat, .takeInChargeMode, .takenInChargeAt, .antigelWarned75, .antigelWarned90]

theorem Free.isResolved (h : Free r) : r.isResolved = false := by
  simp [Incident.isResolved, h.declared]

theorem step_read_internal {role : Choice CollabRole} (hway : x.way = .internal role)
    (hfree : Free r) :
    (x.rest r (.read r)).step db =
      (x.rest r .saved, db.saveIncidentFields (x.engaged r) engagedColumns) := by
  obtain ⟨now, user, way⟩ := x
  subst hway
  simp only [Contender.rest, Contender.onIncident, takeInternal, hfree.isResolved, hfree.declared,
    hfree.nobody, hfree.noMode]
  rfl

theorem rest_read_leader (hway : x.way = .leader) (hmode : row.takeInChargeMode ≠ some .internal)
    (hopen : row.isResolved = false) :
    x.rest r (.read row) =
      ((Prog.read fun db => db.collaboration? row.id x.user.id) >>= fun existing =>
        match existing with
        | some existing => pure (.refused 400
            "Vous avez déjà une collaboration sur cet incident." (some existing))
        | none => takeLeader x.now x.user row) := by
  obtain ⟨now, user, way⟩ := x
  subst hway
  simp only [Contender.rest, Contender.onIncident, takeCollaborative, hopen, hmode, decide_false]
  rfl

theorem step_read_leader (hway : x.way = .leader) (hfree : Free r)
    (hnone : db.collaboration? r.id x.user.id = none) :
    (x.rest r (.read r)).step db = (x.rest r .unseated, db) := by
  rw [rest_read_leader hway (by simp [hfree.noMode]) hfree.isResolved, Prog.step_read, hnone]
  rfl

/-- A request that finds the incident taken, or a leader request of somebody who
collaborates already, is refused. -/
theorem step_read_late (db : Db) (x : Contender) (r : Incident) (htaken : row.takenBy ≠ none)
    (hopen : row.isResolved = false) :
    ∃ response, response.status = 400 ∧
      (x.rest r (.read row)).step db = (x.rest r (.refused response), db) := by
  cases hway : x.way with
  | internal role =>
      refine ⟨.error 400 "Cet incident a déjà été pris en charge.", rfl, ?_⟩
      obtain ⟨now, user, way⟩ := x
      subst hway
      simp only [Contender.rest, Contender.onIncident, takeInternal, hopen, htaken, ne_eq,
        not_false_eq_true, true_or, decide_true]
      rfl
  | leader =>
      by_cases hmode : row.takeInChargeMode = some .internal
      · refine ⟨.error 400
          "Cet incident est en mode interne. Faites une demande via POST /collaboration/.",
          rfl, ?_⟩
        obtain ⟨now, user, way⟩ := x
        subst hway
        simp only [Contender.rest, Contender.onIncident, takeCollaborative, hopen, hmode,
          decide_true]
        rfl
      · rw [rest_read_leader hway hmode hopen, Prog.step_read]
        cases db.collaboration? row.id x.user.id with
        | some existing => exact ⟨_, rfl, rfl⟩
        | none =>
            refine ⟨.error 400 "Un leader est déjà désigné sur cet incident.", rfl, ?_⟩
            simp only [takeLeader, htaken, ne_eq, not_false_eq_true, decide_true]
            rfl

theorem step_read_seated (hway : x.way = .leader) (hfree : Free r)
    (hsome : db.collaboration? r.id x.user.id ≠ none) :
    ∃ response, response.status = 400 ∧
      (x.rest r (.read r)).step db = (x.rest r (.refused response), db) := by
  obtain ⟨c, hc⟩ := Option.ne_none_iff_exists'.mp hsome
  rw [rest_read_leader hway (by simp [hfree.noMode]) hfree.isResolved, Prog.step_read, hc]
  exact ⟨_, rfl, rfl⟩

theorem step_unseated (hway : x.way = .leader) (hfree : Free r) :
    (x.rest r .unseated).step db =
      (x.rest r .saved, db.saveIncidentFields (x.engaged r) engagedColumns) := by
  obtain ⟨now, user, way⟩ := x
  subst hway
  have hled : r.ledBy user.id now = r.engagedBy user.id .collaborative now :=
    if_pos hfree.declared
  have hcolumns : r.ledColumns = engagedColumns := by
    rw [Incident.ledColumns, if_pos hfree.declared]
    rfl
  simp only [Contender.rest, takeLeader, hfree.nobody, hled, hcolumns]
  rfl

theorem step_saved_internal (db : Db) (r : Incident) {role : Choice CollabRole}
    (hway : x.way = .internal role) :
    (x.rest r .saved).step db =
      match db.collaboration? r.id x.user.id with
      | some c => (x.rest r (.seated c), db)
      | none => (x.rest r .looked, db) := by
  obtain ⟨now, user, way⟩ := x
  subst hway
  simp only [Contender.rest, getOrCreateCollaboration, getOrCreate, Prog.step_read_bind]
  rw [show (Contender.collaboration ⟨now, user, .internal role⟩ r).incident = r.id from rfl,
    show (Contender.collaboration ⟨now, user, .internal role⟩ r).user = user.id from rfl]
  cases db.collaboration? r.id user.id <;> rfl

theorem step_saved_leader (hway : x.way = .leader)
    (hcreate : db.createCollaboration (x.engaged r) (x.collaboration r) = (some c, db')) :
    (x.rest r .saved).step db = (x.rest r (.seated c), db') := by
  obtain ⟨now, user, way⟩ := x
  subst hway
  simp only [Contender.rest, Prog.step_atomic, hcreate]

theorem step_looked
    (hcreate : db.createCollaborationAtomic (x.engaged r) (x.collaboration r) = (some c, db'))
    {role : Choice CollabRole} (hway : x.way = .internal role) :
    (x.rest r .looked).step db = (x.rest r (.seated c), db') := by
  obtain ⟨now, user, way⟩ := x
  subst hway
  simp only [Contender.rest, Contender.createRow, Prog.step_atomic_bind, hcreate, Prog.pure_bind']

theorem step_seated_leader (db : Db) (r : Incident) (c : Collaboration) (hway : x.way = .leader) :
    (x.rest r (.seated c)).step db =
      (x.rest r (.reset c (x.resetContributors r db).1), (x.resetContributors r db).2) := by
  obtain ⟨now, user, way⟩ := x
  subst hway
  rfl

theorem step_onSeated (db : Db) (x : Contender) (r : Incident) (c : Collaboration)
    (reset : Option Nat) :
    ∃ response, (response.status = 200 ↔ (x.message r).length ≤ maxTextLength) ∧
      ((x.onSeated r c reset).step db = (pure response, db) ∨
        (x.onSeated r c reset).step db =
          (pure response, db.logAction x.user.id (x.message r))) := by
  unfold Contender.onSeated createUserAction
  split
  · rename_i hfits
    exact ⟨_, iff_of_true rfl hfits, Or.inr rfl⟩
  · rename_i hlong
    exact ⟨.crash, iff_of_false (by decide) hlong, Or.inl rfl⟩

end Turn

end Mapapi
