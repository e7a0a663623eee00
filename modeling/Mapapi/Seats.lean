import Mathlib.Logic.Function.Basic
import Mapapi.Orm

/-!
# Seats

The collaborations of an incident, seen as a seat (role and status) for each
user. Each write of a collaboration row sets one seat (`SetsSeat`), each
`update` of several rows changes the seats of one incident one by one
(`MapsSeats`), and neither touches anything else that an endpoint reads. For a
new row this is where its receivers show: it stays only when there is somebody
to write to (`receives`).
-/

namespace Mapapi

open Lib

/-- The place of a user on an incident. The other columns of a collaboration
(its motivation, its end date) decide nothing that is asked about leading or
contributing. -/
structure Seat where
  role : CollabRole
  status : CollabStatus
  deriving DecidableEq

def Seat.leader : Seat := { role := .leader, status := .accepted }

namespace Seat

/-- A new leader has to accept the contributors again; observers and those who
wait stay as they are. -/
def reset (u v : UserId) (s : Seat) : Seat :=
  if v ≠ u ∧ s.role = .contributor ∧ s.status = .accepted then { s with status := .pending }
  else s

def terminate (s : Seat) : Seat :=
  if s.status = .accepted then { s with status := .terminated } else s

def admitted : Option Seat → Seat
  | none => leader
  | some s => { s with status := .accepted }

def leave (u v : UserId) (s : Seat) : Seat :=
  if v = u then { s with status := .terminated } else s

/-- A leader who leaves offers the lead to every accepted contributor, who
loses the contributor's seat by it. -/
def offerLead (u v : UserId) (s : Seat) : Seat :=
  if v ≠ u ∧ s.role = .contributor ∧ s.status = .accepted then
    { role := .leader, status := .pending }
  else s

/-- Resetting the contributors makes nobody a leader. -/
theorem reset_eq_leader {u v : UserId} {s : Seat} (h : reset u v s = leader) : s = leader := by
  unfold reset at h
  split at h
  · exact nomatch (Seat.mk.inj h).2
  · exact h

theorem leave_eq_leader {u v : UserId} {s : Seat} (h : leave u v s = leader) :
    v ≠ u ∧ s = leader := by
  unfold leave at h
  split at h
  · exact nomatch (Seat.mk.inj h).2
  · rename_i hv
    exact ⟨hv, h⟩

/-- An offer of the lead has to be accepted first. So `disengage` leaves an
incident without a leader, whoever it offers the lead to. -/
theorem offerLead_eq_leader {u v : UserId} {s : Seat} (h : offerLead u v s = leader) :
    s = leader := by
  unfold offerLead at h
  split at h
  · exact nomatch (Seat.mk.inj h).2
  · exact h

theorem terminate_status (s : Seat) : s.terminate.status ≠ .accepted := by
  unfold terminate
  split
  · exact nofun
  · assumption

end Seat

def Collaboration.seat (c : Collaboration) : Seat := { role := c.role, status := c.status }

/-- The seats of an incident, as the abstract model has them: at most one for
each user. -/
def Db.seats (db : Db) (i : IncidentId) (u : UserId) : Option Seat :=
  (db.collaboration? i u).map Collaboration.seat

namespace Db

variable {db db' : Db} {i j : IncidentId} {u : UserId}

theorem leaderCollaborationExists_seats :
    db.leaderCollaborationExists i u = true ↔ db.seats i u = some Seat.leader := by
  rw [leaderCollaborationExists_iff, seats, Option.map_eq_some_iff]
  refine exists_congr fun c => and_congr_right fun _ => ?_
  rcases c with ⟨_, _, _, role, status, _, _, _⟩
  simp only [Collaboration.seat, Seat.leader, Seat.mk.injEq]

/-- There is somebody to write to about a request of `u`, so the row of the
request stays. Otherwise the receivers delete it. -/
def receives (db : Db) (takenBy : Option UserId) (u : UserId) (role : CollabRole) : Bool :=
  (db.user? takenBy).any fun leader =>
    decide (leader.id = u ∨ role = .leader ∨ leader.email ≠ "")

def receivesAtomic (db : Db) (incident : Incident) (u : UserId) (role : CollabRole) : Bool :=
  (db.user? incident.takenBy).any fun leader =>
    decide (leader.id = u ∨ role = .leader ∨
      leader.email ≠ "" ∧ (db.requestMessage incident u).length ≤ maxTextLength)

/-! ## Incident rows -/

@[simp] theorem seats_saveIncidentFields (inst : Incident) (columns : List Incident.Column) :
    (db.saveIncidentFields inst columns).seats = db.seats := rfl

@[simp] theorem seats_saveIncident (inst : Incident) : (db.saveIncident inst).seats = db.seats :=
  rfl

/-! ## Collaboration rows -/

/-- Only collaborations, and what points to them, may have changed. -/
structure SameRows (db db' : Db) : Prop where
  incidents : db'.incidents = db.incidents
  users : db'.users = db.users
  organisations : db'.organisations = db.organisations
  tasks : db'.tasks = db.tasks
  orgAssignments : db'.orgAssignments = db.orgAssignments
  partnerSuggestions : db'.partnerSuggestions = db.partnerSuggestions

theorem SameRows.refl : SameRows db db := ⟨rfl, rfl, rfl, rfl, rfl, rfl⟩

theorem SameRows.trans {db'' : Db} (h : SameRows db db') (h' : SameRows db' db'') :
    SameRows db db'' :=
  ⟨h'.incidents.trans h.incidents, h'.users.trans h.users,
    h'.organisations.trans h.organisations, h'.tasks.trans h.tasks,
    h'.orgAssignments.trans h.orgAssignments, h'.partnerSuggestions.trans h.partnerSuggestions⟩

theorem SameRows.receives (h : SameRows db db') : db'.receives = db.receives := by
  unfold Db.receives user?
  rw [h.users]

/-- The write sets one seat: the row of the pair is stored with the seat `s`,
or is not there. What else an endpoint may read is the same before and after,
so such writes compose. -/
structure SetsSeat (db db' : Db) (i : IncidentId) (u : UserId) (s : Option Seat) : Prop where
  rows : SameRows db db'
  seats : ∀ j v, db'.seats j v = if j = i ∧ v = u then s else db.seats j v

theorem SetsSeat.self : SetsSeat db db i u (db.seats i u) := by
  refine ⟨SameRows.refl, fun j v => ?_⟩
  split
  · rename_i h
    rw [h.1, h.2]
  · rfl

theorem SetsSeat.seats_eq {s : Option Seat} (h : SetsSeat db db' i u s) :
    db'.seats i = Function.update (db.seats i) u s := by
  funext v
  rw [h.seats, Function.update_apply]
  simp only [true_and]

theorem SetsSeat.trans {db'' : Db} {s s' : Option Seat} (h : SetsSeat db db' i u s)
    (h' : SetsSeat db' db'' i u s') : SetsSeat db db'' i u s' where
  rows := h.rows.trans h'.rows
  seats j v := by
    rw [h'.seats, h.seats]
    split <;> rfl

theorem setsSeat_put (c : Collaboration) :
    SetsSeat db { db with collaborations := db.collaborations.put c } c.incident c.user
      (some c.seat) where
  rows := ⟨rfl, rfl, rfl, rfl, rfl, rfl⟩
  seats j v := by
    unfold seats collaboration?
    rw [Table.get?_put]
    simp only [key, Prod.mk.injEq]
    split <;> rfl

theorem setsSeat_deleteCollaboration (c : Collaboration) :
    SetsSeat db (db.deleteCollaboration c) c.incident c.user none where
  rows := ⟨rfl, rfl, rfl, rfl, rfl, rfl⟩
  seats j v := by
    unfold seats collaboration? deleteCollaboration
    rw [Table.get?_erase]
    simp only [Prod.mk.injEq]
    split <;> rfl

theorem SetsSeat.logAction {s : Option Seat} (h : SetsSeat db db' i u s) (v : UserId)
    (action : String) : SetsSeat db (db'.logAction v action) i u s :=
  ⟨⟨h.rows.incidents, h.rows.users, h.rows.organisations, h.rows.tasks,
    h.rows.orgAssignments, h.rows.partnerSuggestions⟩, h.seats⟩

theorem SetsSeat.notify {s : Option Seat} (h : SetsSeat db db' i u s) (n : Notification) :
    SetsSeat db (db'.notify n) i u s :=
  ⟨⟨h.rows.incidents, h.rows.users, h.rows.organisations, h.rows.tasks,
    h.rows.orgAssignments, h.rows.partnerSuggestions⟩, h.seats⟩

theorem SetsSeat.withMessages {s : Option Seat} (h : SetsSeat db db' i u s)
    (messages : List DiscussionMessage) :
    SetsSeat db { db' with discussionMessages := messages } i u s :=
  ⟨⟨h.rows.incidents, h.rows.users, h.rows.organisations, h.rows.tasks,
    h.rows.orgAssignments, h.rows.partnerSuggestions⟩, h.seats⟩

theorem setsSeat_saveCollaboration {c : Collaboration} (hi : c.incident = i)
    (hu : c.user = u) : SetsSeat db (db.saveCollaboration c) i u (some c.seat) := by
  subst hi hu
  unfold saveCollaboration
  dsimp only
  split
  · exact (setsSeat_put c).logAction _ _
  · exact setsSeat_put c

/-- The receivers of a new row delete it when they cannot write to anybody. -/
theorem setsSeat_notifyOrganisation {incident : Incident} {c : Collaboration}
    (h : SetsSeat db db' c.incident c.user (some c.seat)) :
    SetsSeat db (db'.notifyOrganisationOnCollaboration incident c).2 c.incident c.user
      (if db'.receives incident.takenBy c.user c.role then some c.seat else none) := by
  unfold notifyOrganisationOnCollaboration receives
  cases db'.user? incident.takenBy with
  | none => exact h.trans (setsSeat_deleteCollaboration c)
  | some leader =>
      simp only [Option.any_some, decide_eq_true_eq]
      by_cases hown : leader.id = c.user ∨ c.role = .leader
      · rw [if_pos hown, if_pos (by tauto)]
        exact h
      · by_cases hmail : leader.email = ""
        · rw [if_neg hown, if_neg (not_not.mpr hmail), if_neg (by tauto)]
          exact h.trans (setsSeat_deleteCollaboration c)
        · have hkeep : leader.id = c.user ∨ c.role = .leader ∨ leader.email ≠ "" :=
            Or.inr (Or.inr hmail)
          rw [if_neg hown, if_pos hmail, if_pos hkeep]
          split
          · exact h.notify _
          · exact h

theorem setsSeat_insertCollaboration (incident : Incident) (c : Collaboration) :
    SetsSeat db (db.insertCollaboration incident c).2 c.incident c.user
      (if db.receives incident.takenBy c.user c.role then some c.seat else none) :=
  setsSeat_notifyOrganisation ((setsSeat_put c).logAction c.user _)

/-- A swallowed error: the leader is somebody else, and the text is too long. -/
theorem insertCollaboration_failed (db : Db) (incident : Incident) (c : Collaboration) :
    (db.insertCollaboration incident c).1 = true ↔
      ∃ leader, db.user? incident.takenBy = some leader ∧
        ¬ (leader.id = c.user ∨ c.role = .leader) ∧ leader.email ≠ "" ∧
        maxTextLength < (db.requestMessage incident c.user).length := by
  have huser : ({ db with collaborations := db.collaborations.put c }.wsPushCollaborationCreated
      incident c).user? incident.takenBy = db.user? incident.takenBy := rfl
  have htext : ({ db with collaborations := db.collaborations.put c }.wsPushCollaborationCreated
      incident c).requestMessage incident c.user = db.requestMessage incident c.user := rfl
  unfold insertCollaboration notifyOrganisationOnCollaboration
  dsimp only
  rw [huser, htext]
  cases db.user? incident.takenBy with
  | none => simp
  | some leader =>
      simp only [Option.some.injEq, exists_eq_left']
      by_cases hown : leader.id = c.user ∨ c.role = .leader
      · rw [if_pos hown]
        exact ⟨fun h => (nomatch h), fun h => absurd hown h.1⟩
      · by_cases hmail : leader.email = ""
        · rw [if_neg hown, if_neg (not_not.mpr hmail)]
          exact ⟨fun h => (nomatch h), fun h => absurd hmail h.2.1⟩
        · rw [if_neg hown, if_pos hmail]
          split
          · rename_i hlen
            exact ⟨fun h => (nomatch h), fun h => absurd h.2.2 (Nat.not_lt.mpr hlen)⟩
          · rename_i hlen
            exact ⟨fun _ => ⟨hown, hmail, Nat.lt_of_not_le hlen⟩, fun _ => rfl⟩

theorem createCollaboration_free (incident : Incident) {c : Collaboration}
    (hfree : db.collaboration? c.incident c.user = none) :
    ∃ id db', db.createCollaboration incident c = (some { c with id := id }, db') ∧
      SetsSeat db db' c.incident c.user
        (if db.receives incident.takenBy c.user c.role then some c.seat else none) := by
  refine ⟨db.freshCollaborationId, _, ?_,
    setsSeat_insertCollaboration incident { c with id := db.freshCollaborationId }⟩
  rw [createCollaboration, hfree]
  rfl

theorem createNew (incident : Incident) (role : CollabRole) (status : CollabStatus)
    (hfree : db.collaboration? i u = none) :
    ∃ row db', db.createCollaboration incident (newCollaboration i u role status) =
        (some row, db') ∧ row.seat = ⟨role, status⟩ ∧
      SetsSeat db db' i u
        (if db.receives incident.takenBy u role then some ⟨role, status⟩ else none) := by
  obtain ⟨id, db', hcreate, hset⟩ := createCollaboration_free incident
    (c := newCollaboration i u role status) hfree
  exact ⟨_, db', hcreate, rfl, hset⟩

theorem seat_withId (c : Collaboration) (id : CollaborationId) :
    { c with id := id }.seat = c.seat :=
  rfl

/-- The row of a transaction stays when it would stay outside, and nothing
fails. Outside, a receiver that fails is ignored; inside, the error has broken
the transaction. -/
theorem receivesAtomic_eq (incident : Incident) (c : Collaboration) :
    db.receivesAtomic incident c.user c.role =
      (db.receives incident.takenBy c.user c.role &&
        !(db.insertCollaboration incident c).1) := by
  have hfail := db.insertCollaboration_failed incident c
  unfold receivesAtomic receives
  rw [Bool.eq_iff_iff, Bool.and_eq_true, Bool.not_eq_true', ← Bool.not_eq_true, hfail]
  simp only [Option.any_eq_true, decide_eq_true_eq]
  constructor
  · rintro ⟨leader, hleader, hreach⟩
    have hreceives : leader.id = c.user ∨ c.role = .leader ∨ leader.email ≠ "" :=
      hreach.imp_right (Or.imp_right And.left)
    refine ⟨⟨leader, hleader, hreceives⟩, ?_⟩
    rintro ⟨leader', hleader', hown, -, hlong⟩
    obtain rfl := Option.some.inj (hleader.symm.trans hleader')
    rcases hreach with h | h | ⟨-, h⟩
    · exact hown (Or.inl h)
    · exact hown (Or.inr h)
    · exact absurd h (Nat.not_le.mpr hlong)
  · rintro ⟨⟨leader, hleader, hreach⟩, hfits⟩
    refine ⟨leader, hleader, ?_⟩
    by_cases hown : leader.id = c.user ∨ c.role = .leader
    · exact hown.imp_right Or.inl
    · rcases hreach with h | h | hmail
      · exact Or.inl h
      · exact Or.inr (Or.inl h)
      · refine Or.inr (Or.inr ⟨hmail, Nat.le_of_not_lt fun hlong => hfits ?_⟩)
        exact ⟨leader, hleader, hown, hmail, hlong⟩

theorem setsSeat_createCollaborationAtomic (incident : Incident) {c : Collaboration}
    (hfree : db.collaboration? c.incident c.user = none) :
    SetsSeat db (db.createCollaborationAtomic incident c).2 c.incident c.user
      (if db.receivesAtomic incident c.user c.role then some c.seat else none) := by
  have hseat : SetsSeat db db c.incident c.user none := by
    have hself : SetsSeat db db c.incident c.user _ := SetsSeat.self
    rwa [seats, hfree] at hself
  have hinsert := db.setsSeat_insertCollaboration incident
    { c with id := db.freshCollaborationId }
  have hkept := db.receivesAtomic_eq incident { c with id := db.freshCollaborationId }
  rw [seat_withId] at hinsert
  dsimp only at hkept hinsert
  unfold createCollaborationAtomic
  rw [hfree, hkept]
  dsimp only
  cases hfail : (db.insertCollaboration incident { c with id := db.freshCollaborationId }).1 with
  | true => simpa using hseat
  | false => simpa using hinsert

/-! ## Actions of a view -/

theorem createUserAction_run {v : UserId} {action : String} {view : UserAction → View}
    {out : Response × Db} (h : (createUserAction v action view).run db = out) :
    (maxTextLength < action.length ∧ out = (.crash, db)) ∨
      (view { user := v, action := action }).run (db.logAction v action) = out := by
  unfold createUserAction at h
  rw [Prog.run_ite] at h
  split at h
  · exact Or.inr h
  · rename_i hlong
    exact Or.inl ⟨Nat.lt_of_not_le hlong, h.symm⟩

theorem getOrCreateCollaboration_run {incident : Incident} {c : Collaboration}
    {result : Option (Collaboration × Bool)}
    (h : (getOrCreateCollaboration incident c).run db = (result, db')) :
    (∃ row, db.collaboration? c.incident c.user = some row ∧ result = some (row, false) ∧
      db' = db) ∨
    (db.collaboration? c.incident c.user = none ∧
      ∃ id, result = some ({ c with id := id }, true) ∧
        SetsSeat db db' c.incident c.user
          (if db.receivesAtomic incident c.user c.role then some c.seat else none)) := by
  unfold getOrCreateCollaboration getOrCreate at h
  rw [Prog.run_bind, Prog.run_read] at h
  cases hrow : db.collaboration? c.incident c.user with
  | some row =>
      rw [hrow] at h
      obtain ⟨rfl, rfl⟩ := Prod.mk.inj h
      exact Or.inl ⟨row, rfl, rfl, rfl⟩
  | none =>
      have hcreated : (db.createCollaborationAtomic incident c).1 =
          some { c with id := db.freshCollaborationId } := by
        rw [createCollaborationAtomic, hrow]
        rfl
      have hset := setsSeat_createCollaborationAtomic incident hrow
      simp only [hrow, Prog.run_bind, Prog.run_atomic, hcreated] at h
      obtain ⟨rfl, rfl⟩ := Prod.mk.inj h
      exact Or.inr ⟨rfl, _, rfl, hset⟩

/-- `get_or_create` of a leader row: the row of the pair, whatever its seat, or
a new leader row, which no receiver takes away. -/
theorem getOrCreateLeader_run (incident : Incident) {result : Option (Collaboration × Bool)}
    (htaken : (db.user? incident.takenBy).isSome)
    (h : (getOrCreateCollaboration incident
      (newCollaboration incident.id u .leader .accepted)).run db = (result, db')) :
    ∃ row created, result = some (row, created) ∧ row.incident = incident.id ∧ row.user = u ∧
      row.seat = (db.seats incident.id u).getD Seat.leader ∧
      SetsSeat db db' incident.id u ((db.seats incident.id u).or (some Seat.leader)) := by
  rcases getOrCreateCollaboration_run h with
    ⟨row, hrow, rfl, rfl⟩ | ⟨hnone, id, rfl, hset⟩
  · obtain ⟨hincident, huser⟩ := collaboration?_key hrow
    have hseats : db'.seats incident.id u = some row.seat :=
      congrArg (Option.map Collaboration.seat) hrow
    have hself : SetsSeat db' db' incident.id u _ := SetsSeat.self
    rw [hseats] at hself ⊢
    exact ⟨row, false, rfl, hincident, huser, rfl, hself⟩
  · have hseats : db.seats incident.id u = none :=
      congrArg (Option.map Collaboration.seat) hnone
    have hkept : db.receivesAtomic incident u .leader = true := by
      obtain ⟨leader, hleader⟩ := Option.isSome_iff_exists.mp htaken
      simp [receivesAtomic, hleader]
    have hset' : SetsSeat db db' incident.id u
        (if db.receivesAtomic incident u .leader then some Seat.leader else none) := hset
    rw [hkept, if_pos rfl] at hset'
    rw [hseats]
    exact ⟨_, true, rfl, rfl, rfl, rfl, hset'⟩

/-! ## Updates of several rows -/

/-- The write changes the seats of `i` one by one. -/
structure MapsSeats (db db' : Db) (i : IncidentId) (f : UserId → Seat → Seat) : Prop where
  rows : SameRows db db'
  seats : db'.seats i = fun u => (db.seats i u).map (f u)
  elsewhere : ∀ j, j ≠ i → db'.seats j = db.seats j

theorem mapsSeats_updateCollaborations {p : Collaboration → Bool}
    {role : CollabRole → CollabRole} {status : CollabStatus} (q : UserId → Seat → Prop)
    [∀ v s, Decidable (q v s)]
    (hp : ∀ c, p c = true ↔ c.incident = i ∧ q c.user c.seat) :
    MapsSeats db (db.updateCollaborations p role status) i
      fun v s => if q v s then { role := role s.role, status := status } else s := by
  have hrow (j : IncidentId) (v : UserId) :
      (db.updateCollaborations p role status).seats j v = (db.collaboration? j v).map fun c =>
        if p c then { role := role c.role, status := status } else c.seat := by
    unfold seats collaboration? updateCollaborations
    rw [Table.get?_updateWhere, Option.map_map]
    refine Option.map_congr fun c _ => ?_
    dsimp only [Function.comp_apply]
    split <;> rfl
  have hkey {j : IncidentId} {v : UserId} {c : Collaboration}
      (hc : db.collaboration? j v = some c) : c.incident = j ∧ c.user = v :=
    collaboration?_key hc
  refine ⟨⟨rfl, rfl, rfl, rfl, rfl, rfl⟩, funext fun v => ?_, fun j hj => funext fun v => ?_⟩
  · rw [hrow, seats, Option.map_map]
    refine Option.map_congr fun c hc => ?_
    obtain ⟨hinc, rfl⟩ := hkey hc
    exact if_congr ((hp c).trans (and_iff_right hinc)) rfl rfl
  · rw [hrow, seats]
    refine Option.map_congr fun c hc => ?_
    exact if_neg fun h => hj ((hkey hc).1 ▸ ((hp c).mp h).1)

theorem MapsSeats.logAction {f : UserId → Seat → Seat} (h : MapsSeats db db' i f) (v : UserId)
    (action : String) : MapsSeats db (db'.logAction v action) i f :=
  ⟨⟨h.rows.incidents, h.rows.users, h.rows.organisations, h.rows.tasks,
    h.rows.orgAssignments, h.rows.partnerSuggestions⟩, h.seats, h.elsewhere⟩

theorem mapsSeats_reset (db : Db) (i : IncidentId) (u : UserId) :
    MapsSeats db (db.updateCollaborations (otherContributors i u) id .pending) i
      (Seat.reset u) := by
  refine mapsSeats_updateCollaborations
    (fun v s => v ≠ u ∧ s.role = .contributor ∧ s.status = .accepted) fun c => ?_
  simp only [otherContributors, Collaboration.seat, decide_eq_true_eq]
  tauto

end Db

end Mapapi
