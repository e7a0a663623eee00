import Mapapi.LastAdmin
import Mapapi.Progress
import Mapapi.Purge

/-!
# Removing a user

`user_api_view` and `OrganisationMemberDetailView` delete the row of a user. What
points to that row goes with it (`CASCADE`) or loses it (`SET_NULL`), table by table,
and none of it runs through the `save` and `delete` of a model: an incident goes with
the user who has reported it, a task with the user who has created it, and a
take-in-charge loses its leader.

Both views decide on the users and organisations alone, before anything is
deleted, and neither looks at what points to the user. So the harm is a matter
of the row that goes and of the store it goes from: whether the deletion is
permitted or not only says if it happens.
-/

namespace Mapapi

open Lib

/-! ## What the deletion takes along -/

def Incident.detach (u : UserId) (row : Incident) : Incident :=
  { row with
    takenBy := row.takenBy.filter fun v => decide (v ≠ u)
    resolutionSubmittedBy := row.resolutionSubmittedBy.filter fun v => decide (v ≠ u) }

/-- SET_NULL: the task stays, with nobody assigned. -/
def IncidentTask.detach (u : UserId) (task : IncidentTask) : IncidentTask :=
  { task with assignedTo := task.assignedTo.filter fun v => decide (v ≠ u) }

def IncidentOrgAssignment.detach (u : UserId) (a : IncidentOrgAssignment) :
    IncidentOrgAssignment :=
  { a with assignedBy := a.assignedBy.filter fun v => decide (v ≠ u) }

theorem Incident.key_detach (u : UserId) (row : Incident) : key (row.detach u) = key row := rfl

theorem IncidentTask.key_detach (u : UserId) (task : IncidentTask) :
    key (task.detach u) = key task := rfl

theorem IncidentOrgAssignment.key_detach (u : UserId) (a : IncidentOrgAssignment) :
    key (a.detach u) = key a := rfl

/-- CASCADE: the incidents that the user has reported are deleted with all
that hangs on them, whoever works on them. -/
def Db.deleteReports (u : UserId) (db : Db) : Db :=
  (db.incidents.select fun row => decide (row.userId = some u)).foldl
    (fun db incident => db.deleteIncident incident.id) db

/-- The rows of the user in the tables that stay. -/
def Db.detachUser (u : UserId) (db : Db) : Db :=
  let gone := (db.collaborations.select fun c => decide (c.user = u)).map Collaboration.id
  { db with
    users := db.users.erase u
    incidents := db.incidents.mapRows (Incident.detach u) (Incident.key_detach u)
    tasks := (db.tasks.eraseWhere fun task => decide (task.createdBy = u)).mapRows
      (IncidentTask.detach u) (IncidentTask.key_detach u)
    collaborations := db.collaborations.eraseWhere fun c => decide (c.user = u)
    orgAssignments := db.orgAssignments.mapRows (IncidentOrgAssignment.detach u)
      (IncidentOrgAssignment.key_detach u)
    partnerSuggestions := db.partnerSuggestions.eraseWhere fun s =>
      decide (s.suggestedBy = u ∨ s.suggestedPartner = u)
    notifications := db.notifications.filter fun n =>
      decide (n.user ≠ u) && n.colaboration.all fun c => !gone.contains c
    userActions := db.userActions.filter fun a => decide (a.user ≠ u)
    discussionMessages := db.discussionMessages.filter fun m =>
      decide (m.sender ≠ u ∧ m.recipient ≠ some u) && !gone.contains m.collaboration }

/-- The cascade over the reported incidents first; `detachUser` is what
becomes of the rows that stay. -/
def Db.deleteUser (u : UserId) (db : Db) : Db := (db.deleteReports u).detachUser u

/-! ## The two views -/

def User.account (user : User) : Account :=
  { user with firstName := "", lastName := "", phone := none }

def Db.directory (db : Db) : Directory where
  organisations := db.organisations
  users := ⟨db.users.rows.map User.account, by
    rw [List.map_map]
    exact db.users.nodup⟩

/-- The two requests that delete the row of a user. They decide differently,
and what goes with the row is the same. -/
inductive UserRemoval where
  /-- `DELETE /user/<id>`. -/
  | user (auth : Option UserId) (id : UserId)
  /-- `DELETE /organisation/<pk>/members/<id>`. -/
  | member (auth : Option UserId) (pk : OrganisationId) (id : UserId)

def UserRemoval.target : UserRemoval → UserId
  | user _ id | member _ _ id => id

/-- What the view decides, on the organisations and the users alone. -/
def UserRemoval.endpoint : UserRemoval → Endpoint
  | user auth id => Mapapi.deleteUser auth id
  | member auth pk id => removeMember auth pk id

def Answer.deletes : Answer → Bool
  | .noContent | .text 200 _ => true
  | _ => false

/-- The request passes its endpoint's checks, so that the user is really
deleted. -/
def UserRemoval.Permitted (request : UserRemoval) (db : Db) : Prop :=
  (request.endpoint db.directory).1.deletes = true

def UserRemoval.view (request : UserRemoval) (db : Db) : Answer × Db :=
  let answer := (request.endpoint db.directory).1
  (answer, if answer.deletes then db.deleteUser request.target else db)

section Effects

variable {db : Db} {u : UserId} {j : IncidentId} {row : Incident}

theorem get?_deleteUser :
    (db.deleteUser u).incidents.get? j =
      ((db.incidents.get? j).filter fun row => !decide (row.userId = some u)).map
        (Incident.detach u) := by
  have hincidents : (db.deleteUser u).incidents =
      (db.deleteReports u).incidents.mapRows (Incident.detach u) (Incident.key_detach u) := rfl
  rw [hincidents, Table.get?_mapRows]
  exact congrArg (Option.map _) (get?_foldl_select fun row => decide (row.userId = some u))

theorem get?_deleteUser_eq_some {row' : Incident} :
    (db.deleteUser u).incidents.get? j = some row' ↔
      ∃ row, db.incidents.get? j = some row ∧ row.userId ≠ some u ∧ row.detach u = row' := by
  rw [get?_deleteUser, Option.map_eq_some_iff]
  simp only [Option.filter_eq_some_iff, Bool.not_eq_true', decide_eq_false_iff_not, and_assoc,
    ne_eq]

/-- The tasks of an incident that stays: those of the other users, without `u` as the
one they are assigned to. -/
theorem tasks_deleteUser (hrow : db.incidents.get? j = some row) (hkept : row.userId ≠ some u)
    {p : IncidentTask → Bool} (hp : ∀ task, p task = true → task.incident = j)
    (hdetach : ∀ task : IncidentTask, p (task.detach u) = p task) :
    ((db.deleteUser u).tasks.select p).length =
      ((db.tasks.eraseWhere fun task => decide (task.createdBy = u)).select p).length := by
  have hreports : (db.deleteReports u).tasks.select p = db.tasks.select p := by
    have hadvances : db.Advances (db.deleteReports u) :=
      foldl_inv (fun (db' : Db) (r : Incident) => db'.deleteIncident r.id) db.Advances _
        (fun db' r _ h => h.trans (advances_deleteIncident r.id)) .refl
    refine hadvances.tasks j row ?_ p hp
    refine (get?_foldl_select fun row => decide (row.userId = some u)).trans ?_
    rw [hrow, Option.filter_some, if_pos (by simpa using hkept)]
  have herased : (((db.deleteReports u).tasks.eraseWhere fun task =>
      decide (task.createdBy = u)).select p) =
        (db.tasks.eraseWhere fun task => decide (task.createdBy = u)).select p := by
    have hrows := congrArg (List.filter fun task => !decide (task.createdBy = u)) hreports
    simp only [Table.select, Table.eraseWhere, List.filter_filter] at hrows ⊢
    simpa only [Bool.and_comm] using hrows
  rw [← herased]
  exact Table.length_select_mapRows _ _ (IncidentTask.key_detach u) hdetach

theorem view_of_permitted {request : UserRemoval} (h : request.Permitted db) :
    (request.view db).2 = db.deleteUser request.target :=
  if_pos h

theorem view_of_refused {request : UserRemoval} (h : ¬ request.Permitted db) :
    (request.view db).2 = db :=
  if_neg h

/-- An endpoint that removes a user says so. -/
theorem endpoint_removal (request : UserRemoval) (d : Directory) :
    (request.endpoint d).1.deletes = true ∧ (request.endpoint d).2 = d.delete request.target ∨
      (request.endpoint d).1.deletes = false ∧ (request.endpoint d).2 = d := by
  cases request with
  | user auth id =>
      unfold UserRemoval.endpoint Mapapi.deleteUser signedIn
      dsimp only
      cases d.authenticated auth with
      | none => exact Or.inr ⟨rfl, rfl⟩
      | some actor =>
          dsimp only
          cases d.users.get? id with
          | none => exact Or.inr ⟨rfl, rfl⟩
          | some item =>
              dsimp only
              split
              · exact Or.inr ⟨rfl, rfl⟩
              · exact Or.inl ⟨rfl, rfl⟩
  | member auth pk id =>
      unfold UserRemoval.endpoint removeMember signedIn
      dsimp only
      cases d.authenticated auth with
      | none => exact Or.inr ⟨rfl, rfl⟩
      | some actor =>
          dsimp only
          split
          · exact Or.inr ⟨rfl, rfl⟩
          cases d.memberOf pk id with
          | none => exact Or.inr ⟨rfl, rfl⟩
          | some member =>
              dsimp only
              split
              · exact Or.inr ⟨rfl, rfl⟩
              split
              · exact Or.inr ⟨rfl, rfl⟩
              · exact Or.inl ⟨rfl, rfl⟩

theorem users_deleteUser : (db.deleteUser u).users = db.users.erase u := by
  have hreports : (db.deleteReports u).users = db.users :=
    foldl_inv (fun (db : Db) (r : Incident) => db.deleteIncident r.id)
      (fun db' => db'.users = db.users) _ (fun _ _ _ h => h) rfl
  unfold Db.deleteUser Db.detachUser
  rw [hreports]

/-- On the users, a view does what its endpoint does. -/
theorem users_view (request : UserRemoval) :
    (request.view db).2.directory.users.rows = (request.endpoint db.directory).2.users.rows := by
  rcases endpoint_removal request db.directory with ⟨hdeletes, hd⟩ | ⟨hdeletes, hd⟩
  · rw [hd, view_of_permitted hdeletes]
    have hrows : (db.deleteUser request.target).users.rows.map User.account =
        (db.users.erase request.target).rows.map User.account := by rw [users_deleteUser]
    have herase : (db.users.rows.map User.account).filter
        (fun account => !decide (key account = request.target)) =
          (db.users.erase request.target).rows.map User.account := List.filter_map
    exact hrows.trans herase.symm
  · rw [hd, view_of_refused (Bool.eq_false_iff.mp hdeletes)]

end Effects

/-! ## Damage -/

/-- Every incident that is taken in charge has a leader. -/
def Db.AllLed (db : Db) : Prop :=
  ∀ i row, db.incidents.get? i = some row → row.etat = .taken → row.takenBy ≠ none

/-- The incidents of other people are as they should be. -/
structure Unharmed (db db' : Db) (u : UserId) : Prop where
  kept : ∀ i row v, db.incidents.get? i = some row → row.takenBy = some v → v ≠ u →
    db'.incidents.get? i ≠ none
  led : db'.AllLed
  progress : db'.AllProgressRight

/-- The progress that an incident has without the tasks that the user planned,
which go with the user. -/
def Db.progressWithout (u : UserId) (db : Db) (row : Incident) : Nat :=
  (db.withTasks (db.tasks.eraseWhere fun task => decide (task.createdBy = u))).computedProgress row

/-- The user has reported no incident that somebody else has taken, leads no incident of
somebody else, and has planned no task that makes a difference to its progress. -/
structure Detached (db : Db) (u : UserId) : Prop where
  reports : ∀ i row v, db.incidents.get? i = some row → row.userId = some u →
    row.takenBy = some v → v = u
  leads : ∀ i row, db.incidents.get? i = some row → row.takenBy = some u →
    row.etat = .taken → row.userId = some u
  plans : ∀ i row, db.incidents.get? i = some row → row.userId ≠ some u →
    db.progressWithout u row = db.computedProgress row

section Damage

variable {db : Db} {u : UserId} {i : IncidentId} {row : Incident}

theorem computedProgress_deleteUser (hrow : db.incidents.get? i = some row)
    (hkept : row.userId ≠ some u) :
    (db.deleteUser u).computedProgress (row.detach u) = db.progressWithout u row := by
  have hid : row.id = i := Table.key_of_get? hrow
  have hconfirmed : ((db.deleteUser u).confirmedTasks i).length =
      ((db.withTasks (db.tasks.eraseWhere fun task =>
        decide (task.createdBy = u))).confirmedTasks i).length := by
    refine tasks_deleteUser hrow hkept (fun task h => ?_) fun _ => rfl
    exact (of_decide_eq_true h).1
  have hdone : ((db.deleteUser u).doneTasks i).length =
      ((db.withTasks (db.tasks.eraseWhere fun task =>
        decide (task.createdBy = u))).doneTasks i).length := by
    refine tasks_deleteUser hrow hkept (fun task h => ?_) fun _ => rfl
    exact (of_decide_eq_true h).1
  have hid' : (row.detach u).id = i := hid
  have hfinished : (row.detach u).isFinished = row.isFinished := rfl
  unfold Db.progressWithout Db.computedProgress
  rw [hid', hid, hfinished, hconfirmed, hdone]

/-- Removing a user does no harm exactly if the user is detached from the
incidents of other people. This is about both views at once: neither asks what
the user leaves behind. -/
theorem removal_unharmed_iff (db : Db) (request : UserRemoval) (hpermitted : request.Permitted db)
    (hled : db.AllLed) (hprogress : db.AllProgressRight) :
    Unharmed db (request.view db).2 request.target ↔ Detached db request.target := by
  rw [view_of_permitted hpermitted]
  generalize request.target = u
  constructor
  · intro h
    refine ⟨fun i row v hrow hreported htaken => ?_, fun i row hrow htaken hetat => ?_,
      fun i row hrow hkept => ?_⟩
    · by_contra hne
      refine h.kept i row v hrow htaken hne ?_
      rw [get?_deleteUser, hrow, Option.filter_some, if_neg (by simpa using hreported)]
      rfl
    · by_contra hkept
      refine h.led i (row.detach u) (get?_deleteUser_eq_some.mpr ⟨row, hrow, hkept, rfl⟩) hetat ?_
      simp [Incident.detach, htaken]
    · have hright := h.progress i (row.detach u)
        (get?_deleteUser_eq_some.mpr ⟨row, hrow, hkept, rfl⟩)
      rw [Db.ProgressRight, computedProgress_deleteUser hrow hkept] at hright
      exact hright.symm.trans (hprogress i row hrow)
  · intro h
    refine ⟨fun i row v hrow htaken hne => ?_, fun i row' hrow' hetat => ?_,
      fun i row' hrow' => ?_⟩
    · have hkept : row.userId ≠ some u := fun hreported =>
        hne (h.reports i row v hrow hreported htaken)
      rw [get?_deleteUser_eq_some.mpr ⟨row, hrow, hkept, rfl⟩]
      exact Option.some_ne_none _
    · obtain ⟨row, hrow, hkept, rfl⟩ := get?_deleteUser_eq_some.mp hrow'
      obtain ⟨v, hv⟩ := Option.ne_none_iff_exists'.mp (hled i row hrow hetat)
      have hne : v ≠ u := by
        rintro rfl
        exact hkept (h.leads i row hrow hv hetat)
      simp [Incident.detach, hv, hne]
    · obtain ⟨row, hrow, hkept, rfl⟩ := get?_deleteUser_eq_some.mp hrow'
      rw [Db.ProgressRight, computedProgress_deleteUser hrow hkept, h.plans i row hrow hkept]
      exact hprogress i row hrow

theorem allLed_iff_rows :
    db.AllLed ↔ ∀ row ∈ db.incidents.rows, row.etat = .taken → row.takenBy ≠ none := by
  constructor
  · intro h row hrow
    exact h row.id row (Table.get?_of_mem hrow)
  · intro h i row hrow
    exact h row (Table.mem_of_get? hrow)

theorem allProgressRight_iff_rows :
    db.AllProgressRight ↔ ∀ row ∈ db.incidents.rows, db.ProgressRight row := by
  constructor
  · intro h row hrow
    exact h row.id row (Table.get?_of_mem hrow)
  · intro h i row hrow
    exact h row (Table.mem_of_get? hrow)

instance : Decidable db.AllLed := decidable_of_iff' _ allLed_iff_rows

instance : Decidable db.AllProgressRight := decidable_of_iff' _ allProgressRight_iff_rows

end Damage

/-- A super admin (1), the admin (2) of an organisation, who has planned a task and done
it, and the citizen (5) who has reported the incident. -/
def reportedStore : Db :=
  let taken := (Db.start [{ id := 1, name := "Voirie" }]
    [.superAdmin 1 "super@map.ml", .member 2 "voirie@map.ml" .orgAdmin 1,
      { User.superAdmin 5 "citizen@map.ml" with isSuperuser := false }]
    { Incident.new 1 (some "Fuite") "Bamako" "01-02-2025" with userId := some 5 }).exec
      [⟨0, .takeInCharge (some 2) 1 (.one .internal) .unknown⟩]
  ({ taken with
    tasks := ⟨[{ IncidentTask.blank 1 2 with id := 1, title := "Colmater", state := .done
                                             isConfirmed := true }], List.nodup_singleton _⟩
    }).recompute 1

theorem removal_unharmed_stranger :
    let db := { reportedStore with users := reportedStore.users.put (.superAdmin 9 "old@map.ml") }
    Unharmed db ((UserRemoval.user (some 1) 9).view db).2 9 := by
  intro db
  have hled : db.AllLed := by decide
  have hprogress : db.AllProgressRight := by decide
  have honly : ∀ i row, db.incidents.get? i = some row → row ∈ db.incidents.rows :=
    fun i row hrow => Table.mem_of_get? hrow
  have hrows : ∀ row ∈ db.incidents.rows, row.userId = some 5 ∧ row.takenBy = some 2 ∧
      db.progressWithout 9 row = db.computedProgress row := by decide
  refine (removal_unharmed_iff db (.user (some 1) 9) (by unfold UserRemoval.Permitted; decide) hled
    hprogress).mpr ⟨fun i row v hrow h => ?_, fun i row hrow h => ?_, fun i row hrow _ => ?_⟩
  · rw [(hrows row (honly i row hrow)).1] at h
    cases h
  · rw [(hrows row (honly i row hrow)).2.1] at h
    cases h
  · exact (hrows row (honly i row hrow)).2.2

/-- The incident goes with its reporter, although the organisation has taken it; it
loses its leader and the task behind its progress when the admin goes. -/
theorem removal_harms :
    reportedStore.AllLed ∧ reportedStore.AllProgressRight ∧
    ((UserRemoval.user (some 1) 5).Permitted reportedStore ∧
      ¬ Unharmed reportedStore ((UserRemoval.user (some 1) 5).view reportedStore).2 5 ∧
      ((UserRemoval.user (some 1) 5).view reportedStore).2.incidents.get? 1 = none) ∧
    (UserRemoval.member (some 1) 1 2).Permitted reportedStore ∧
      ¬ ((UserRemoval.member (some 1) 1 2).view reportedStore).2.AllLed ∧
      ¬ ((UserRemoval.member (some 1) 1 2).view reportedStore).2.AllProgressRight := by
  have hgone : ((UserRemoval.user (some 1) 5).view reportedStore).2.incidents.get? 1 = none := by
    decide
  unfold UserRemoval.Permitted
  refine ⟨by decide, by decide, ⟨by decide, fun h => ?_, hgone⟩, by decide, by decide, by decide⟩
  have htaken : (reportedStore.incidents.get? 1).any
      (fun row : Incident => decide (row.takenBy = some 2)) = true := by decide
  obtain ⟨row, hrow, htaken⟩ := (Option.any_eq_true ..).mp htaken
  exact h.kept 1 row 2 hrow (of_decide_eq_true htaken) (by decide) hgone

end Mapapi
