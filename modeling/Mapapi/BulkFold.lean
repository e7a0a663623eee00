import Mapapi.Server

/-!
# A bulk request and the requests it stands for

`BulkCollaborationRequestView` treats its elements one after the other, as if each of
them were posted to `CollaborationView`, but by code of its own. It asks for a role
where the single request has a default, it stores every row as pending, it does not
open the incident, and an element whose pair has a row already ends the whole request.

So the bulk request is the fold of the single ones exactly when no element meets one
of these differences (`BulkItem.Agrees`), each in the store that the single requests
before it leave.

The proof goes along the list of elements. An element that meets none of the
differences is treated alike, and the rest of the list follows on the same
store; at the first one that meets a difference the answer is wrong, and it
stays wrong whatever the rest of the list does, since the lists of an answer
only grow.
-/

namespace Mapapi

open Lib

/-- The body of the single request that an item stands for. `other_option` is
no field of an item. -/
def BulkItem.single (item : BulkItem) : CollaborationData :=
  { incident := match item.incident with
      | .absent => .absent
      | .malformed => .invalid
      | .uuid i => .value i
    role := item.role
    endDate := item.endDate
    motivation := item.motivation
    otherOption := .absent }

def Db.single (now : Instant) (auth : Option UserId) (db : Db) (item : BulkItem) : Db :=
  ((requestCollaboration now auth item.single).run db).2

/-- Whether the single requests answer 201, one after the other. -/
def singleAnswers (now : Instant) (auth : Option UserId) (db : Db) : List BulkItem → List Bool
  | [] => []
  | item :: rest =>
    decide (((requestCollaboration now auth item.single).run db).1.status = 201) ::
      singleAnswers now auth (db.single now auth item) rest

/-! ## What is promised -/

def createdIncidents (items : List BulkItem) (answers : List Bool) : List RawId :=
  (items.zip answers).filterMap fun (item, created) => if created then some item.incident else none

def refusedIndices (index : Nat) (answers : List Bool) : List Nat :=
  (answers.zipIdx index).filterMap fun (created, k) => if created then none else some k

def BulkError.index : BulkError → Nat
  | missingId index => index
  | unknownIncident index _ => index
  | invalid index _ _ => index

/-- A bulk answer reports, after the incidents `done` and the positions `refused`, an
element under `created` if its single request answers 201 and under `errors` otherwise,
each of them once; and the store is the one the single requests leave. -/
def FoldsFrom (now : Instant) (auth : Option UserId) (index : Nat) (done : List RawId)
    (refused : List Nat) (items : List BulkItem) (db : Db) (out : Response × Db) : Prop :=
  out.2 = exec (Db.single now auth) db items ∧
    ∃ status created errors message,
      out.1 = .ok status (.bulk created errors message) ∧
      created.map (fun c => RawId.uuid c.incident) =
        done ++ createdIncidents items (singleAnswers now auth db items) ∧
      errors.map BulkError.index = refused ++ refusedIndices index (singleAnswers now auth db items)

/-- The bulk request is the fold of the single ones. An empty list has no elements to
report. -/
def IsFold (now : Instant) (auth : Option UserId) (items : List BulkItem) (db : Db) : Prop :=
  let out := (bulkRequest now auth (some items)).run db
  match items with
  | [] => out.2 = db
  | _ => FoldsFrom now auth 0 [] [] items db out

/-! ## When it is kept -/

/-- The single request of these data is served: they are valid, and no active
collaboration is in the way. -/
def Db.servesSingle (db : Db) (now : Instant) (user : User) (data : CollaborationData) : Prop :=
  ∃ valid, collaborationIsValid now data db = .ok valid ∧
    ∀ c, db.collaboration? valid.incident.id user.id = some c → c.isActive = false

/-- A pending row is as good as the one the single request stores: that one is pending
too, or the receivers delete either of them and the incident has a mode. -/
def Db.pendingWillDo (db : Db) (user : User) (valid : ValidCollaboration) : Prop :=
  requestStatus valid.incident valid.role = .pending ∨
    db.receives valid.incident.takenBy user.id (valid.role.getD .contributor) = false ∧
      valid.incident.takeInChargeMode ≠ none

/-- The element does not meet any of the differences. -/
def BulkItem.Agrees (now : Instant) (user : User) (db : Db) (item : BulkItem) : Prop :=
  match item.incident with
  | .absent => True
  | .malformed => False
  | .uuid i =>
    if item.role = .absent then ¬ db.servesSingle now user item.single
    else ∀ valid, collaborationIsValid now item.single db = .ok valid →
      db.collaboration? i user.id = none ∧ db.pendingWillDo user valid

/-! ## The two ways to treat an element -/

section Element

variable {db : Db} {now : Instant} {auth : Option UserId} {user : User} {item : BulkItem}
  {i : IncidentId} {index : Nat} {created : List Collaboration} {errors : List BulkError}
  {rest : List BulkItem} {valid : ValidCollaboration}

/-- Where a role is given, the two ways validate the same data. -/
theorem toData_eq_single (hid : item.incident = .uuid i) (hrole : item.role ≠ .absent) :
    item.toData i = item.single := by
  unfold BulkItem.toData BulkItem.single
  rw [hid, if_neg hrole]

theorem invalid_of_absent (hrole : item.role = .absent) :
    ∃ fieldErrors, collaborationIsValid now (item.toData i) db = .error fieldErrors := by
  cases hvalid : collaborationIsValid now (item.toData i) db with
  | error fieldErrors => exact ⟨fieldErrors, rfl⟩
  | ok valid =>
      unfold collaborationIsValid at hvalid
      split at hvalid
      · rename_i herrors _
        simp [collaborationFieldErrors, BulkItem.toData, hrole, roleFieldProblem] at herrors
      · cases hvalid

/-- What the single endpoint stores for valid data: an inactive row of the
user makes room, the new one is inserted, and the incident is opened when the
row is accepted at once and nobody has a mode yet. -/
def Db.servedSingle (db : Db) (user : User) (valid : ValidCollaboration) : Db :=
  let status := requestStatus valid.incident valid.role
  let free := ((dropOld (db.collaboration? valid.incident.id user.id)).run db).2
  let stored := (free.createCollaboration valid.incident (valid.row user.id status)).2
  if valid.incident.takeInChargeMode = none ∧ status = .accepted then
    stored.openIncident valid.incident
  else stored

theorem request_served {data : CollaborationData} (hauth : db.authenticated auth = some user)
    (hoperative : isOrgOperative user = true)
    (hvalid : collaborationIsValid now data db = .ok valid)
    (hold : ∀ c, db.collaboration? valid.incident.id user.id = some c → c.isActive = false) :
    ((requestCollaboration now auth data).run db).1.status = 201 ∧
      ((requestCollaboration now auth data).run db).2 = db.servedSingle user valid := by
  have hinactive :
      (db.collaboration? valid.incident.id user.id).any Collaboration.isActive = false := by
    rw [Option.any_eq_false]
    exact hold
  have hfree : ((dropOld (db.collaboration? valid.incident.id user.id)).run db).2.collaboration?
      valid.incident.id user.id = none := by
    have hseat := (dropOld_run db valid.incident.id user.id).seats valid.incident.id user.id
    rw [if_pos ⟨rfl, rfl⟩] at hseat
    exact Option.map_eq_none_iff.mp hseat
  obtain ⟨id, db', hcreate, -⟩ := Db.createCollaboration_free valid.incident
    (c := valid.row user.id (requestStatus valid.incident valid.role)) hfree
  unfold Db.servedSingle requestCollaboration
  rw [authenticate_passes hauth, permit_passes hoperative]
  simp only [Prog.run_bind, Prog.run_read, hvalid]
  rw [refuseIf_passes hinactive]
  simp only [Prog.run_bind, Prog.run_atomic, hcreate, Prog.run_when, Prog.run_modify,
    Prog.run_pure]
  exact ⟨rfl, trivial⟩

theorem single_served (hauth : db.authenticated auth = some user)
    (hadmin : isOrgAdmin user = true)
    (hvalid : collaborationIsValid now item.single db = .ok valid)
    (hold : ∀ c, db.collaboration? valid.incident.id user.id = some c → c.isActive = false) :
    ((requestCollaboration now auth item.single).run db).1.status = 201 ∧
      db.single now auth item = db.servedSingle user valid :=
  request_served hauth (by simp [isOrgOperative, hadmin]) hvalid hold

theorem single_refused (hauth : db.authenticated auth = some user)
    (h : ¬ db.servesSingle now user item.single) :
    ((requestCollaboration now auth item.single).run db).1.status ≠ 201 ∧
      db.single now auth item = db := by
  rcases @requestCollaboration_run db now auth item.single _ rfl
    with ⟨hsame, hstatus⟩ | ⟨user', valid, _, hauth', -, hvalid, hold, -⟩
  · exact ⟨fun hserved => absurd (hserved ▸ hstatus) (by decide), hsame⟩
  · obtain rfl := Option.some.inj (hauth.symm.trans hauth')
    exact absurd ⟨valid, hvalid, hold⟩ h

theorem bulk_refused (hid : item.incident = .absent ∨
      ∃ i fieldErrors, item.incident = .uuid i ∧
        collaborationIsValid now (item.toData i) db = .error fieldErrors) :
    ∃ error, BulkError.index error = index ∧
      (bulkItems now user index created errors (item :: rest)).run db =
        (bulkItems now user (index + 1) created (errors ++ [error]) rest).run db := by
  rcases hid with hid | ⟨i, fieldErrors, hid, hvalid⟩
  · exact ⟨.missingId index, rfl, by simp only [bulkItems, hid]⟩
  · cases hinc : db.incidents.get? i with
    | none =>
        refine ⟨.unknownIncident index i, rfl, ?_⟩
        simp only [bulkItems, hid, Prog.run_bind, Prog.run_read, hinc]
    | some incident =>
        refine ⟨.invalid index i fieldErrors, rfl, ?_⟩
        simp only [bulkItems, hid, Prog.run_bind, Prog.run_read, hinc, hvalid]

theorem bulk_valid (hid : item.incident = .uuid i)
    (hvalid : collaborationIsValid now (item.toData i) db = .ok valid) :
    i = valid.incident.id ∧
      (bulkItems now user index created errors (item :: rest)).run db =
        match db.createCollaboration valid.incident (valid.row user.id .pending) with
        | (none, db') => (.crash, db')
        | (some c, db') =>
          (bulkItems now user (index + 1) (created ++ [c]) errors rest).run db' := by
  obtain ⟨hincident, hinc, -⟩ := collaborationIsValid_ok hvalid
  obtain rfl : i = valid.incident.id := Arg.value.inj hincident
  refine ⟨rfl, ?_⟩
  simp only [bulkItems, hid, Prog.run_bind, Prog.run_read, hinc, hvalid, Prog.run_atomic]
  rcases db.createCollaboration valid.incident (valid.row user.id .pending) with ⟨_ | c, db'⟩ <;>
    rfl

end Element

/-! ## The stores that differ, and those that do not -/

section Stores

variable {db : Db} {now : Instant} {auth : Option UserId} {user : User} {i : IncidentId}
  {valid : ValidCollaboration}

theorem insert_deleted {c : Collaboration} {incident : Incident}
    (hdeleted : db.receives incident.takenBy c.user c.role = false) :
    (db.insertCollaboration incident c).2 =
      ({ db with collaborations := db.collaborations.put c }.wsPushCollaborationCreated incident
        c).deleteCollaboration c := by
  have huser : ({ db with collaborations := db.collaborations.put c }.wsPushCollaborationCreated
      incident c).user? incident.takenBy = db.user? incident.takenBy := rfl
  unfold Db.receives at hdeleted
  unfold Db.insertCollaboration Db.notifyOrganisationOnCollaboration
  rw [huser]
  cases hleader : db.user? incident.takenBy with
  | none => rfl
  | some leader =>
      rw [hleader, Option.any_some, decide_eq_false_iff_not] at hdeleted
      have hown : ¬ (leader.id = c.user ∨ c.role = .leader) := by tauto
      have hmail : ¬ leader.email ≠ "" := by tauto
      dsimp only
      rw [if_neg hown, if_neg hmail]

/-- It leaves the same store whatever its status is. -/
theorem create_deleted {c c' : Collaboration} {incident : Incident}
    (hfree : db.collaboration? c.incident c.user = none)
    (hdeleted : db.receives incident.takenBy c.user c.role = false)
    (hincident : c'.incident = c.incident) (huser : c'.user = c.user) (hrole : c'.role = c.role) :
    (db.createCollaboration incident c').2 = (db.createCollaboration incident c).2 := by
  have hnew : ∀ d : Collaboration, d.incident = c.incident → d.user = c.user →
      (db.collaborations.put { d with id := db.freshCollaborationId }).erase
        (d.incident, d.user) = db.collaborations := by
    intro d hd hd'
    refine Table.erase_put_self (r := { d with id := db.freshCollaborationId }) ?_
    have hkey : key { d with id := db.freshCollaborationId } = (c.incident, c.user) := by
      simp only [key, hd, hd']
    rw [hkey]
    exact hfree
  have hfree' : db.collaboration? c'.incident c'.user = none := by rw [hincident, huser, hfree]
  unfold Db.createCollaboration
  rw [if_neg (by simp [hfree']), if_neg (by simp [hfree])]
  dsimp only
  rw [insert_deleted (by simpa [huser, hrole] using hdeleted),
    insert_deleted (by simpa using hdeleted)]
  simp only [Db.deleteCollaboration, Db.wsPushCollaborationCreated, Db.logAction,
    hnew c' hincident huser, hnew c rfl rfl]
  rw [huser]

/-- The incident has been taken, in some mode. One without a mode is opened by
the single request, when it is accepted at once, and never by a list. -/
def Db.HasMode (db : Db) (i : IncidentId) : Prop :=
  ∃ row, db.incidents.get? i = some row ∧ row.takeInChargeMode ≠ none

theorem hasMode_opened {incident row : Incident} (hrow : db.incidents.get? incident.id = some row) :
    (db.openIncident incident).HasMode incident.id := by
  refine ⟨_, Db.row_writeColumns hrow rfl, ?_⟩
  have hopened : incident.opened.pinProgress.takeInChargeMode = some .collaborative := by
    unfold Incident.pinProgress
    split <;> rfl
  unfold Incident.writeColumns Incident.savedColumns
  split <;> simp [Incident.Column.write, hopened]

theorem hasMode_openIncident {incident : Incident} (h : db.HasMode i) :
    (db.openIncident incident).HasMode i := by
  obtain ⟨row, hrow, hmode⟩ := h
  by_cases hi : i = incident.id
  · subst hi
    exact hasMode_opened hrow
  · have hother : (db.openIncident incident).incidents.get? i = db.incidents.get? i :=
      Db.incidents_saveIncidentFields_other hi
    exact ⟨row, hother.trans hrow, hmode⟩

/-- What no single request takes away: the user accounts, an accepted seat, and the
mode of an incident. -/
theorem single_keeps (item : BulkItem) :
    (db.single now auth item).users = db.users ∧
      (∀ role, db.seats i user.id = some ⟨role, .accepted⟩ →
        (db.single now auth item).seats i user.id = some ⟨role, .accepted⟩) ∧
      (db.HasMode i → (db.single now auth item).HasMode i) := by
  rcases @requestCollaboration_run db now auth item.single _ rfl
    with ⟨hsame, -⟩ | ⟨user', valid, db', -, -, -, hold, hset, -, hout⟩
  · unfold Db.single
    rw [hsame]
    exact ⟨rfl, fun _ h => h, id⟩
  · have hseat : ∀ role, db.seats i user.id = some ⟨role, .accepted⟩ →
        db'.seats i user.id = some ⟨role, .accepted⟩ := by
      intro role hseat
      rw [hset.seats, if_neg, hseat]
      rintro ⟨rfl, huser⟩
      rw [huser] at hseat
      obtain ⟨c, hc, hcseat⟩ := Option.map_eq_some_iff.mp hseat
      have hstatus : c.status = .accepted := congrArg Seat.status hcseat
      have hinactive := hold c hc
      simp [Collaboration.isActive, hstatus] at hinactive
    have hmode : db.HasMode i → db'.HasMode i := by
      unfold Db.HasMode
      rw [hset.rows.incidents]
      exact id
    unfold Db.single
    rw [hout]
    split
    · exact ⟨hset.rows.users, hseat, fun h => hasMode_openIncident (hmode h)⟩
    · exact ⟨hset.rows.users, hseat, hmode⟩

theorem requestStatus_accepted {incident : Incident} {role : Option CollabRole}
    (h : requestStatus incident role ≠ .pending) : requestStatus incident role = .accepted := by
  unfold requestStatus at h ⊢
  split
  · rename_i hinternal
    exact absurd (if_pos hinternal) h
  · rename_i hinternal
    rw [if_neg hinternal] at h
    split <;> rename_i hobserver
    · rfl
    · rw [if_neg hobserver] at h
      split at h <;> rename_i hcontributor
      · rw [if_pos hcontributor]
        split at h <;> rename_i htaken
        · rw [if_pos htaken]
        · exact absurd rfl h
      · exact absurd rfl h

/-- A pending row that will do: both requests leave the same store. -/
theorem servedSingle_eq (hfree : db.collaboration? valid.incident.id user.id = none)
    (h : db.pendingWillDo user valid) :
    db.servedSingle user valid =
      (db.createCollaboration valid.incident (valid.row user.id .pending)).2 := by
  unfold Db.servedSingle
  rw [hfree]
  rcases h with hpending | ⟨hdeleted, hmode⟩
  · simp only [hpending, reduceCtorEq, and_false, if_false]
    rfl
  · simp only [hmode, false_and, if_false]
    exact create_deleted (c := valid.row user.id .pending) hfree hdeleted rfl rfl rfl

theorem servedSingle_accepted (hfree : db.collaboration? valid.incident.id user.id = none)
    (haccepted : requestStatus valid.incident valid.role = .accepted) :
    ∃ db', Db.SetsSeat db db' valid.incident.id user.id
        (if db.receives valid.incident.takenBy user.id (valid.role.getD .contributor) then
          some ⟨valid.role.getD .contributor, .accepted⟩ else none) ∧
      db.servedSingle user valid =
        if valid.incident.takeInChargeMode = none then db'.openIncident valid.incident
        else db' := by
  obtain ⟨id, db', hcreate, hset⟩ := Db.createCollaboration_free valid.incident
    (c := valid.row user.id .accepted) hfree
  refine ⟨db', hset, ?_⟩
  have hdb' : (db.createCollaboration valid.incident (valid.row user.id .accepted)).2 = db' :=
    congrArg Prod.snd hcreate
  unfold Db.servedSingle
  rw [hfree, haccepted, ← hdb']
  simp only [and_true]
  rfl

/-- An accepted seat and the mode of an incident stay through the single requests. -/
theorem exec_single_keeps (rest : List BulkItem) :
    (∀ role, db.seats i user.id = some ⟨role, .accepted⟩ →
        (exec (Db.single now auth) db rest).seats i user.id = some ⟨role, .accepted⟩) ∧
      (db.HasMode i → (exec (Db.single now auth) db rest).HasMode i) := by
  refine ⟨fun role hseat => ?_, fun hmode => ?_⟩
  · exact exec_inv (fun d item h => (@single_keeps d now auth user i item).2.1 role h) hseat rest
  · exact exec_inv (fun d item h => (@single_keeps d now auth user i item).2.2 h) hmode rest

end Stores

/-! ## One element of each -/

section Fold

variable {db : Db} {now : Instant} {auth : Option UserId} {user : User} {item : BulkItem}
  {index : Nat} {created : List Collaboration} {errors : List BulkError} {rest : List BulkItem}

/-- The bulk request treats its first element as the single request does: both leave
the same store, and the element is reported where its single request says. -/
def TreatedAlike (db : Db) (now : Instant) (auth : Option UserId) (user : User) (item : BulkItem)
    (index : Nat) (created : List Collaboration) (errors : List BulkError)
    (rest : List BulkItem) : Prop :=
  ∃ created' errors',
    (bulkItems now user index created errors (item :: rest)).run db =
      (bulkItems now user (index + 1) (created ++ created') (errors ++ errors') rest).run
        (db.single now auth item) ∧
    if ((requestCollaboration now auth item.single).run db).1.status = 201 then
      created'.map (fun c => RawId.uuid c.incident) = [item.incident] ∧
        errors'.map BulkError.index = []
    else created'.map (fun c => RawId.uuid c.incident) = [] ∧
      errors'.map BulkError.index = [index]

theorem alike_refused (hauth : db.authenticated auth = some user)
    (hbulk : item.incident = .absent ∨ ∃ i fieldErrors, item.incident = .uuid i ∧
      collaborationIsValid now (item.toData i) db = .error fieldErrors)
    (hsingle : ¬ db.servesSingle now user item.single) :
    TreatedAlike db now auth user item index created errors rest := by
  obtain ⟨hstatus, hstore⟩ := @single_refused db now auth user item hauth hsingle
  obtain ⟨error, hindex, hrun⟩ := @bulk_refused db now user item index created errors rest hbulk
  refine ⟨[], [error], ?_, ?_⟩
  · rw [hrun, hstore, List.append_nil]
  · rw [if_neg hstatus]
    exact ⟨rfl, congrArg (fun n => [n]) hindex⟩

theorem alike_served {valid : ValidCollaboration} {i : IncidentId}
    (hauth : db.authenticated auth = some user) (hadmin : isOrgAdmin user = true)
    (hid : item.incident = .uuid i) (hrole : item.role ≠ .absent)
    (hvalid : collaborationIsValid now item.single db = .ok valid)
    (hfree : db.collaboration? i user.id = none) (hpending : db.pendingWillDo user valid) :
    TreatedAlike db now auth user item index created errors rest := by
  obtain ⟨rfl, hrun⟩ := @bulk_valid db now user item _ index created errors rest _ hid
    ((toData_eq_single hid hrole).symm ▸ hvalid)
  obtain ⟨hstatus, hstore⟩ := single_served hauth hadmin hvalid fun c hc => by
    rw [hfree] at hc
    cases hc
  obtain ⟨id, db', hcreate, -⟩ := Db.createCollaboration_free valid.incident
    (c := valid.row user.id .pending) hfree
  refine ⟨[{ valid.row user.id .pending with id := id }], [], ?_, ?_⟩
  · rw [hrun, hstore, servedSingle_eq hfree hpending, hcreate, List.append_nil]
  · rw [if_pos hstatus, hid]
    exact ⟨rfl, rfl⟩

/-- An item that agrees is treated as the single request would treat it, in
the store in which its turn comes. -/
theorem alike_of_agrees (hauth : db.authenticated auth = some user)
    (hadmin : isOrgAdmin user = true) (h : item.Agrees now user db) :
    TreatedAlike db now auth user item index created errors rest := by
  unfold BulkItem.Agrees at h
  cases hid : item.incident with
  | absent =>
      refine alike_refused hauth (Or.inl hid) ?_
      rintro ⟨valid, hvalid, -⟩
      have hincident := (collaborationIsValid_ok hvalid).1
      rw [BulkItem.single, hid] at hincident
      cases hincident
  | malformed =>
      rw [hid] at h
      exact h.elim
  | uuid i =>
      simp only [hid] at h
      by_cases hrole : item.role = .absent
      · rw [if_pos hrole] at h
        obtain ⟨fieldErrors, herrors⟩ := @invalid_of_absent db now item i hrole
        exact alike_refused hauth (Or.inr ⟨i, fieldErrors, hid, herrors⟩) h
      · rw [if_neg hrole] at h
        cases hvalid : collaborationIsValid now item.single db with
        | error fieldErrors =>
            refine alike_refused hauth (Or.inr ⟨i, fieldErrors, hid, ?_⟩) ?_
            · rw [toData_eq_single hid hrole, hvalid]
            · rintro ⟨valid, hvalid', -⟩
              rw [hvalid] at hvalid'
              cases hvalid'
        | ok valid =>
            obtain ⟨hfree, hpending⟩ := h valid hvalid
            exact alike_served hauth hadmin hid hrole hvalid hfree hpending

theorem createdIncidents_cons (b : Bool) (answers : List Bool) :
    createdIncidents (item :: rest) (b :: answers) =
      (if b then [item.incident] else []) ++ createdIncidents rest answers := by
  cases b <;> rfl

theorem refusedIndices_cons (b : Bool) (answers : List Bool) :
    refusedIndices index (b :: answers) =
      (if b then [] else [index]) ++ refusedIndices (index + 1) answers := by
  cases b <;> rfl

theorem foldsFrom_cons (h : TreatedAlike db now auth user item index created errors rest) :
    ∃ created' errors',
      FoldsFrom now auth index (created.map fun c => RawId.uuid c.incident)
          (errors.map BulkError.index) (item :: rest) db
          ((bulkItems now user index created errors (item :: rest)).run db) ↔
        FoldsFrom now auth (index + 1) (created'.map fun c => RawId.uuid c.incident)
          (errors'.map BulkError.index) rest (db.single now auth item)
          ((bulkItems now user (index + 1) created' errors' rest).run
            (db.single now auth item)) := by
  obtain ⟨created', errors', hrun, hreport⟩ := h
  refine ⟨created ++ created', errors ++ errors', ?_⟩
  have hplaces : created'.map (fun c => RawId.uuid c.incident) =
        (if decide (((requestCollaboration now auth item.single).run db).1.status = 201) then
          [item.incident] else []) ∧
      errors'.map BulkError.index =
        if decide (((requestCollaboration now auth item.single).run db).1.status = 201) then []
        else [index] := by
    split at hreport
    · rename_i hstatus
      simpa [hstatus] using hreport
    · rename_i hstatus
      simpa [hstatus] using hreport
  unfold FoldsFrom
  rw [hrun, exec_cons]
  simp only [singleAnswers, createdIncidents_cons, refusedIndices_cons, List.map_append,
    hplaces.1, hplaces.2, List.append_assoc]

/-! ## An element that meets a difference -/

theorem refusedIndices_ge {answers : List Bool} {k : Nat}
    (h : k ∈ refusedIndices index answers) : index ≤ k := by
  induction answers generalizing index with
  | nil => cases h
  | cons b answers ih =>
      rw [refusedIndices_cons] at h
      rcases List.mem_append.mp h with hhead | hrest
      · cases b with
        | true => cases hhead
        | false => exact Nat.le_of_eq (List.mem_singleton.mp hhead).symm
      · exact Nat.le_of_succ_le (ih hrest)

/-- Errors are only ever appended, so an index that is reported early is in
the report at the end. -/
theorem bulkItems_errors {items : List BulkItem} {status : Nat} {created' : List Collaboration}
    {errors' : List BulkError} {message : String}
    (h : ((bulkItems now user index created errors items).run db).1 =
      .ok status (.bulk created' errors' message)) : errors <+: errors' := by
  induction items generalizing index created errors db with
  | nil =>
      cases h
      exact List.prefix_rfl
  | cons item rest ih =>
      cases hid : item.incident with
      | absent =>
          obtain ⟨error, -, hrun⟩ :=
            @bulk_refused db now user item index created errors rest (Or.inl hid)
          rw [hrun] at h
          exact (List.prefix_append ..).trans (ih h)
      | malformed => simp [bulkItems, hid] at h
      | uuid i =>
          cases hvalid : collaborationIsValid now (item.toData i) db with
          | error fieldErrors =>
              obtain ⟨error, -, hrun⟩ := @bulk_refused db now user item index created errors rest
                (Or.inr ⟨i, fieldErrors, hid, hvalid⟩)
              rw [hrun] at h
              exact (List.prefix_append ..).trans (ih h)
          | ok valid =>
              obtain ⟨rfl, hrun⟩ :=
                @bulk_valid db now user item _ index created errors rest _ hid hvalid
              rw [hrun] at h
              split at h
              · cases h
              · exact ih h

theorem not_foldsFrom_crash {items : List BulkItem} {done : List RawId} {refused : List Nat}
    {out : Response × Db} (h : out.1 = .crash) :
    ¬ FoldsFrom now auth index done refused items db out := by
  rintro ⟨-, _, _, _, _, hok, -⟩
  rw [h] at hok
  cases hok

theorem not_foldsFrom_missing {i : IncidentId} (hauth : db.authenticated auth = some user)
    (hadmin : isOrgAdmin user = true) (hid : item.incident = .uuid i)
    (hrole : item.role = .absent) (hserved : db.servesSingle now user item.single) :
    ¬ FoldsFrom now auth index (created.map fun c => RawId.uuid c.incident)
      (errors.map BulkError.index) (item :: rest) db
      ((bulkItems now user index created errors (item :: rest)).run db) := by
  obtain ⟨valid, hvalid, hold⟩ := hserved
  obtain ⟨hstatus, -⟩ := single_served hauth hadmin hvalid hold
  obtain ⟨fieldErrors, herrors⟩ := @invalid_of_absent db now item i hrole
  obtain ⟨error, hindex, hrun⟩ := @bulk_refused db now user item index created errors rest
    (Or.inr ⟨i, fieldErrors, hid, herrors⟩)
  rintro ⟨-, status, created', errors', message, hok, -, hreported⟩
  rw [hrun] at hok
  -- the element is among the errors, and only the positions after it are refused
  have hprefix := (bulkItems_errors hok).map BulkError.index
  rw [List.map_append, hreported, List.prefix_append_right_inj, singleAnswers,
    refusedIndices_cons, decide_eq_true hstatus, if_pos rfl, List.nil_append, List.map_singleton,
    hindex] at hprefix
  have hmem : index ∈ refusedIndices (index + 1) (singleAnswers now auth
      (db.single now auth item) rest) := hprefix.subset (List.mem_singleton_self index)
  exact Nat.not_succ_le_self index (refusedIndices_ge hmem)

/-- The single request accepts, and the bulk request asks: a row that stays shows it,
and so does the mode of the incident. -/
theorem not_foldsFrom_accepted {valid : ValidCollaboration} {i : IncidentId}
    (hauth : db.authenticated auth = some user) (hadmin : isOrgAdmin user = true)
    (hid : item.incident = .uuid i) (hrole : item.role ≠ .absent)
    (hvalid : collaborationIsValid now item.single db = .ok valid)
    (hfree : db.collaboration? i user.id = none) (hpending : ¬ db.pendingWillDo user valid)
    {done : List RawId} {refused : List Nat} :
    ¬ FoldsFrom now auth index done refused (item :: rest) db
      ((bulkItems now user index created errors (item :: rest)).run db) := by
  obtain ⟨rfl, hrun⟩ := @bulk_valid db now user item _ index created errors rest _ hid
    ((toData_eq_single hid hrole).symm ▸ hvalid)
  obtain ⟨-, hinc, -⟩ := collaborationIsValid_ok hvalid
  obtain ⟨id, db', hcreate, hset⟩ := Db.createCollaboration_free valid.incident
    (c := valid.row user.id .pending) hfree
  rw [hcreate] at hrun
  have hbulk := @bulkItems_run db' now user _ rest (index + 1)
    (created ++ [{ valid.row user.id .pending with id := id }]) errors rfl
  obtain ⟨db2, hset2, hstep⟩ :=
    servedSingle_accepted hfree (requestStatus_accepted fun h => hpending (Or.inl h))
  rw [← (single_served hauth hadmin hvalid fun c hc => by rw [hfree] at hc; cases hc).2] at hstep
  rintro ⟨hstore, -⟩
  rw [hrun, exec_cons] at hstore
  dsimp only at hstore
  cases hkept : db.receives valid.incident.takenBy user.id (valid.role.getD .contributor) with
  | true =>
      have hpendingSeat : db'.seats valid.incident.id user.id =
          some ⟨valid.role.getD .contributor, .pending⟩ := by
        rw [hset.seats, if_pos ⟨rfl, rfl⟩]
        exact if_pos hkept
      have hacceptedSeat : (db.single now auth item).seats valid.incident.id user.id =
          some ⟨valid.role.getD .contributor, .accepted⟩ := by
        have hseat : db2.seats valid.incident.id user.id =
            some ⟨valid.role.getD .contributor, .accepted⟩ := by
          rw [hset2.seats, if_pos ⟨rfl, rfl⟩]
          exact if_pos hkept
        rw [hstep]
        split
        · exact hseat
        · exact hseat
      have hlast := (@exec_single_keeps _ now auth user _ rest).1 _ hacceptedSeat
      rw [← hstore] at hlast
      rcases hbulk.own valid.incident.id with hsame | ⟨hnone, -⟩
      · rw [hlast, hpendingSeat] at hsame
        cases hsame
      · rw [hpendingSeat] at hnone
        cases hnone
  | false =>
      have hmode : valid.incident.takeInChargeMode = none :=
        Decidable.byContradiction fun h => hpending (Or.inr ⟨hkept, h⟩)
      rw [if_pos hmode] at hstep
      have hopened : (db.single now auth item).HasMode valid.incident.id := by
        rw [hstep]
        exact hasMode_opened (hset2.rows.incidents ▸ hinc)
      have hlast := (@exec_single_keeps _ now auth user _ rest).2 hopened
      rw [← hstore] at hlast
      obtain ⟨row, hrow, hsome⟩ := hlast
      rw [hbulk.rows.incidents, hset.rows.incidents, hinc] at hrow
      exact hsome (Option.some.inj hrow ▸ hmode)

/-- And one that does not agree is enough to spoil the fold: the report or the
rows differ from then on, whatever the later items do. -/
theorem not_foldsFrom_of_differs (hauth : db.authenticated auth = some user)
    (hadmin : isOrgAdmin user = true) (h : ¬ item.Agrees now user db) :
    ¬ FoldsFrom now auth index (created.map fun c => RawId.uuid c.incident)
      (errors.map BulkError.index) (item :: rest) db
      ((bulkItems now user index created errors (item :: rest)).run db) := by
  unfold BulkItem.Agrees at h
  cases hid : item.incident with
  | absent =>
      rw [hid] at h
      exact absurd trivial h
  | malformed => exact not_foldsFrom_crash (by simp [bulkItems, hid])
  | uuid i =>
      simp only [hid] at h
      by_cases hrole : item.role = .absent
      · rw [if_pos hrole, not_not] at h
        exact not_foldsFrom_missing hauth hadmin hid hrole h
      · rw [if_neg hrole] at h
        obtain ⟨valid, hvalid⟩ := not_forall.mp h
        obtain ⟨hvalid, hdiffers⟩ := Classical.not_imp.mp hvalid
        by_cases hfree : db.collaboration? i user.id = none
        · have hpending : ¬ db.pendingWillDo user valid := fun h => hdiffers ⟨hfree, h⟩
          exact not_foldsFrom_accepted hauth hadmin hid hrole hvalid hfree hpending
        · -- the unique constraint
          obtain ⟨rfl, hrun⟩ := @bulk_valid db now user item _ index created errors rest _ hid
            ((toData_eq_single hid hrole).symm ▸ hvalid)
          have hfail : db.createCollaboration valid.incident (valid.row user.id .pending) =
              (none, db) := if_pos (Option.isSome_iff_ne_none.mpr hfree)
          rw [hfail] at hrun
          exact not_foldsFrom_crash (congrArg Prod.fst hrun)

/-- From any element on, with what has been reported before it. The induction
is on the elements; the store and the two lists go along. -/
theorem foldsFrom_iff {items : List BulkItem} (hauth : db.authenticated auth = some user)
    (hadmin : isOrgAdmin user = true) :
    FoldsFrom now auth index (created.map fun c => RawId.uuid c.incident)
        (errors.map BulkError.index) items db
        ((bulkItems now user index created errors items).run db) ↔
      Along (Db.single now auth) (fun db item => item.Agrees now user db) db items := by
  induction items generalizing db index created errors with
  | nil =>
      refine ⟨fun _ => trivial, fun _ => ⟨rfl, _, created, errors, _, rfl, ?_, ?_⟩⟩
      · exact (List.append_nil _).symm
      · exact (List.append_nil _).symm
  | cons item rest ih =>
      have hauth' : (db.single now auth item).authenticated auth = some user := by
        unfold Db.authenticated Db.user?
        rw [(@single_keeps db now auth user 0 item).1]
        exact hauth
      by_cases hagrees : item.Agrees now user db
      · obtain ⟨created', errors', hiff⟩ := foldsFrom_cons
          (@alike_of_agrees db now auth user item index created errors rest hauth hadmin hagrees)
        rw [hiff, ih hauth']
        exact ⟨fun h => ⟨hagrees, h⟩, And.right⟩
      · refine iff_of_false (not_foldsFrom_of_differs hauth hadmin hagrees) ?_
        exact fun h => hagrees h.1

/-- The bulk request is the fold of the single ones exactly when no element
meets a difference, each in the store that the single requests before it
leave. The condition is on the single requests alone, and so is decided before
the bulk request is sent. -/
theorem bulk_folds_iff {items : List BulkItem} (hauth : db.authenticated auth = some user)
    (hadmin : isOrgAdmin user = true) :
    IsFold now auth items db ↔
      Along (Db.single now auth) (fun db item => item.Agrees now user db) db items := by
  have hrun : (bulkRequest now auth (some items)).run db =
      (match items with
        | item :: rest => bulkItems now user 0 [] [] (item :: rest)
        | [] => pure (.error 400 "requests doit être une liste non vide.")).run db := by
    unfold bulkRequest
    rw [authenticate_passes hauth, permit_passes hadmin]
    cases items <;> rfl
  unfold IsFold
  rw [hrun]
  cases items with
  | nil => exact iff_of_true rfl trivial
  | cons item rest => exact @foldsFrom_iff db now auth user 0 [] [] (item :: rest) hauth hadmin

end Fold

def ledStore : Db :=
  Db.start [{ id := 1, name := "Voirie" }, { id := 2, name := "Eau" }]
    [.member 2 "voirie@map.ml" .orgAdmin 1, .member 3 "eau@map.ml" .orgAdmin 2]
    { Incident.new 1 (some "Fuite") "Bamako" "01-02-2025" with
      etat := .taken, takenBy := some 2, takeInChargeMode := some .collaborative }

def asking (role : Arg CollabRole) : BulkItem :=
  { incident := .uuid 1, role := role, endDate := .absent, motivation := .absent }

/-- An element without an incident and a contributor, one after the other. -/
theorem bulk_folds_contributor :
    IsFold 0 (some 3) [{ asking .absent with incident := .absent }, asking (.value .contributor)]
      ledStore := by
  refine (@bulk_folds_iff ledStore 0 (some 3) (.member 3 "eau@map.ml" .orgAdmin 2) _ (by decide)
    (by decide)).mpr
    ⟨trivial, fun valid hvalid => ?_, trivial⟩
  obtain rfl := Except.ok.inj (hvalid.symm.trans rfl)
  exact ⟨by decide, Or.inl (by decide)⟩

/-- An observer is accepted by the single request and has to wait after the bulk
request; an element without a role is refused by the bulk request only; and an element
that comes twice makes it crash. -/
theorem bulk_differs :
    ¬ IsFold 0 (some 3) [asking (.value .observer)] ledStore ∧
      ¬ IsFold 0 (some 3) [asking .absent] ledStore ∧
      ¬ IsFold 0 (some 3) [asking (.value .contributor), asking (.value .contributor)]
        ledStore := by
  refine ⟨fun h => ?_, fun h => ?_, fun h => ?_⟩
  · exact absurd (congrArg (fun db => db.seats 1 3) h.1) (by decide +kernel)
  · exact absurd (congrArg (fun db => db.seats 1 3) h.1) (by decide +kernel)
  · obtain ⟨-, _, _, _, _, hok, -⟩ := h
    have hcrash : ((bulkRequest 0 (some 3) (some
        [asking (.value .contributor), asking (.value .contributor)])).run ledStore).1 =
          .crash := by
      decide +kernel
    rw [hcrash] at hok
    cases hok

end Mapapi
