import Mapapi.IncidentPut
import Mapapi.Lib.Footprint
import Mapapi.Server
import Mapapi.TaskWrites

/-!
# What the endpoints write

Every endpoint and task that is modelled writes in one of a few ways (`Primitive`), to rows
that it has looked up before. A scope says which rows those are. The footprint of an
operation is proved once, for the scope of what it names (`Op.writes`,
`TaskRequest.writes`); the laws about whole stores and about any interleaving only look
at the primitives.

A view follows its footprint from front to back: what it has looked up, it may
write. The scope is a parameter, so one proof serves two laws. For one of them
the scope leaves out an incident, for the other one it leaves out deletions.
-/

namespace Mapapi

open Lib

/-! ## Primitives -/

/-- The rows that may be written. An incident stands for its collaborations too. -/
structure Scope where
  incident : IncidentId → Prop
  assignment : OrgAssignmentId → Prop
  suggestion : PartnerSuggestion → Prop
  task : IncidentTask → Prop
  dropped : TaskId → Prop
  purged : IncidentId → Prop

/-- What a single write of an endpoint or task leaves of a store, for rows of a scope. -/
inductive Primitive (S : Scope) (db : Db) : Db → Prop where
  | saveFields {inst columns} (h : S.incident inst.id) :
      Primitive S db (db.saveIncidentFields inst columns)
  | saveRow {inst} (h : S.incident inst.id) : Primitive S db (db.saveIncident inst)
  | log {user action} : Primitive S db (db.logAction user action)
  | tell {notifications} :
      Primitive S db { db with notifications := db.notifications ++ notifications }
  | create {incident c} (h : S.incident c.incident) :
      Primitive S db (db.createCollaboration incident c).2
  | createAtomic {incident c} (h : S.incident c.incident) :
      Primitive S db (db.createCollaborationAtomic incident c).2
  | saveCollaboration {c} (h : S.incident c.incident) : Primitive S db (db.saveCollaboration c)
  | update {p role status} (h : ∀ c, p c = true → S.incident c.incident) :
      Primitive S db (db.updateCollaborations p role status)
  | drop {c} (h : S.incident c.incident) : Primitive S db (db.deleteCollaboration c)
  | assign {assignment} (h : S.incident assignment.incident)
      (hid : db.orgAssignments.get? assignment.id = none) :
      Primitive S db { db with orgAssignments := db.orgAssignments.put assignment }
  | answer {pk status reason now} (h : S.assignment pk) (hstatus : status ≠ .pending) :
      Primitive S db (db.answerAssignment pk status reason now)
  | suggest {s} (h : S.suggestion s) (hstatus : s.status ≠ .pending) :
      Primitive S db { db with partnerSuggestions := db.partnerSuggestions.put s }
  | post {message} :
      Primitive S db { db with discussionMessages := db.discussionMessages ++ [message] }
  | saveTask {task} (h : S.task task) : Primitive S db (db.withTasks (db.tasks.put task))
  | insertTask {task} (h : S.incident task.incident) (hid : db.tasks.get? task.id = none) :
      Primitive S db (db.withTasks (db.tasks.put task))
  | dropTask {pk} (h : S.dropped pk) : Primitive S db (db.deleteTask pk)
  | purge {incidents : List Incident} (h : ∀ incident ∈ incidents, S.purged incident.id) :
      Primitive S db
        (incidents.foldl (fun db incident => db.deleteIncident incident.id) db)

/-- The view writes within the scope, as long as the stores it finds satisfy
`I`. Whatever the view has read is only known to come from such a store, which
may be older than the one it writes to. -/
abbrev WritesIn {α : Type} (I : Db → Prop) (S : Scope) (p : Prog Db α) : Prop :=
  p.Writes I (Primitive S)

/-! ## What the views share -/

section Prologue

variable {I : Db → Prop} {S : Scope} {auth : Option UserId} {user : User} {i : IncidentId}
  {view : View}

theorem authenticate_writesIn {view : User → View} (h : ∀ user, WritesIn I S (view user)) :
    WritesIn I S (authenticate auth view) := by
  refine Prog.writes_read fun db _ => ?_
  split
  · exact Prog.writes_pure _
  · exact h _

theorem permit_writesIn {allowed : Bool} {message : String} (h : WritesIn I S view) :
    WritesIn I S (permit allowed message view) :=
  Prog.writes_ite (fun _ => h) fun _ => Prog.writes_pure _

theorem refuseIf_writesIn {refuse : Bool} {response : Response} (h : WritesIn I S view) :
    WritesIn I S (refuseIf refuse response view) :=
  Prog.writes_ite (fun _ => Prog.writes_pure _) fun _ => h

theorem isIncidentLeader_writesIn : WritesIn I S (isIncidentLeader user i) := by
  refine Prog.writes_ite (fun _ => Prog.writes_pure _) fun _ => Prog.writes_read fun db _ => ?_
  split
  · exact Prog.writes_pure _
  · exact Prog.writes_read fun db _ =>
      Prog.writes_ite (fun _ => Prog.writes_pure _) fun _ => Prog.writes_pure _

theorem permitLeader_writesIn (h : WritesIn I S view) : WritesIn I S (permitLeader user i view) :=
  Prog.writes_bind isIncidentLeader_writesIn fun _ =>
    Prog.writes_ite (fun _ => h) fun _ => Prog.writes_pure _

theorem isInternalOrgMember_writesIn {incident : Incident} :
    WritesIn I S (isInternalOrgMember incident user) :=
  Prog.writes_ite (fun _ => Prog.writes_read fun _ _ => Prog.writes_pure _)
    fun _ => Prog.writes_pure _

theorem permitLeaderOrContributor_writesIn (h : WritesIn I S view) :
    WritesIn I S (permitLeaderOrContributor user i view) := by
  refine Prog.writes_bind ?_ fun _ => Prog.writes_ite (fun _ => h) fun _ => Prog.writes_pure _
  refine Prog.writes_ite (fun _ => Prog.writes_pure _) fun _ => Prog.writes_read fun db _ => ?_
  split
  · exact Prog.writes_pure _
  · refine Prog.writes_ite (fun _ => Prog.writes_pure _) fun _ =>
      Prog.writes_bind isInternalOrgMember_writesIn fun _ => ?_
    exact Prog.writes_ite (fun _ => Prog.writes_pure _) fun _ => Prog.writes_last_read _

theorem getIncident_writesIn {notFound : String} {view : Incident → View}
    (h : ∀ incident, incident.id = i → WritesIn I S (view incident)) :
    WritesIn I S (getIncident i notFound view) := by
  refine Prog.writes_read fun db _ => ?_
  cases hinc : db.incidents.get? i with
  | none => exact Prog.writes_pure _
  | some incident => exact h incident (Table.key_of_get? hinc)

theorem createUserAction_writesIn {u : UserId} {action : String} {view : UserAction → View}
    (h : ∀ entry, WritesIn I S (view entry)) : WritesIn I S (createUserAction u action view) :=
  Prog.writes_ite
    (fun _ => Prog.writes_bind (Prog.writes_modify fun _ _ => .log) fun _ => h _)
    fun _ => Prog.writes_pure _

theorem getOrCreate_writesIn {c : Collaboration} {create : Db → Option Collaboration × Db}
    {k : Option (Collaboration × Bool) → View}
    (hcreate : ∀ db, I db → (create db).2 = db ∨ Primitive S db (create db).2)
    (hrow : ∀ db row, (create db).1 = some row → row.incident = c.incident)
    (hk : ∀ row created, row.incident = c.incident → WritesIn I S (k (some (row, created))))
    (hnone : WritesIn I S (k none)) : WritesIn I S (getOrCreate c create >>= k) := by
  intro db hdb
  refine ⟨Or.inl rfl, ?_⟩
  dsimp only [Prog.bind]
  cases hold : db.collaboration? c.incident c.user with
  | some row => exact hk row false (Db.collaboration?_key hold).1
  | none =>
      intro db' hdb'
      refine ⟨hcreate db' hdb', ?_⟩
      dsimp only [Prog.bind]
      cases hnew : (create db').1 with
      | some row => exact hk row true (hrow db' row hnew)
      | none =>
          intro db'' hdb''
          refine ⟨Or.inl rfl, ?_⟩
          dsimp only [Prog.bind]
          cases hlate : db''.collaboration? c.incident c.user with
          | some row => exact hk row false (Db.collaboration?_key hlate).1
          | none => exact hnone

theorem incident_createCollaborationAtomic {incident : Incident} {c row : Collaboration} {db : Db}
    (h : (db.createCollaborationAtomic incident c).1 = some row) : row.incident = c.incident := by
  unfold Db.createCollaborationAtomic at h
  split at h
  · cases h
  · cases h
    rfl

theorem getOrCreateCollaboration_writesIn {incident : Incident} {c : Collaboration}
    {k : Option (Collaboration × Bool) → View} (hc : S.incident c.incident)
    (hk : ∀ row created, row.incident = c.incident → WritesIn I S (k (some (row, created))))
    (hnone : WritesIn I S (k none)) :
    WritesIn I S (getOrCreateCollaboration incident c >>= k) :=
  getOrCreate_writesIn (fun _ _ => Or.inr (.createAtomic hc))
    (fun _ _ h => incident_createCollaborationAtomic h) hk hnone

theorem saveAndReply_writesIn {incident : Incident} {columns : List Incident.Column}
    {message : Option String} (h : S.incident incident.id) :
    WritesIn I S (saveAndReply incident columns message) :=
  Prog.writes_bind (Prog.writes_modify fun _ _ => .saveFields h) fun _ => Prog.writes_pure _

end Prologue

/-! ## Taking in charge -/

section TakeInCharge

variable {I : Db → Prop} {S : Scope} {now : Instant} {auth : Option UserId} {user : User}
  {i : IncidentId} {incident : Incident}

theorem handleIncident_writesIn {action : Option HandleAction} (hi : S.incident i) :
    WritesIn I S (handleIncident auth i action) := by
  have hsaved : ∀ {row : Incident} {user : User} {message : String}, row.id = i →
      WritesIn I S (handleIncident.handled user row message) := fun hid =>
    Prog.writes_bind (Prog.writes_modify fun _ _ => .saveRow (hid ▸ hi)) fun _ =>
      createUserAction_writesIn fun _ => Prog.writes_pure _
  refine authenticate_writesIn fun user => getIncident_writesIn fun incident hid => ?_
  split
  · exact Prog.writes_pure _
  · exact refuseIf_writesIn (hsaved hid)
  · exact refuseIf_writesIn (hsaved hid)

theorem takeInternal_writesIn (hi : S.incident incident.id) :
    WritesIn I S (takeInternal now user incident) := by
  refine refuseIf_writesIn (refuseIf_writesIn ?_)
  refine Prog.writes_bind (Prog.writes_modify fun _ _ => .saveFields hi) fun _ => ?_
  refine getOrCreateCollaboration_writesIn hi (fun row created _ => ?_) (Prog.writes_pure _)
  exact createUserAction_writesIn fun _ => Prog.writes_pure _

theorem takeLeader_writesIn (hi : S.incident incident.id) :
    WritesIn I S (takeLeader now user incident) := by
  refine refuseIf_writesIn (Prog.writes_bind (Prog.writes_modify fun _ _ => ?_) fun _ => ?_)
  · exact .saveFields ((ledBy_id incident user.id now).symm ▸ hi)
  · refine Prog.writes_atomic fun db _ => ⟨Or.inr (.create hi), ?_⟩
    split
    · exact Prog.writes_pure _
    · refine Prog.writes_atomic fun db _ => ⟨Or.inr (.update fun c hc => ?_), ?_⟩
      · rw [(of_decide_eq_true hc).1]
        exact hi
      · exact createUserAction_writesIn fun _ => Prog.writes_pure _

theorem takeJoin_writesIn {role : CollabRole} (hi : S.incident incident.id) :
    WritesIn I S (takeJoin user incident role) := by
  refine Prog.writes_atomic fun db _ => ⟨Or.inr (.create hi), ?_⟩
  split
  · exact Prog.writes_pure _
  · refine Prog.writes_bind (Prog.writes_when fun _ => Prog.writes_modify fun _ _ => ?_) fun _ => ?_
    · exact .saveFields hi
    · exact createUserAction_writesIn fun _ => Prog.writes_pure _

theorem takeInCharge_writesIn {mode : Choice TakeInChargeMode} {role : Choice CollabRole}
    (hi : S.incident i) : WritesIn I S (takeInCharge now auth i mode role) := by
  refine authenticate_writesIn fun user =>
    permit_writesIn (getIncident_writesIn fun incident hid => ?_)
  have hinc : S.incident incident.id := hid ▸ hi
  refine refuseIf_writesIn ?_
  split
  · exact Prog.writes_pure _
  · exact Prog.writes_pure _
  · exact takeInternal_writesIn hinc
  · split
    · exact Prog.writes_pure _
    · exact Prog.writes_pure _
    · refine refuseIf_writesIn (Prog.writes_read fun db _ => ?_)
      split
      · exact Prog.writes_pure _
      · split
        · exact takeLeader_writesIn hinc
        · exact takeJoin_writesIn hinc
        · exact takeJoin_writesIn hinc

end TakeInCharge

/-! ## Resolving and disengaging -/

section Resolution

variable {I : Db → Prop} {S : Scope} {now : Instant} {auth : Option UserId} {user : User}
  {i : IncidentId} {incident : Incident}

theorem terminateActiveCollaborations_writesIn (hi : S.incident i) :
    WritesIn I S (Prog.modify (terminateActiveCollaborations i)) := by
  refine Prog.writes_modify fun _ _ => .update fun c hc => ?_
  rw [(of_decide_eq_true hc).1]
  exact hi

theorem closeIncident_writesIn {startDate endDate : Arg Date} (hi : S.incident i) :
    WritesIn I S (closeIncident auth i startDate endDate) := by
  refine authenticate_writesIn fun user => permit_writesIn <| permitLeader_writesIn <|
    getIncident_writesIn fun incident hid => refuseIf_writesIn <| refuseIf_writesIn <|
      Prog.writes_read fun db _ => refuseIf_writesIn ?_
  split
  · exact Prog.writes_bind (Prog.writes_modify fun _ _ => .saveRow (hid ▸ hi))
      fun _ => Prog.writes_pure _
  · exact Prog.writes_pure _

theorem prepareResolution_writesIn (hi : S.incident i) :
    WritesIn I S (prepareResolution now auth i) :=
  authenticate_writesIn fun _ => permit_writesIn <| getIncident_writesIn fun _ hid =>
    refuseIf_writesIn (saveAndReply_writesIn (hid ▸ hi))

theorem returnForCompletion_writesIn (hi : S.incident i) :
    WritesIn I S (returnForCompletion auth i) :=
  authenticate_writesIn fun _ => permit_writesIn <| getIncident_writesIn fun _ hid =>
    refuseIf_writesIn (saveAndReply_writesIn (hid ▸ hi))

theorem declareResolved_writesIn (hi : S.incident i) : WritesIn I S (declareResolved now auth i) :=
  authenticate_writesIn fun _ => permit_writesIn <| getIncident_writesIn fun _ hid =>
    refuseIf_writesIn (saveAndReply_writesIn (hid ▸ hi))

theorem validateResolution_writesIn (hi : S.incident i) :
    WritesIn I S (validateResolution auth i) := by
  refine authenticate_writesIn fun _ => permit_writesIn <| getIncident_writesIn fun incident hid =>
    refuseIf_writesIn ?_
  refine Prog.writes_bind (Prog.writes_modify fun _ _ => .saveFields (hid ▸ hi)) fun _ => ?_
  exact Prog.writes_bind (terminateActiveCollaborations_writesIn hi) fun _ => Prog.writes_pure _

theorem rejectResolution_writesIn {motif : Choice String} (hi : S.incident i) :
    WritesIn I S (rejectResolution auth i motif) := by
  refine authenticate_writesIn fun _ => permit_writesIn <| getIncident_writesIn fun incident hid =>
    refuseIf_writesIn ?_
  split
  · exact Prog.writes_pure _
  · exact Prog.writes_pure _
  · exact saveAndReply_writesIn (hid ▸ hi)

theorem disengage_writesIn (hi : S.incident i) : WritesIn I S (disengage auth i) := by
  refine authenticate_writesIn fun user => permit_writesIn <| permitLeader_writesIn <|
    getIncident_writesIn fun incident hid => refuseIf_writesIn ?_
  refine Prog.writes_bind (Prog.writes_modify fun _ _ => .update fun c hc => ?_) fun _ => ?_
  · rw [(of_decide_eq_true hc).1]
    exact hi
  refine Prog.writes_read fun db _ => Prog.writes_ite (fun _ => ?_) fun _ => ?_
  · refine Prog.writes_bind (Prog.writes_modify fun _ _ => .update fun c hc => ?_) fun _ => ?_
    · rw [(of_decide_eq_true hc).1]
      exact hi
    · exact saveAndReply_writesIn (hid ▸ hi)
  · refine Prog.writes_bind (terminateActiveCollaborations_writesIn hi) fun _ => ?_
    exact saveAndReply_writesIn (hid ▸ hi)

end Resolution

/-! ## Assignments to organisations -/

section OrgAssignments

variable {I : Db → Prop} {S : Scope} {now : Instant} {auth : Option UserId} {user : User}
  {i : IncidentId} {pk : OrgAssignmentId}

theorem assignToOrganisation_writesIn {organisationId : RawId} (hi : S.incident i) :
    WritesIn I S (assignToOrganisation now auth i organisationId) := by
  refine authenticate_writesIn fun user =>
    permit_writesIn <| getIncident_writesIn fun incident _ => ?_
  split
  · exact Prog.writes_pure _
  · exact Prog.writes_pure _
  · refine Prog.writes_read fun db _ => ?_
    split
    · exact Prog.writes_pure _
    · refine Prog.writes_read fun db _ => refuseIf_writesIn ?_
      refine Prog.writes_atomic fun db _ => ⟨Or.inr (.assign hi (Table.get?_freshKey _)), ?_⟩
      exact Prog.writes_bind (Prog.writes_modify fun _ _ => .tell) fun _ => Prog.writes_pure _

theorem getAssignment_writesIn {view : IncidentOrgAssignment → Incident → View}
    (h : ∀ db, I db → ∀ assignment incident, db.orgAssignments.get? pk = some assignment →
      incident.id = assignment.incident → WritesIn I S (view assignment incident)) :
    WritesIn I S (getAssignment user pk view) := by
  refine Prog.writes_read fun db hdb => ?_
  cases hrow : db.assignmentWithIncident? pk with
  | none => exact Prog.writes_pure _
  | some row =>
      obtain ⟨assignment, incident⟩ := row
      obtain ⟨hget, hinc⟩ := assignmentWithIncident?_eq_some.mp hrow
      exact refuseIf_writesIn (h db hdb assignment incident hget (Table.key_of_get? hinc))

theorem engageIncident_writesIn {incident : Incident} {leader : UserId}
    (hi : S.incident incident.id) :
    WritesIn I S (Prog.modify (engageIncident now incident leader)) := by
  unfold engageIncident
  by_cases hetat : incident.etat = .declared
  · simp only [if_pos hetat]
    exact Prog.writes_modify fun _ _ => .saveFields hi
  · simp only [if_neg hetat]
    exact fun _ _ => ⟨Or.inl rfl, trivial⟩

theorem acceptOrgAssignment_writesIn (hpk : S.assignment pk)
    (hinc : ∀ db, I db → ∀ a, db.orgAssignments.get? pk = some a → S.incident a.incident) :
    WritesIn I S (acceptOrgAssignment now auth pk) := by
  refine authenticate_writesIn fun user => permit_writesIn <|
    getAssignment_writesIn fun db hdb assignment incident hget hid => refuseIf_writesIn ?_
  refine Prog.writes_bind (Prog.writes_modify fun _ _ => .answer hpk (by decide)) fun _ => ?_
  exact Prog.writes_bind (engageIncident_writesIn (hid ▸ hinc db hdb assignment hget))
    fun _ => Prog.writes_pure _

theorem declineOrgAssignment_writesIn {reason : Choice String} (hpk : S.assignment pk) :
    WritesIn I S (declineOrgAssignment now auth pk reason) := by
  have hdecline : ∀ {assignment : IncidentOrgAssignment} {reason : Option String},
      WritesIn I S (declineOrgAssignment.decline now pk assignment reason) :=
    Prog.writes_bind (Prog.writes_modify fun _ _ => .answer hpk (by decide))
      fun _ => Prog.writes_pure _
  refine authenticate_writesIn fun user => permit_writesIn <|
    getAssignment_writesIn fun db hdb assignment incident hget hid => refuseIf_writesIn ?_
  split
  · exact Prog.writes_pure _
  · exact hdecline
  · exact hdecline

end OrgAssignments

/-! ## Collaborations -/

section Collaborations

variable {I : Db → Prop} {S : Scope} {now : Instant} {auth : Option UserId} {user : User}
  {i : IncidentId} {id : CollaborationId}

theorem incident_of_valid {db : Db} {data : CollaborationData} {valid : ValidCollaboration}
    (h : collaborationIsValid now data db = .ok valid)
    (hi : ∀ i, data.incident = .value i → S.incident i) : S.incident valid.incident.id :=
  hi _ (collaborationIsValid_ok h).1

theorem requestCollaboration_writesIn {data : CollaborationData}
    (hi : ∀ i, data.incident = .value i → S.incident i) :
    WritesIn I S (requestCollaboration now auth data) := by
  refine authenticate_writesIn fun user => permit_writesIn <| Prog.writes_read fun db _ => ?_
  cases hvalid : collaborationIsValid now data db with
  | error errors => exact Prog.writes_pure _
  | ok valid =>
      have hinc : S.incident valid.incident.id := incident_of_valid hvalid hi
      refine Prog.writes_read fun db' _ => refuseIf_writesIn ?_
      refine Prog.writes_bind ?_ fun _ => ?_
      · -- the old row is of the same incident
        cases hold : db'.collaboration? valid.incident.id user.id with
        | none => exact Prog.writes_pure _
        | some old =>
            refine Prog.writes_modify fun _ _ => .drop ?_
            rw [(Db.collaboration?_key hold).1]
            exact hinc
      · refine Prog.writes_atomic fun db'' _ => ⟨Or.inr (.create hinc), ?_⟩
        split
        · exact Prog.writes_pure _
        · exact Prog.writes_bind (Prog.writes_when fun _ =>
            Prog.writes_modify fun _ _ => .saveFields hinc) fun _ => Prog.writes_pure _

theorem bulkItems_writesIn {index : Nat} {created : List Collaboration} {errors : List BulkError}
    {items : List BulkItem} (hi : ∀ item ∈ items, ∀ i, item.incident = .uuid i → S.incident i) :
    WritesIn I S (bulkItems now user index created errors items) := by
  induction items generalizing index created errors with
  | nil => exact Prog.writes_pure _
  | cons item rest ih =>
      have hrest : ∀ item ∈ rest, ∀ i, item.incident = .uuid i → S.incident i :=
        fun item' hitem => hi item' (List.mem_cons_of_mem _ hitem)
      rw [bulkItems]
      cases hitem : item.incident with
      | absent => exact ih hrest
      | malformed => exact Prog.writes_pure _
      | uuid i =>
          refine Prog.writes_read fun db _ => ?_
          split
          · exact ih hrest
          · refine Prog.writes_read fun db' _ => ?_
            cases hvalid : collaborationIsValid now (item.toData i) db' with
            | error fieldErrors => exact ih hrest
            | ok valid =>
                have hinc : S.incident valid.incident.id := by
                  refine incident_of_valid hvalid fun j hj => ?_
                  cases hj
                  exact hi item List.mem_cons_self i hitem
                refine Prog.writes_atomic fun db'' _ => ⟨Or.inr (.create hinc), ?_⟩
                split
                · exact Prog.writes_pure _
                · exact ih hrest

theorem bulkRequest_writesIn {requests : Option (List BulkItem)}
    (hi : ∀ items, requests = some items → ∀ item ∈ items, ∀ i, item.incident = .uuid i →
      S.incident i) : WritesIn I S (bulkRequest now auth requests) := by
  refine authenticate_writesIn fun user => permit_writesIn ?_
  split
  · exact bulkItems_writesIn (hi _ rfl)
  · exact Prog.writes_pure _

theorem answersFor_writesIn {c : Collaboration} {refusal : String} {view : Incident → View}
    (h : ∀ incident, incident.id = c.incident → WritesIn I S (view incident)) :
    WritesIn I S (answersFor user c refusal view) := by
  refine Prog.writes_read fun db _ => ?_
  cases hinc : db.incidentOf c with
  | none => exact Prog.writes_pure _
  | some incident =>
      refine Prog.writes_bind ?_ fun _ => Prog.writes_ite
        (fun _ => h incident (Table.key_of_get? hinc)) fun _ => Prog.writes_pure _
      exact Prog.writes_ite (fun _ => Prog.writes_pure _) fun _ => Prog.writes_last_read _

theorem acceptRow_writesIn {c : Collaboration} {incident : Incident} {reply : Response}
    (hc : S.incident c.incident) (hid : incident.id = c.incident) :
    WritesIn I S (acceptRow c incident reply) := by
  refine Prog.writes_bind (Prog.writes_modify fun _ _ => .saveCollaboration hc) fun _ => ?_
  refine Prog.writes_bind (Prog.writes_when fun _ => ?_) fun _ => Prog.writes_pure _
  exact Prog.writes_modify fun _ _ => .saveFields (show S.incident incident.id from hid ▸ hc)

/-- Whatever row has the id, its incident is in the scope. -/
def Names (I : Db → Prop) (S : Scope) (id : CollaborationId) : Prop :=
  ∀ db, I db → ∀ c, db.collaborationById? id = some c → S.incident c.incident

theorem handleCollaboration_writesIn {action : Option HandleCollaborationAction}
    (hid : Names I S id) : WritesIn I S (handleCollaboration auth id action) := by
  refine authenticate_writesIn fun user => permit_writesIn <| Prog.writes_read fun db hdb => ?_
  cases hrow : db.collaborationById? id with
  | none => exact Prog.writes_pure _
  | some c =>
      have hc : S.incident c.incident := hid db hdb c hrow
      cases action with
      | none => exact Prog.writes_pure _
      | some action =>
          refine answersFor_writesIn fun incident hinc => ?_
          cases action with
          | accept => exact acceptRow_writesIn hc hinc
          | reject =>
              exact Prog.writes_bind (Prog.writes_modify fun _ _ => .saveCollaboration hc)
                fun _ => Prog.writes_pure _

theorem acceptCollaboration_writesIn {rawId : RawId}
    (hid : ∀ id, rawId = .uuid id → Names I S id) :
    WritesIn I S (acceptCollaboration now auth rawId) := by
  refine authenticate_writesIn fun user => permit_writesIn ?_
  cases rawId with
  | absent => exact Prog.writes_pure _
  | malformed => exact Prog.writes_pure _
  | uuid id =>
      refine Prog.writes_read fun db hdb => ?_
      cases hrow : db.collaborationById? id with
      | none => exact Prog.writes_pure _
      | some c =>
          refine answersFor_writesIn fun incident hinc => refuseIf_writesIn <| refuseIf_writesIn ?_
          exact acceptRow_writesIn (hid id rfl db hdb c hrow) hinc

theorem declineCollaboration_writesIn {rawId : RawId}
    (hid : ∀ id, rawId = .uuid id → Names I S id) :
    WritesIn I S (declineCollaboration auth rawId) := by
  refine authenticate_writesIn fun user => permit_writesIn ?_
  cases rawId with
  | absent => exact Prog.writes_pure _
  | malformed => exact Prog.writes_pure _
  | uuid id =>
      refine Prog.writes_read fun db hdb => ?_
      cases hrow : db.collaborationById? id with
      | none => exact Prog.writes_pure _
      | some c =>
          refine answersFor_writesIn fun incident hinc => ?_
          refine Prog.writes_bind (Prog.writes_modify fun _ _ =>
            .saveCollaboration (hid id rfl db hdb c hrow)) fun _ => ?_
          exact Prog.writes_ite (fun _ => Prog.writes_pure _) fun _ => Prog.writes_pure _

end Collaborations

/-! ## Suggestions and the discussion -/

section Participation

variable {I : Db → Prop} {S : Scope} {auth : Option UserId} {user : User} {i : IncidentId}
  {pk : SuggestionId}

/-- Whatever suggestion of the incident has the id, it may be answered. -/
def MayAnswer (I : Db → Prop) (S : Scope) (i : IncidentId) (pk : SuggestionId) : Prop :=
  ∀ db, I db → ∀ s, db.partnerSuggestions.get? pk = some s → s.incident = i →
    ∀ status, S.suggestion { s with status := status }

theorem getSuggestion_writesIn {view : PartnerSuggestion → View}
    (h : ∀ db, I db → ∀ s, db.partnerSuggestions.get? pk = some s → s.incident = i →
      WritesIn I S (view s)) : WritesIn I S (getSuggestion i pk view) := by
  refine Prog.writes_read fun db hdb => ?_
  cases hrow : (db.partnerSuggestions.get? pk).filter fun s => decide (s.incident = i) with
  | none => exact Prog.writes_pure _
  | some s =>
      obtain ⟨hget, hincident⟩ := Option.filter_eq_some_iff.mp hrow
      exact refuseIf_writesIn (h db hdb s hget (of_decide_eq_true hincident))

theorem answerSuggestion_writesIn {s : PartnerSuggestion} {status : SuggestionStatus}
    (h : S.suggestion { s with status := status }) (hstatus : status ≠ .pending) :
    WritesIn I S (answerSuggestion s status) :=
  Prog.writes_bind (Prog.writes_modify fun _ _ => .suggest h hstatus) fun _ => Prog.writes_pure _

theorem acceptSuggestion_writesIn (hi : S.incident i) (hpk : MayAnswer I S i pk) :
    WritesIn I S (acceptSuggestion auth i pk) := by
  refine authenticate_writesIn fun user => permitLeader_writesIn <|
    getSuggestion_writesIn fun db hdb s hget hincident => ?_
  have hanswer := hpk db hdb s hget hincident .accepted
  have hs : S.incident s.incident := hincident ▸ hi
  refine getOrCreate_writesIn (fun db' _ => ?_) (fun db' row hrow => ?_)
    (fun row created hrow => ?_) (Prog.writes_pure _)
  · cases db'.incidents.get? s.incident with
    | none => exact Or.inl rfl
    | some incident => exact Or.inr (.createAtomic hs)
  · cases hinc : db'.incidents.get? s.incident with
    | none =>
        rw [hinc] at hrow
        cases hrow
    | some incident =>
        rw [hinc] at hrow
        exact incident_createCollaborationAtomic hrow
  · have hrow' : S.incident row.incident := (show row.incident = s.incident from hrow) ▸ hs
    cases created with
    | true => exact answerSuggestion_writesIn hanswer (by decide)
    | false =>
        exact Prog.writes_bind (Prog.writes_modify fun _ _ => .saveCollaboration hrow')
          fun _ => answerSuggestion_writesIn hanswer (by decide)

theorem rejectSuggestion_writesIn (hpk : MayAnswer I S i pk) :
    WritesIn I S (rejectSuggestion auth i pk) :=
  authenticate_writesIn fun _ => permitLeader_writesIn <|
    getSuggestion_writesIn fun db hdb s hget hincident =>
      answerSuggestion_writesIn (hpk db hdb s hget hincident .rejected) (by decide)

theorem joinDiscussion_writesIn {incident : Incident} {view : Collaboration → View}
    (hi : S.incident incident.id) (h : ∀ c, WritesIn I S (view c)) :
    WritesIn I S (joinDiscussion incident user view) := by
  refine getOrCreateCollaboration_writesIn hi (fun row created hrow => ?_) (Prog.writes_pure _)
  refine Prog.writes_ite (fun _ => h row) fun _ => ?_
  exact Prog.writes_bind (Prog.writes_modify fun _ _ => .saveCollaboration
    (show S.incident row.incident from hrow.symm ▸ hi)) fun _ => h _

theorem getUserCollaboration_writesIn {view : Incident → Collaboration → View}
    (hi : S.incident i) (h : ∀ incident c, WritesIn I S (view incident c)) :
    WritesIn I S (getUserCollaboration i user view) := by
  refine getIncident_writesIn fun incident hid => ?_
  have hinc : S.incident incident.id := hid ▸ hi
  refine Prog.writes_ite (fun _ => Prog.writes_read fun db _ => ?_) fun _ =>
    Prog.writes_read fun db _ => ?_
  · split
    · exact Prog.writes_pure _
    · exact refuseIf_writesIn (joinDiscussion_writesIn hinc (h incident))
  · split
    · exact h _ _
    · exact Prog.writes_ite (fun _ => joinDiscussion_writesIn hinc (h incident))
        fun _ => Prog.writes_pure _

theorem readDiscussion_writesIn (hi : S.incident i) : WritesIn I S (readDiscussion auth i) := by
  have hlist : WritesIn I S (do
      let messages ← Prog.read fun db => db.messagesOf i
      pure (Response.ok 200 (.messages messages))) :=
    Prog.writes_read fun _ _ => Prog.writes_pure _
  exact authenticate_writesIn fun _ => Prog.writes_ite (fun _ => hlist) fun _ =>
    getUserCollaboration_writesIn hi fun _ _ => hlist

theorem postDiscussion_writesIn {data : DiscussionData} (hi : S.incident i) :
    WritesIn I S (postDiscussion auth i data) := by
  refine authenticate_writesIn fun user => refuseIf_writesIn <|
    Prog.writes_ite (fun _ => Prog.writes_read fun db _ => ?_) fun _ =>
      getUserCollaboration_writesIn hi fun incident c => refuseIf_writesIn ?_
  · split
    · exact Prog.writes_pure _
    · exact Prog.writes_ite (fun _ => Prog.writes_pure _) fun _ => Prog.writes_pure _
  · have hstore : ∀ recipient : Option UserId, WritesIn I S (do
        let message : DiscussionMessage :=
          { incident := i, collaboration := c.id, sender := user.id,
            message := data.message.stripped.toOption, recipient := recipient }
        Prog.modify fun db => { db with discussionMessages := db.discussionMessages ++ [message] }
        pure (Response.ok 201 (.message message))) := fun recipient =>
      Prog.writes_bind (Prog.writes_modify fun _ _ => .post) fun _ => Prog.writes_pure _
    unfold getRecipient
    cases data.recipient with
    | absent => exact hstore none
    | malformed => exact Prog.writes_pure _
    | uuid id => exact Prog.writes_read fun db _ => hstore _

end Participation

/-! ## The Celery tasks -/

section Tasks

variable {I : Db → Prop} {S : Scope} {now : Instant}

theorem autoValidate_writesIn
    (h : ∀ db, I db → ∀ incident ∈ db.incidents.select (overdueValidation now),
      S.incident incident.id) :
    WritesIn I S (autoValidateOverdueResolutions now) := by
  refine Prog.writes_read fun db hdb => Prog.writes_bind ?_ fun _ => Prog.writes_pure _
  refine Prog.writes_forEach fun incident hincident => ?_
  have hi := h db hdb incident hincident
  exact Prog.writes_bind (Prog.writes_modify fun _ _ => .saveFields hi)
    fun _ => terminateActiveCollaborations_writesIn hi

theorem notifyAntigelLeader_writesIn {incident : Incident} {pct : Nat} :
    WritesIn I S (Prog.modify (notifyAntigelLeader incident pct)) := by
  intro db _
  refine ⟨?_, trivial⟩
  unfold notifyAntigelLeader
  cases db.user? incident.takenBy with
  | none => exact Or.inl rfl
  | some leader => exact Or.inr .tell

theorem revertStale_writesIn
    (h : ∀ db, I db → ∀ pair ∈ db.incidents.rows.filterMap engagedSince,
      antigelVerdict now pair.2 pair.1 ≠ .wait → S.incident pair.1.id) :
    WritesIn I S (revertStaleTakenIncidents now) := by
  refine Prog.writes_read fun db hdb => Prog.writes_bind ?_ fun _ => Prog.writes_pure _
  refine Prog.writes_forEach fun pair hpair => ?_
  obtain ⟨incident, since⟩ := pair
  have hi : antigelVerdict now since incident ≠ .wait → S.incident incident.id :=
    h db hdb _ hpair
  rw [revertStaleOne]
  cases hverdict : antigelVerdict now since incident with
  | revert =>
      exact Prog.writes_modify fun _ _ => .saveFields (hi (by rw [hverdict]; decide))
  | warn90 =>
      exact Prog.writes_bind notifyAntigelLeader_writesIn fun _ =>
        Prog.writes_modify fun _ _ => .saveFields (hi (by rw [hverdict]; decide))
  | warn75 =>
      exact Prog.writes_bind notifyAntigelLeader_writesIn fun _ =>
        Prog.writes_modify fun _ _ => .saveFields (hi (by rw [hverdict]; decide))
  | wait => exact Prog.writes_pure _

theorem purgeExpiredTrash_writesIn
    (h : ∀ db, I db → ∀ incident ∈ db.incidents.select (expiredTrash now),
      S.purged incident.id) :
    WritesIn I S (purgeExpiredTrash now) :=
  Prog.writes_read fun db hdb =>
    Prog.writes_bind (Prog.writes_modify fun _ _ => .purge (h db hdb)) fun _ => Prog.writes_pure _

theorem autoAccept_writesIn
    (h : ∀ db, I db → ∀ pair ∈ overdueAssignments now db,
      S.assignment pair.1.id ∧ S.incident pair.2.id) :
    WritesIn I S (autoAcceptOverdueAssignments now) := by
  refine Prog.writes_read fun db hdb => Prog.writes_bind ?_ fun _ => Prog.writes_pure _
  refine Prog.writes_forEach fun pair hpair => ?_
  obtain ⟨hassignment, hincident⟩ := h db hdb pair hpair
  obtain ⟨assignment, incident⟩ := pair
  refine Prog.writes_bind (Prog.writes_modify fun _ _ => .answer hassignment (by decide))
    fun _ => Prog.writes_read fun db' _ => Prog.writes_when fun _ => ?_
  exact Prog.writes_modify fun _ _ => .saveFields hincident

end Tasks

/-! ## The tasks of an incident -/

section IncidentTasks

variable {I : Db → Prop} {S : Scope} {auth : Option UserId} {user : User} {i : IncidentId}
  {pk : TaskId} {incident : Incident} {task : IncidentTask} {reply : Response}

theorem updateProgress_writesIn (hi : S.incident incident.id) :
    WritesIn I S (updateProgress incident reply) := by
  have hsave : ∀ progress, WritesIn I S (updateProgress.save incident progress reply) :=
    fun _ => Prog.writes_bind (Prog.writes_modify fun _ _ => .saveFields hi)
      fun _ => Prog.writes_pure _
  refine Prog.writes_ite (fun _ => hsave 100) fun _ => Prog.writes_read fun db _ => ?_
  exact Prog.writes_ite (fun _ => hsave 0) fun _ => Prog.writes_read fun _ _ => hsave _

theorem Primitive.ofSaveTask {db : Db} (h : S.task task) :
    (db.saveTask task).2 = db ∨ Primitive S db (db.saveTask task).2 := by
  unfold Db.saveTask
  split
  · exact Or.inr (.saveTask h)
  · exact Or.inl rfl

theorem Primitive.ofInsertTask {db : Db} (h : S.incident task.incident) :
    (db.insertTask task).2 = db ∨ Primitive S db (db.insertTask task).2 := by
  cases hinc : db.incidents.get? task.incident with
  | none =>
      have hsame : (db.insertTask task).2 = db := by
        unfold Db.insertTask Db.saveTask
        simp only [hinc, Option.isSome_none, Bool.false_eq_true, if_false]
      exact Or.inl hsame
  | some incident =>
      rw [Db.insertTask_eq task hinc]
      exact Or.inr (.insertTask h (Table.get?_freshKey _))

theorem saveTask_writesIn (hi : S.incident task.incident) (htask : S.task task) :
    WritesIn I S (saveTask task) := by
  refine Prog.writes_atomic fun db _ => ⟨Primitive.ofSaveTask htask, ?_⟩
  refine Prog.writes_ite (fun _ => Prog.writes_read fun db' _ => ?_) fun _ => Prog.writes_pure _
  cases hinc : db'.incidents.get? task.incident with
  | none => exact Prog.writes_pure _
  | some incident =>
      have hid : incident.id = task.incident := Table.key_of_get? hinc
      exact updateProgress_writesIn (hid ▸ hi)

/-- Whatever task of the incident has the id, another version of it may be stored. -/
def MayStore (I : Db → Prop) (S : Scope) (i : IncidentId) (pk : TaskId) : Prop :=
  ∀ db, I db → ∀ task, db.task? i pk = some task →
    ∀ task' : IncidentTask, task'.id = pk → task'.incident = i → S.task task'

theorem getTask_writesIn {view : IncidentTask → View} (hpk : MayStore I S i pk)
    (h : ∀ task : IncidentTask, task.id = pk → task.incident = i →
      (∀ task' : IncidentTask, task'.id = pk → task'.incident = i → S.task task') →
      WritesIn I S (view task)) : WritesIn I S (getTask i pk view) := by
  refine Prog.writes_read fun db hdb => ?_
  cases htask : db.task? i pk with
  | none => exact Prog.writes_pure _
  | some task => exact h task (id_of_task? htask) (task?_eq_some.mp htask).2 (hpk db hdb task htask)

theorem validated_writesIn {incident : Option Incident} {view : View} (h : WritesIn I S view) :
    WritesIn I S (validated incident task view) := by
  unfold validated
  split
  · exact Prog.writes_pure _
  · exact h

theorem createTask_writesIn {data : TaskData} (hi : S.incident i) :
    WritesIn I S (createTask auth i data) := by
  refine authenticate_writesIn fun user => permitLeaderOrContributor_writesIn <|
    Prog.writes_read fun _ _ => refuseIf_writesIn <| validated_writesIn <|
      Prog.writes_read fun db _ => ?_
  cases hinc : db.incidents.get? i with
  | none => exact Prog.writes_pure _
  | some incident =>
      have hid : incident.id = i := Table.key_of_get? hinc
      refine refuseIf_writesIn (Prog.writes_atomic fun db' _ => ⟨Primitive.ofInsertTask hi, ?_⟩)
      split
      · exact Prog.writes_pure _
      · exact updateProgress_writesIn (hid ▸ hi)

theorem updateTask_writesIn {partialUpdate : Bool} {data : TaskData} (hi : S.incident i)
    (hpk : MayStore I S i pk) : WritesIn I S (updateTask auth i pk partialUpdate data) := by
  refine authenticate_writesIn fun user => permitLeaderOrContributor_writesIn <|
    getTask_writesIn hpk fun task hid hincident hrow => Prog.writes_read fun _ _ =>
      refuseIf_writesIn <| Prog.writes_read fun db _ => ?_
  cases hinc : db.incidents.get? task.incident with
  | none => exact Prog.writes_pure _
  | some incident =>
      have hrow' : S.incident incident.id := by
        rw [show incident.id = task.incident from Table.key_of_get? hinc, hincident]
        exact hi
      refine validated_writesIn (Prog.writes_atomic fun db' _ => ⟨?_, ?_⟩)
      · exact Primitive.ofSaveTask (hrow (data.over task) hid hincident)
      · exact Prog.writes_ite (fun _ => updateProgress_writesIn hrow') fun _ => Prog.writes_pure _

theorem deleteTask_writesIn (hi : S.incident i)
    (hpk : ∀ db, I db → ∀ task, db.task? i pk = some task → S.dropped pk) :
    WritesIn I S (deleteTask auth i pk) := by
  refine authenticate_writesIn fun user => permitLeaderOrContributor_writesIn <|
    Prog.writes_read fun db hdb => ?_
  cases htask : db.task? i pk with
  | none => exact Prog.writes_pure _
  | some task =>
      refine Prog.writes_read fun db' _ => ?_
      cases hinc : db'.incidents.get? task.incident with
      | none => exact Prog.writes_pure _
      | some incident =>
          have hrow : S.incident incident.id := by
            rw [show incident.id = task.incident from Table.key_of_get? hinc,
              (task?_eq_some.mp htask).2]
            exact hi
          exact Prog.writes_bind
            (Prog.writes_modify fun _ _ => .dropTask (hpk db hdb task htask))
            fun _ => updateProgress_writesIn hrow

theorem saveVersion_writesIn {task' : IncidentTask} (hi : S.incident i)
    (hrow : ∀ task' : IncidentTask, task'.id = pk → task'.incident = i → S.task task')
    (hid : task'.id = pk) (hincident : task'.incident = i) : WritesIn I S (saveTask task') :=
  saveTask_writesIn (hincident ▸ hi) (hrow task' hid hincident)

def TaskRequest.Within (I : Db → Prop) (S : Scope) : TaskRequest → Prop
  | create _ i _ => S.incident i
  | delete _ i pk =>
    S.incident i ∧ ∀ db, I db → ∀ task, db.task? i pk = some task → S.dropped pk
  | update _ i pk _ _ | confirm _ i pk | complete _ i pk _ _ | fail _ i pk _ | relaunch _ i pk =>
    S.incident i ∧ MayStore I S i pk

theorem TaskRequest.writesIn (request : TaskRequest) (h : request.Within I S) :
    WritesIn I S request.view := by
  cases request with
  | create auth i data => exact createTask_writesIn h
  | update auth i pk partialUpdate data => exact updateTask_writesIn h.1 h.2
  | delete auth i pk => exact deleteTask_writesIn h.1 h.2
  | confirm auth i pk =>
      exact authenticate_writesIn fun _ => permitLeader_writesIn <|
        getTask_writesIn h.2 fun task hid hincident hrow =>
          saveVersion_writesIn h.1 hrow hid hincident
  | complete auth i pk image video =>
      exact authenticate_writesIn fun _ => permitLeaderOrContributor_writesIn <|
        getTask_writesIn h.2 fun task hid hincident hrow => refuseIf_writesIn <|
          refuseIf_writesIn <| saveVersion_writesIn h.1 hrow hid hincident
  | fail auth i pk reason =>
      refine authenticate_writesIn fun _ => permitLeaderOrContributor_writesIn <|
        getTask_writesIn h.2 fun task hid hincident hrow => ?_
      cases reason with
      | nothing => exact Prog.writes_pure _
      | unusable => exact Prog.writes_pure _
      | text reason => exact saveVersion_writesIn h.1 hrow hid hincident
  | relaunch auth i pk =>
      exact authenticate_writesIn fun _ => permitLeader_writesIn <|
        getTask_writesIn h.2 fun task hid hincident hrow => refuseIf_writesIn <|
          saveVersion_writesIn h.1 hrow hid hincident

end IncidentTasks

/-! ## The generic update -/

section Put

variable {I : Db → Prop} {S : Scope} {auth : Option UserId} {i : IncidentId} {data : IncidentData}
  {mailSent : Bool}

theorem putIncident_writesIn (hi : S.incident i) :
    WritesIn I S (putIncident auth i data mailSent) := by
  have hmail : ∀ {incident : Incident} {reply : Response},
      WritesIn I S (mailReporter incident mailSent reply) :=
    Prog.writes_read fun _ _ =>
      Prog.writes_ite (fun _ => Prog.writes_pure _) fun _ => Prog.writes_pure _
  have hanswer : ∀ {incident : Incident} {reply : Response},
      WritesIn I S (putIncident.answer data mailSent incident reply) := by
    intro incident reply
    unfold putIncident.answer
    split
    · exact hmail
    · exact hmail
    · exact Prog.writes_pure _
    · exact Prog.writes_pure _
  have hput : WritesIn I S (putIncident none i data mailSent) := by
    refine getIncident_writesIn fun incident hid => Prog.writes_read fun _ _ =>
      refuseIf_writesIn <| Prog.writes_read fun _ _ => ?_
    split
    · exact Prog.writes_pure _
    · have hrow : S.incident (data.over incident).id :=
        (show (data.over incident).id = i from hid).symm ▸ hi
      exact Prog.writes_bind (Prog.writes_modify fun _ _ => .saveRow hrow) fun _ => hanswer
  cases auth with
  | none => exact hput
  | some u => exact authenticate_writesIn fun _ => hput

end Put

end Mapapi
