import Mapapi.AnsweredOnce
import Mapapi.Footprint
import Mapapi.TaskRows

/-!
# Requests that run at the same time

Any number of requests and tasks (`Work`) may be under way at once, and their reads and
writes happen in any order. Two laws hold whatever that order is. What is stored at an
incident stays as it is, as long as nothing that runs is about it (`spared_unchanged`).
And some records only ever grow (`records_kept`): between any two moments of a run,
accounts are not touched, the log of actions is appended to, and an assignment or a
suggestion that has been answered is never open again.

Both rest on the footprints of `Mapapi.Footprint`: each view is proved once to write only
within a scope, and a law is then checked on each kind of write. The first law is about
the store at the start, since that decides what a request is about. The second one is not:
requests that have begun when the earlier moment comes may store a suggestion as they read
it before that, and it is only because no request makes a suggestion, or changes more of
one than its status, that such a row is still the one that is stored (`SuggestedIn`).
-/

namespace Mapapi

open Lib

/-! ## What runs -/

/-- What may be under way: an operation of the life cycle (`Op`: taking charge, handling,
resolution and its validation, assignment to an organisation, asking for, accepting and
declining a collaboration, answering a suggestion, the discussion, and the four periodic
tasks), the generic update of an incident, or a request about a task. Deleting a user, the
trash, editing or deleting a collaboration and making a suggestion are not among them. -/
inductive Work where
  | op (event : Event)
  | put (auth : Option UserId) (i : IncidentId) (data : IncidentData) (mailSent : Bool)
  | task (request : TaskRequest)

/-- The operations as programs, with their answers dropped; run alone they are
the steps of `Mapapi.Server`. -/
def Op.prog (now : Instant) : Op → Prog Db Unit
  | takeInCharge auth i mode role => do let _ ← Mapapi.takeInCharge now auth i mode role
  | handleIncident auth i action => do let _ ← Mapapi.handleIncident auth i action
  | closeIncident auth i start stop => do let _ ← Mapapi.closeIncident auth i start stop
  | prepareResolution auth i => do let _ ← Mapapi.prepareResolution now auth i
  | returnForCompletion auth i => do let _ ← Mapapi.returnForCompletion auth i
  | declareResolved auth i => do let _ ← Mapapi.declareResolved now auth i
  | disengage auth i => do let _ ← Mapapi.disengage auth i
  | validateResolution auth i => do let _ ← Mapapi.validateResolution auth i
  | rejectResolution auth i motif => do let _ ← Mapapi.rejectResolution auth i motif
  | assignToOrganisation auth i org => do let _ ← Mapapi.assignToOrganisation now auth i org
  | acceptOrgAssignment auth pk => do let _ ← Mapapi.acceptOrgAssignment now auth pk
  | declineOrgAssignment auth pk reason => do
    let _ ← Mapapi.declineOrgAssignment now auth pk reason
  | requestCollaboration auth data => do let _ ← Mapapi.requestCollaboration now auth data
  | bulkRequest auth requests => do let _ ← Mapapi.bulkRequest now auth requests
  | handleCollaboration auth id action => do let _ ← Mapapi.handleCollaboration auth id action
  | acceptCollaboration auth id => do let _ ← Mapapi.acceptCollaboration now auth id
  | declineCollaboration auth id => do let _ ← Mapapi.declineCollaboration auth id
  | acceptSuggestion auth i pk => do let _ ← Mapapi.acceptSuggestion auth i pk
  | rejectSuggestion auth i pk => do let _ ← Mapapi.rejectSuggestion auth i pk
  | readDiscussion auth i => do let _ ← Mapapi.readDiscussion auth i
  | postDiscussion auth i data => do let _ ← Mapapi.postDiscussion auth i data
  | autoValidateOverdueResolutions => do let _ ← Mapapi.autoValidateOverdueResolutions now
  | revertStaleTakenIncidents => do let _ ← Mapapi.revertStaleTakenIncidents now
  | purgeExpiredTrash => do let _ ← Mapapi.purgeExpiredTrash now
  | autoAcceptOverdueAssignments => do let _ ← Mapapi.autoAcceptOverdueAssignments now

def Work.prog : Work → Prog Db Unit
  | op event => event.op.prog event.now
  | put auth i data mailSent => do let _ ← putIncident auth i data mailSent
  | task request => do let _ ← request.view

/-- Alone, an operation has its effect. -/
theorem Op.run_prog (op : Op) (now : Instant) (db : Db) :
    ((op.prog now).run db).2 = op.effect now db := by
  cases op <;> exact congrArg Prod.snd (Prog.run_bind ..)

def workPool {ι : Type} (db : Db) (works : ι → Work) : Pool Db ι Unit :=
  { store := db, progs := fun k => (works k).prog }

/-! ## What an operation may be about -/

def Op.Within (I : Db → Prop) (S : Scope) (now : Instant) : Op → Prop
  | takeInCharge _ i _ _ | handleIncident _ i _ | closeIncident _ i _ _ | prepareResolution _ i
  | returnForCompletion _ i | declareResolved _ i | disengage _ i | validateResolution _ i
  | rejectResolution _ i _ | assignToOrganisation _ i _ | readDiscussion _ i
  | postDiscussion _ i _ => S.incident i
  | acceptOrgAssignment _ pk => S.assignment pk ∧
    ∀ db, I db → ∀ a, db.orgAssignments.get? pk = some a → S.incident a.incident
  | declineOrgAssignment _ pk _ => S.assignment pk
  | requestCollaboration _ data => ∀ i, data.incident = .value i → S.incident i
  | bulkRequest _ requests => ∀ items, requests = some items → ∀ item ∈ items, ∀ i,
    item.incident = .uuid i → S.incident i
  | handleCollaboration _ id _ => Names I S id
  | acceptCollaboration _ rawId | declineCollaboration _ rawId =>
    ∀ id, rawId = .uuid id → Names I S id
  | acceptSuggestion _ i pk => S.incident i ∧ MayAnswer I S i pk
  | rejectSuggestion _ i pk => MayAnswer I S i pk
  | autoValidateOverdueResolutions => ∀ db, I db →
    ∀ incident ∈ db.incidents.select (overdueValidation now), S.incident incident.id
  | revertStaleTakenIncidents => ∀ db, I db →
    ∀ pair ∈ db.incidents.rows.filterMap engagedSince,
      antigelVerdict now pair.2 pair.1 ≠ .wait → S.incident pair.1.id
  | purgeExpiredTrash => ∀ db, I db →
    ∀ incident ∈ db.incidents.select (expiredTrash now), S.purged incident.id
  | autoAcceptOverdueAssignments => ∀ db, I db →
    ∀ pair ∈ overdueAssignments now db, S.assignment pair.1.id ∧ S.incident pair.2.id

/-- The footprint of every operation, one lemma for each endpoint. This is the
only place where the programs are looked into: what is proved about all of
them at once, here and in `records_kept`, speaks of their footprints. -/
theorem Op.writesIn {I : Db → Prop} {S : Scope} {now : Instant} (op : Op)
    (h : op.Within I S now) : WritesIn I S (op.prog now) := by
  have answered {α : Type} {p : Prog Db α} (hp : WritesIn I S p) :
      WritesIn I S (do let _ ← p) := Prog.writes_bind hp fun _ => Prog.writes_pure _
  cases op with
  | takeInCharge auth i mode role => exact answered (takeInCharge_writesIn h)
  | handleIncident auth i action => exact answered (handleIncident_writesIn h)
  | closeIncident auth i start stop => exact answered (closeIncident_writesIn h)
  | prepareResolution auth i => exact answered (prepareResolution_writesIn h)
  | returnForCompletion auth i => exact answered (returnForCompletion_writesIn h)
  | declareResolved auth i => exact answered (declareResolved_writesIn h)
  | disengage auth i => exact answered (disengage_writesIn h)
  | validateResolution auth i => exact answered (validateResolution_writesIn h)
  | rejectResolution auth i motif => exact answered (rejectResolution_writesIn h)
  | assignToOrganisation auth i org => exact answered (assignToOrganisation_writesIn h)
  | acceptOrgAssignment auth pk => exact answered (acceptOrgAssignment_writesIn h.1 h.2)
  | declineOrgAssignment auth pk reason => exact answered (declineOrgAssignment_writesIn h)
  | requestCollaboration auth data => exact answered (requestCollaboration_writesIn h)
  | bulkRequest auth requests => exact answered (bulkRequest_writesIn h)
  | handleCollaboration auth id action => exact answered (handleCollaboration_writesIn h)
  | acceptCollaboration auth id => exact answered (acceptCollaboration_writesIn h)
  | declineCollaboration auth id => exact answered (declineCollaboration_writesIn h)
  | acceptSuggestion auth i pk => exact answered (acceptSuggestion_writesIn h.1 h.2)
  | rejectSuggestion auth i pk => exact answered (rejectSuggestion_writesIn h)
  | readDiscussion auth i => exact answered (readDiscussion_writesIn h)
  | postDiscussion auth i data => exact answered (postDiscussion_writesIn h)
  | autoValidateOverdueResolutions => exact answered (autoValidate_writesIn h)
  | revertStaleTakenIncidents => exact answered (revertStale_writesIn h)
  | purgeExpiredTrash => exact answered (purgeExpiredTrash_writesIn h)
  | autoAcceptOverdueAssignments => exact answered (autoAccept_writesIn h)

def Work.Within (I : Db → Prop) (S : Scope) : Work → Prop
  | op event => event.op.Within I S event.now
  | put _ i _ _ => S.incident i
  | task request => request.Within I S

theorem Work.writesIn {I : Db → Prop} {S : Scope} (work : Work) (h : work.Within I S) :
    WritesIn I S work.prog := by
  cases work with
  | op event => exact event.op.writesIn h
  | put auth i data mailSent =>
      exact Prog.writes_bind (putIncident_writesIn h) fun _ => Prog.writes_pure _
  | task request => exact Prog.writes_bind (request.writesIn h) fun _ => Prog.writes_pure _

/-! ## Creating and storing collaborations -/

theorem collaborations_insert (incident : Incident) (c : Collaboration) (db : Db)
    (hfree : db.collaboration? c.incident c.user = none) :
    ((db.insertCollaboration incident c).2.collaborations = db.collaborations ∨
      (db.insertCollaboration incident c).2.collaborations = db.collaborations.put c) ∧
    ∃ notifications messages entry, (db.insertCollaboration incident c).2 = { db with
      collaborations := (db.insertCollaboration incident c).2.collaborations
      notifications := notifications
      userActions := db.userActions ++ [entry]
      discussionMessages := messages } := by
  have hgone : (db.collaborations.put c).erase (c.incident, c.user) = db.collaborations :=
    Table.erase_put_self hfree
  unfold Db.insertCollaboration Db.notifyOrganisationOnCollaboration
  split
  · split
    · exact ⟨Or.inr rfl, _, _, _, rfl⟩
    · split
      · dsimp only
        split
        · exact ⟨Or.inr rfl, _, _, _, rfl⟩
        · exact ⟨Or.inr rfl, _, _, _, rfl⟩
      · exact ⟨Or.inl hgone, _, _, _, rfl⟩
  · exact ⟨Or.inl hgone, _, _, _, rfl⟩

/-- What a creation leaves: the store itself, or a store with one more row and log entry. -/
inductive Creates (c : Collaboration) (db : Db) : Db → Prop where
  | nothing : Creates c db db
  | logged {notifications messages entry} : Creates c db { db with
      notifications := notifications
      userActions := db.userActions ++ [entry]
      discussionMessages := messages }
  | stored {row : Collaboration} {notifications messages entry}
      (hincident : row.incident = c.incident)
      (hfree : db.collaboration? row.incident row.user = none) : Creates c db { db with
      collaborations := db.collaborations.put row
      notifications := notifications
      userActions := db.userActions ++ [entry]
      discussionMessages := messages }

theorem creates_insertCollaboration (incident : Incident) {c row : Collaboration} {db : Db}
    (hincident : row.incident = c.incident)
    (hfree : db.collaboration? row.incident row.user = none) :
    Creates c db (db.insertCollaboration incident row).2 := by
  obtain ⟨hrows, notifications, messages, entry, hstore⟩ :=
    collaborations_insert incident row db hfree
  rw [hstore]
  rcases hrows with hgone | hput
  · rw [hgone]
    exact .logged
  · rw [hput]
    exact .stored hincident hfree

theorem creates_createCollaboration (incident : Incident) (c : Collaboration) (db : Db) :
    Creates c db (db.createCollaboration incident c).2 := by
  unfold Db.createCollaboration
  split
  · exact .nothing
  · rename_i hnone
    exact creates_insertCollaboration incident rfl (by simpa using hnone)

theorem creates_createCollaborationAtomic (incident : Incident) (c : Collaboration) (db : Db) :
    Creates c db (db.createCollaborationAtomic incident c).2 := by
  unfold Db.createCollaborationAtomic
  split
  · exact .nothing
  · rename_i hnone
    dsimp only
    split
    · exact .nothing
    · exact creates_insertCollaboration incident rfl (by simpa using hnone)

theorem saveCollaboration_eq (c : Collaboration) (db : Db) :
    ∃ entries, db.saveCollaboration c = { db with
      collaborations := db.collaborations.put c
      userActions := db.userActions ++ entries } := by
  unfold Db.saveCollaboration
  dsimp only
  split
  · exact ⟨_, rfl⟩
  · refine ⟨[], ?_⟩
    rw [List.append_nil]

/-! ## One incident -/

/-- What is stored at the incident `j` is the same in both stores. -/
structure SameAt (j : IncidentId) (db db' : Db) : Prop where
  incident : db'.incidents.get? j = db.incidents.get? j
  tasks : (db'.tasks.select fun r => decide (r.incident = j)) =
    db.tasks.select fun r => decide (r.incident = j)
  collaborations : db'.collaborationsOf j = db.collaborationsOf j
  orgAssignments : (db'.orgAssignments.select fun r => decide (r.incident = j)) =
    db.orgAssignments.select fun r => decide (r.incident = j)
  partnerSuggestions : (db'.partnerSuggestions.select fun r => decide (r.incident = j)) =
    db.partnerSuggestions.select fun r => decide (r.incident = j)

theorem SameAt.refl (j : IncidentId) (db : Db) : SameAt j db db := ⟨rfl, rfl, rfl, rfl, rfl⟩

/-- Everything but the rows of the incident `j`, as `db` has them. -/
def Scope.sparing (j : IncidentId) (db : Db) : Scope where
  incident i := i ≠ j
  assignment pk := ∀ a, db.orgAssignments.get? pk = some a → a.incident ≠ j
  suggestion s := s.incident ≠ j ∧
    ∀ s', db.partnerSuggestions.get? s.id = some s' → s'.incident ≠ j
  task t := t.incident ≠ j ∧ ∀ t', db.tasks.get? t.id = some t' → t'.incident ≠ j
  dropped pk := ∀ t, db.tasks.get? pk = some t → t.incident ≠ j
  purged i := i ≠ j

section SameAt

variable {j : IncidentId} {db₀ db db' : Db}

theorem SameAt.create {c : Collaboration} (h : SameAt j db₀ db) (hc : c.incident ≠ j)
    (hcreates : Creates c db db') : SameAt j db₀ db' := by
  cases hcreates with
  | nothing => exact h
  | logged => exact { h with }
  | stored hincident hfree =>
      refine { h with collaborations := ?_ }
      refine (Table.select_put _ _ ?_ fun old hold => ?_).trans h.collaborations
      · exact decide_eq_false (hincident ▸ hc)
      · exact absurd (hold.symm.trans hfree) (Option.some_ne_none _)

theorem SameAt.deleteIncident (h : SameAt j db₀ db) {i : IncidentId} (hi : i ≠ j) :
    SameAt j db₀ (db.deleteIncident i) := by
  have hother {k : IncidentId} (hk : decide (k = j) = true) : decide (k = i) = false :=
    decide_eq_false fun hki => hi (hki.symm.trans (of_decide_eq_true hk))
  refine ⟨?_, ?_, ?_, ?_, ?_⟩
  · refine (Table.get?_erase ..).trans ?_
    rw [if_neg (Ne.symm hi)]
    exact h.incident
  · exact (Table.select_eraseWhere _ fun _ _ hp => hother hp).trans h.tasks
  · exact (Table.select_eraseWhere _ fun _ _ hp => hother hp).trans h.collaborations
  · exact (Table.select_eraseWhere _ fun _ _ hp => hother hp).trans h.orgAssignments
  · exact (Table.select_eraseWhere _ fun _ _ hp => hother hp).trans h.partnerSuggestions

theorem SameAt.purge {incidents : List Incident} (h : SameAt j db₀ db)
    (hother : ∀ incident ∈ incidents, incident.id ≠ j) :
    SameAt j db₀ (incidents.foldl (fun db incident => db.deleteIncident incident.id) db) := by
  induction incidents generalizing db with
  | nil => exact h
  | cons incident rest ih =>
      refine ih (h.deleteIncident (hother incident List.mem_cons_self)) fun other hmem => ?_
      exact hother other (List.mem_cons_of_mem _ hmem)

/-- The step of the isolation: a write within `Scope.sparing j` is about
another incident, or a row of another incident, and so leaves everything that
is stored about `j` as it was. Writes to a row are told apart by its key,
which is why the scope carries the store at the start: the incident that a row
belongs to is looked up there. -/
theorem SameAt.write (h : SameAt j db₀ db) (hwrite : Primitive (.sparing j db₀) db db') :
    SameAt j db₀ db' := by
  cases hwrite with
  | saveFields hinst =>
      exact { h with incident :=
        (Db.incidents_saveIncidentFields_other (Ne.symm hinst)).trans h.incident }
  | saveRow hinst =>
      refine { h with incident := ?_ }
      rw [Db.incidents_saveIncident, if_neg (Ne.symm hinst)]
      exact h.incident
  | log => exact { h with }
  | tell => exact { h with }
  | post => exact { h with }
  | create hc => exact h.create hc (creates_createCollaboration _ _ _)
  | createAtomic hc => exact h.create hc (creates_createCollaborationAtomic _ _ _)
  | saveCollaboration hc =>
      obtain ⟨entries, heq⟩ := saveCollaboration_eq _ db
      rw [heq]
      refine { h with collaborations := ?_ }
      refine (Table.select_put _ _ ?_ fun old hold => ?_).trans h.collaborations
      · exact decide_eq_false hc
      · rw [decide_eq_false_iff_not, (Db.collaboration?_key hold).1]
        exact hc
  | update hp =>
      refine { h with collaborations := ?_ }
      refine (Table.select_updateWhere _ ?_ fun c _ hpc => ?_).trans h.collaborations
      · exact fun _ => rfl
      · exact ⟨decide_eq_false (hp c hpc), decide_eq_false (hp c hpc)⟩
  | drop hc =>
      refine { h with collaborations := ?_ }
      refine (Table.select_erase _ _ fun old hold => ?_).trans h.collaborations
      rw [decide_eq_false_iff_not, (Db.collaboration?_key hold).1]
      exact hc
  | assign hincident hid =>
      refine { h with orgAssignments := ?_ }
      refine (Table.select_put _ _ ?_ fun old hold => ?_).trans h.orgAssignments
      · exact decide_eq_false hincident
      · exact absurd (hold.symm.trans hid) (Option.some_ne_none _)
  | answer hpk hstatus =>
      refine { h with orgAssignments := ?_ }
      refine (Table.select_updateWhere _ ?_ fun a ha hkey => ?_).trans h.orgAssignments
      · exact fun _ => rfl
      · -- the row that is answered was there before, at another incident
        have hother : a.incident ≠ j := by
          intro hj
          have hget : db.orgAssignments.get? (key a) = some a := Table.get?_of_mem ha
          rw [of_decide_eq_true hkey] at hget
          exact hpk a
            ((Table.get?_eq_some_of_select h.orgAssignments (decide_eq_true hj)).mp hget) hj
        exact ⟨decide_eq_false hother, decide_eq_false hother⟩
  | suggest hs hstatus =>
      refine { h with partnerSuggestions := ?_ }
      refine (Table.select_put _ _ ?_ fun old hold => ?_).trans h.partnerSuggestions
      · exact decide_eq_false hs.1
      · refine decide_eq_false fun hj => hs.2 old ?_ hj
        exact (Table.get?_eq_some_of_select h.partnerSuggestions (decide_eq_true hj)).mp hold
  | saveTask ht =>
      refine { h with tasks := ?_ }
      refine (Table.select_put _ _ ?_ fun old hold => ?_).trans h.tasks
      · exact decide_eq_false ht.1
      · refine decide_eq_false fun hj => ht.2 old ?_ hj
        exact (Table.get?_eq_some_of_select h.tasks (decide_eq_true hj)).mp hold
  | insertTask hincident hid =>
      refine { h with tasks := ?_ }
      refine (Table.select_put _ _ ?_ fun old hold => ?_).trans h.tasks
      · exact decide_eq_false hincident
      · exact absurd (hold.symm.trans hid) (Option.some_ne_none _)
  | dropTask hpk =>
      refine { h with tasks := ?_ }
      refine (Table.select_erase _ _ fun old hold => ?_).trans h.tasks
      refine decide_eq_false fun hj => hpk old ?_ hj
      exact (Table.get?_eq_some_of_select h.tasks (decide_eq_true hj)).mp hold
  | purge hincidents => exact h.purge hincidents

end SameAt

/-! ### What is not about the incident -/

/-- An operation at `now` that is not about the incident `j`, as `db` has it. -/
def Op.Spares (j : IncidentId) (db : Db) (now : Instant) : Op → Prop
  | takeInCharge _ i _ _ | handleIncident _ i _ | closeIncident _ i _ _ | prepareResolution _ i
  | returnForCompletion _ i | declareResolved _ i | disengage _ i | validateResolution _ i
  | rejectResolution _ i _ | assignToOrganisation _ i _ | acceptSuggestion _ i _
  | rejectSuggestion _ i _ | readDiscussion _ i | postDiscussion _ i _ => i ≠ j
  | acceptOrgAssignment _ pk | declineOrgAssignment _ pk _ =>
    ∀ a, db.orgAssignments.get? pk = some a → a.incident ≠ j
  | requestCollaboration _ data => data.incident ≠ .value j
  | bulkRequest _ requests =>
    ∀ items, requests = some items → ∀ item ∈ items, item.incident ≠ .uuid j
  | handleCollaboration _ id _ => ∀ c ∈ db.collaborationsOf j, c.id ≠ id
  | acceptCollaboration _ rawId | declineCollaboration _ rawId =>
    ∀ c ∈ db.collaborationsOf j, rawId ≠ .uuid c.id
  | autoValidateOverdueResolutions =>
    ∀ row, db.incidents.get? j = some row → overdueValidation now row = false
  | revertStaleTakenIncidents => ∀ row since, db.incidents.get? j = some row →
    row.etat = .taken → row.takenInChargeAt = some since → antigelVerdict now since row = .wait
  | purgeExpiredTrash => ∀ row, db.incidents.get? j = some row → expiredTrash now row = false
  | autoAcceptOverdueAssignments => ∀ a ∈ db.orgAssignments.rows, a.incident = j →
    a.status = .pending → ¬ a.deadline < now

/-- The condition of the isolation, on what is asked and on the store at the
start only: it can be checked before anything runs. -/
def Work.Spares (j : IncidentId) (db : Db) : Work → Prop
  | op event => event.op.Spares j db event.now
  | put _ i _ _ => i ≠ j
  | task request => request.incident ≠ j

section Spares

variable {j : IncidentId} {db₀ db : Db}

/-- No collaboration of the incident has the id, whatever else has been stored. -/
theorem names_of_spared {id : CollaborationId} (h : ∀ c ∈ db₀.collaborationsOf j, c.id ≠ id) :
    Names (SameAt j db₀) (.sparing j db₀) id := by
  intro db hdb c hrow hj
  have hmem : c ∈ db.collaborationsOf j :=
    List.mem_filter.mpr ⟨List.mem_of_find?_eq_some hrow, decide_eq_true hj⟩
  rw [hdb.collaborations] at hmem
  have hid := List.find?_some hrow
  exact h c hmem (of_decide_eq_true hid)

/-- A row of another incident is not stored under the id of a row of this one. -/
theorem SameAt.mayAnswer {i : IncidentId} {pk : SuggestionId} (hi : i ≠ j) :
    MayAnswer (SameAt j db₀) (.sparing j db₀) i pk := by
  intro db hdb s hget hincident status
  refine ⟨hincident ▸ hi, fun old hold hj => ?_⟩
  have hid : s.id = pk := Table.key_of_get? hget
  have hnow := (Table.get?_eq_some_of_select hdb.partnerSuggestions (decide_eq_true hj)).mpr hold
  rw [show ({ s with status := status } : PartnerSuggestion).id = pk from hid, hget] at hnow
  rw [Option.some.inj hnow, hj] at hincident
  exact hi hincident.symm

theorem SameAt.other_task {i : IncidentId} {pk : TaskId} {task : IncidentTask} (hi : i ≠ j)
    (hdb : SameAt j db₀ db) (htask : db.task? i pk = some task) :
    ∀ old, db₀.tasks.get? pk = some old → old.incident ≠ j := by
  intro old hold hj
  obtain ⟨hget, hincident⟩ := task?_eq_some.mp htask
  have hnow := (Table.get?_eq_some_of_select hdb.tasks (decide_eq_true hj)).mpr hold
  rw [hget] at hnow
  rw [Option.some.inj hnow, hj] at hincident
  exact hi hincident.symm

theorem SameAt.mayStore {i : IncidentId} {pk : TaskId} (hi : i ≠ j) :
    MayStore (SameAt j db₀) (.sparing j db₀) i pk := by
  intro db hdb task htask task' hid hincident
  refine ⟨hincident ▸ hi, fun old hold => ?_⟩
  rw [hid] at hold
  exact hdb.other_task hi htask old hold

theorem SameAt.id_ne {row : Incident} {p : Incident → Bool} (hdb : SameAt j db₀ db)
    (h : ∀ row, db₀.incidents.get? j = some row → p row = false)
    (hmem : row ∈ db.incidents.rows) (hp : p row = true) : row.id ≠ j := by
  rintro rfl
  have hget : db.incidents.get? (key row) = some row := Table.get?_of_mem hmem
  rw [h row (hdb.incident.symm.trans hget)] at hp
  cases hp

/-- To spare an incident is to stay within its scope. For the endpoints the
two say the same; the periodic tasks have to be followed through their loops,
where each row they act on is one that they have selected. -/
theorem Op.within_of_spares {now : Instant} {op : Op} (h : op.Spares j db₀ now) :
    op.Within (SameAt j db₀) (.sparing j db₀) now := by
  cases op with
  | takeInCharge auth i mode role => exact h
  | handleIncident auth i action => exact h
  | closeIncident auth i start stop => exact h
  | prepareResolution auth i => exact h
  | returnForCompletion auth i => exact h
  | declareResolved auth i => exact h
  | disengage auth i => exact h
  | validateResolution auth i => exact h
  | rejectResolution auth i motif => exact h
  | assignToOrganisation auth i org => exact h
  | readDiscussion auth i => exact h
  | postDiscussion auth i data => exact h
  | acceptSuggestion auth i pk => exact ⟨h, SameAt.mayAnswer h⟩
  | rejectSuggestion auth i pk => exact SameAt.mayAnswer h
  | acceptOrgAssignment auth pk =>
      refine ⟨h, fun db hdb a hget hj => ?_⟩
      exact h a ((Table.get?_eq_some_of_select hdb.orgAssignments (decide_eq_true hj)).mp hget) hj
  | declineOrgAssignment auth pk reason => exact h
  | requestCollaboration auth data =>
      rintro i hi rfl
      exact h hi
  | bulkRequest auth requests =>
      rintro items hitems item hitem i hi rfl
      exact h items hitems item hitem hi
  | handleCollaboration auth id action => exact names_of_spared h
  | acceptCollaboration auth rawId =>
      intro id hid
      exact names_of_spared fun c hc heq => h c hc (heq ▸ hid)
  | declineCollaboration auth rawId =>
      intro id hid
      exact names_of_spared fun c hc heq => h c hc (heq ▸ hid)
  | autoValidateOverdueResolutions =>
      intro db hdb incident hincident
      obtain ⟨hmem, hdue⟩ := List.mem_filter.mp hincident
      exact hdb.id_ne h hmem hdue
  | revertStaleTakenIncidents =>
      rintro db hdb ⟨incident, since⟩ hpair hverdict rfl
      obtain ⟨row, hmem, hsince⟩ := List.mem_filterMap.mp hpair
      obtain ⟨rfl, hetat, hat⟩ := engagedSince_eq_some hsince
      have hget : db.incidents.get? (key row) = some row := Table.get?_of_mem hmem
      exact hverdict (h row since (hdb.incident.symm.trans hget) hetat hat)
  | purgeExpiredTrash =>
      intro db hdb incident hincident
      obtain ⟨hmem, hexpired⟩ := List.mem_filter.mp hincident
      exact hdb.id_ne h hmem hexpired
  | autoAcceptOverdueAssignments =>
      rintro db hdb ⟨a, incident⟩ hpair
      obtain ⟨hmem, hpending, hdue, hinc⟩ := mem_overdueAssignments.mp hpair
      have hother : ∀ old, old ∈ db.orgAssignments.rows → old.status = .pending →
          old.deadline < now → old.incident ≠ j := by
        intro old hold hstatus hdeadline hj
        have hsel : old ∈ db.orgAssignments.select fun r => decide (r.incident = j) :=
          List.mem_filter.mpr ⟨hold, decide_eq_true hj⟩
        rw [hdb.orgAssignments] at hsel
        exact h old (List.mem_filter.mp hsel).1 hj hstatus hdeadline
      have hne := hother a hmem hpending hdue
      refine ⟨fun old hold hj => ?_, ?_⟩
      · have hnow :=
          (Table.get?_eq_some_of_select hdb.orgAssignments (decide_eq_true hj)).mpr hold
        have hget : db.orgAssignments.get? (key a) = some a := Table.get?_of_mem hmem
        rw [show db.orgAssignments.get? a.id = some a from hget] at hnow
        exact hne (Option.some.inj hnow ▸ hj)
      · rw [show incident.id = a.incident from Table.key_of_get? hinc]
        exact hne

theorem Work.within_of_spares {work : Work} (h : work.Spares j db₀) :
    work.Within (SameAt j db₀) (.sparing j db₀) := by
  cases work with
  | op event => exact Op.within_of_spares h
  | put auth i data mailSent => exact h
  | task request =>
      cases request with
      | create auth i data => exact h
      | update auth i pk partialUpdate data => exact ⟨h, SameAt.mayStore h⟩
      | delete auth i pk => exact ⟨h, fun db hdb task htask => hdb.other_task h htask⟩
      | confirm auth i pk => exact ⟨h, SameAt.mayStore h⟩
      | complete auth i pk image video => exact ⟨h, SameAt.mayStore h⟩
      | fail auth i pk reason => exact ⟨h, SameAt.mayStore h⟩
      | relaunch auth i pk => exact ⟨h, SameAt.mayStore h⟩

end Spares

/-- What is stored at an incident stays as it is while nothing that is under
way is about it: however many requests and tasks run, and in whatever order
they read and write. What a request is about is decided by the store at the
start; `SameAt` keeps that decision valid at every later turn. -/
theorem spared_unchanged {ι : Type} [DecidableEq ι] (db : Db) (works : ι → Work)
    (j : IncidentId) (h : ∀ k, (works k).Spares j db) (schedule : List ι) :
    SameAt j db ((workPool db works).exec schedule).store :=
  Pool.exec_writes (c := workPool db works)
    (fun k => (works k).writesIn (Work.within_of_spares (h k)))
    (fun _ _ hwrite hdb => hdb.write hwrite) (fun _ _ hwrite _ hdb => hdb.write hwrite)
    (.refl j db) (.refl j db) schedule

def twoIncidents : Db :=
  { taskStore with
    incidents := taskStore.incidents.put (.new 2 (some "Ordures") "Kayes" "02-02-2025") }

def elsewhere : Bool → Work
  | true => .op ⟨0, .takeInCharge (some 2) 2 (.one .internal) .unknown⟩
  | false => .op ⟨0, .purgeExpiredTrash⟩

theorem spared_unchanged_elsewhere :
    let store := ((workPool twoIncidents elsewhere).exec
      (List.replicate 4 true ++ [false, false] ++ List.replicate 4 true)).store
    store.incidents.rows.map (fun r => (r.etat, r.takenBy)) =
        [(.taken, some 2), (.taken, some 2)] ∧
      SameAt 1 twoIncidents store := by
  refine ⟨by decide, spared_unchanged twoIncidents elsewhere 1 (fun k => ?_) _⟩
  cases k with
  | true => exact Nat.succ_ne_self 1
  | false =>
      intro row hrow
      cases hrow
      rfl

/-! ## Records that only grow -/

/-- What `db` has recorded is still there in `db'`: the accounts as they are, the log as a
beginning of the new one, and every assignment and suggestion, answered for good if it was.
`db` is the store at any moment of a run, so what the run has recorded by then counts too. -/
structure KeepsRecords (db db' : Db) : Prop where
  organisations : db'.organisations = db.organisations
  users : db'.users = db.users
  userActions : db.userActions <+: db'.userActions
  orgAssignments : ∀ pk a, db.orgAssignments.get? pk = some a →
    ∃ status reason answered, db'.orgAssignments.get? pk = some { a with
        status := status, declineReason := reason, respondedAt := answered } ∧
      (a.status ≠ .pending → status ≠ .pending)
  partnerSuggestions : ∀ pk s, db.partnerSuggestions.get? pk = some s →
    ∃ status, db'.partnerSuggestions.get? pk = some { s with status := status } ∧
      (s.status ≠ .pending → status ≠ .pending)

/-- `db` has the suggestion, up to its status. -/
def Db.Suggested (db : Db) (s : PartnerSuggestion) : Prop :=
  ∃ status, db.partnerSuggestions.get? s.id = some { s with status := status }

/-- Everything but deletions; a suggestion is stored as `db` has it, up to its status. -/
def Scope.recording (db : Db) : Scope where
  incident _ := True
  assignment _ := True
  suggestion := db.Suggested
  task _ := True
  dropped _ := True
  purged _ := False

/-- The suggestions of `db` were there in `db₀`, up to their status. A request that holds
one, however old, thus holds what is stored, up to the status. -/
def SuggestedIn (db₀ db : Db) : Prop :=
  ∀ s ∈ db.partnerSuggestions.rows, db₀.Suggested s

section KeepsRecords

variable {db₀ db db' : Db}

theorem SuggestedIn.refl (db : Db) : SuggestedIn db db := fun s hs =>
  ⟨s.status, Table.get?_of_mem hs⟩

theorem SuggestedIn.create {c : Collaboration} (h : SuggestedIn db₀ db)
    (hcreates : Creates c db db') : SuggestedIn db₀ db' := by
  cases hcreates <;> exact h

theorem SuggestedIn.write (h : SuggestedIn db₀ db)
    (hwrite : Primitive (.recording db₀) db db') : SuggestedIn db₀ db' := by
  cases hwrite with
  | suggest hs hstatus =>
      intro s hmem
      rcases Table.mem_put_iff.mp hmem with rfl | ⟨hold, -⟩
      · exact hs
      · exact h s hold
  | saveCollaboration hc =>
      obtain ⟨entries, heq⟩ := saveCollaboration_eq _ db
      rw [heq]
      exact h
  | create hc => exact h.create (creates_createCollaboration _ _ _)
  | createAtomic hc => exact h.create (creates_createCollaborationAtomic _ _ _)
  | purge hincidents =>
      rename_i incidents
      cases incidents with
      | nil => exact h
      | cons incident rest => exact (hincidents incident List.mem_cons_self).elim
  | _ => exact h

/-- A suggestion that the run may store is the one an earlier store has under its id. -/
theorem SuggestedIn.eq_of_suggested {past : Db} (h : SuggestedIn db₀ past)
    {s old : PartnerSuggestion} (hold : past.partnerSuggestions.get? s.id = some old)
    (hs : db₀.Suggested s) : s = { old with status := s.status } := by
  obtain ⟨status, hstart⟩ := hs
  obtain ⟨status', hstart'⟩ := h old (Table.mem_of_get? hold)
  have hid : old.id = s.id := Table.key_of_get? hold
  have hsame : { s with status := status } = { old with status := status' } :=
    Option.some.inj (hstart.symm.trans (hid ▸ hstart'))
  calc s = { { s with status := status } with status := s.status } := rfl
    _ = { { old with status := status' } with status := s.status } := by rw [hsame]
    _ = { old with status := s.status } := rfl

theorem KeepsRecords.refl (db : Db) : KeepsRecords db db where
  organisations := rfl
  users := rfl
  userActions := List.prefix_rfl
  orgAssignments _ a h := ⟨a.status, a.declineReason, a.respondedAt, h, id⟩
  partnerSuggestions _ s h := ⟨s.status, h, id⟩

theorem KeepsRecords.create {c : Collaboration} (h : KeepsRecords db₀ db)
    (hcreates : Creates c db db') : KeepsRecords db₀ db' := by
  cases hcreates with
  | nothing => exact h
  | logged => exact { h with userActions := h.userActions.trans (List.prefix_append _ _) }
  | stored => exact { h with userActions := h.userActions.trans (List.prefix_append _ _) }

/-- A write that deletes no incident keeps what a store of the run, `past`, has recorded. -/
theorem KeepsRecords.write {past : Db} (hpast : SuggestedIn db₀ past) (h : KeepsRecords past db)
    (hwrite : Primitive (.recording db₀) db db') : KeepsRecords past db' := by
  cases hwrite with
  | saveFields hinst => exact { h with }
  | saveRow hinst => exact { h with }
  | log => exact { h with userActions := h.userActions.trans (List.prefix_append _ _) }
  | tell => exact { h with }
  | post => exact { h with }
  | create hc => exact h.create (creates_createCollaboration _ _ _)
  | createAtomic hc => exact h.create (creates_createCollaborationAtomic _ _ _)
  | saveCollaboration hc =>
      obtain ⟨entries, heq⟩ := saveCollaboration_eq _ db
      rw [heq]
      exact { h with userActions := h.userActions.trans (List.prefix_append _ _) }
  | update hp => exact { h with }
  | drop hc => exact { h with }
  | assign hincident hid =>
      refine { h with orgAssignments := fun pk a hget => ?_ }
      obtain ⟨status, reason, answered, hnow, hfinal⟩ := h.orgAssignments pk a hget
      refine ⟨status, reason, answered, ?_, hfinal⟩
      rw [Table.get?_put, if_neg]
      · exact hnow
      · rintro rfl
        exact absurd (hnow.symm.trans hid) (Option.some_ne_none _)
  | answer hpk hstatus =>
      refine { h with orgAssignments := fun pk a hget => ?_ }
      obtain ⟨status, reason, answered, hnow, hfinal⟩ := h.orgAssignments pk a hget
      rw [Db.answerAssignment, Table.get?_update, hnow]
      split
      · exact ⟨_, _, _, rfl, fun _ => hstatus⟩
      · exact ⟨status, reason, answered, rfl, hfinal⟩
  | suggest hs hstatus =>
      refine { h with partnerSuggestions := fun pk s hget => ?_ }
      obtain ⟨status, hnow, hfinal⟩ := h.partnerSuggestions pk s hget
      rw [Table.get?_put]
      split
      · rename_i hid
        subst hid
        exact ⟨_, congrArg some (hpast.eq_of_suggested hget hs), fun _ => hstatus⟩
      · exact ⟨status, hnow, hfinal⟩
  | saveTask ht => exact { h with }
  | insertTask hincident hid => exact { h with }
  | dropTask hpk => exact { h with }
  | purge hincidents =>
      rename_i incidents
      cases incidents with
      | nil => exact h
      | cons incident rest => exact (hincidents incident List.mem_cons_self).elim

theorem SuggestedIn.mayAnswer {i : IncidentId} {pk : SuggestionId} :
    MayAnswer (SuggestedIn db₀) (.recording db₀) i pk := by
  intro db hdb s hget hincident status
  obtain ⟨old, hold⟩ := hdb s (Table.mem_of_get? hget)
  exact ⟨old, hold⟩

theorem Op.within_recording {now : Instant} {op : Op} (h : op ≠ .purgeExpiredTrash) :
    op.Within (SuggestedIn db₀) (.recording db₀) now := by
  have hnames {id : CollaborationId} : Names (SuggestedIn db₀) (.recording db₀) id :=
    fun _ _ _ _ => trivial
  cases op with
  | acceptSuggestion auth i pk => exact ⟨trivial, SuggestedIn.mayAnswer⟩
  | rejectSuggestion auth i pk => exact SuggestedIn.mayAnswer
  | purgeExpiredTrash => exact absurd rfl h
  | acceptOrgAssignment auth pk => exact ⟨trivial, fun _ _ _ _ => trivial⟩
  | requestCollaboration auth data => exact fun _ _ => trivial
  | bulkRequest auth requests => exact fun _ _ _ _ _ _ => trivial
  | handleCollaboration auth id action => exact hnames
  | acceptCollaboration auth rawId => exact fun _ _ => hnames
  | declineCollaboration auth rawId => exact fun _ _ => hnames
  | autoValidateOverdueResolutions => exact fun _ _ _ _ => trivial
  | revertStaleTakenIncidents => exact fun _ _ _ _ _ => trivial
  | autoAcceptOverdueAssignments => exact fun _ _ _ _ => ⟨trivial, trivial⟩
  | _ => trivial

theorem Work.within_recording {work : Work} (h : ∀ now, work ≠ .op ⟨now, .purgeExpiredTrash⟩) :
    work.Within (SuggestedIn db₀) (.recording db₀) := by
  have hstore {i : IncidentId} {pk : TaskId} :
      MayStore (SuggestedIn db₀) (.recording db₀) i pk := fun _ _ _ _ _ _ _ => trivial
  cases work with
  | op event =>
      obtain ⟨now, op⟩ := event
      exact Op.within_recording fun hop => h now (hop ▸ rfl)
  | put auth i data mailSent => trivial
  | task request =>
      cases request with
      | create auth i data => trivial
      | delete auth i pk => exact ⟨trivial, fun _ _ _ _ => trivial⟩
      | _ => exact ⟨trivial, hstore⟩

end KeepsRecords

/-- Unless the trash is emptied, what has been recorded at any moment is kept from then on:
however many requests and tasks are under way, and in whatever order they read and write. -/
theorem records_kept {ι : Type} [DecidableEq ι] (db : Db) (works : ι → Work)
    (h : ∀ k now, works k ≠ .op ⟨now, .purgeExpiredTrash⟩) (past rest : List ι) :
    KeepsRecords ((workPool db works).exec past).store
      ((workPool db works).exec (past ++ rest)).store :=
  Pool.exec_writes_between (c := workPool db works)
    (fun k => (works k).writesIn (Work.within_recording (h k)))
    (fun _ _ hwrite hdb => hdb.write hwrite) KeepsRecords.refl
    (fun _ _ _ hpast hwrite _ hdb => hdb.write hpast hwrite) (.refl db) past rest

def answering : Bool → Work
  | true => .op ⟨0, .acceptOrgAssignment (some 2) 1⟩
  | false => .op ⟨0, .declineOrgAssignment (some 3) 1 .unknown⟩

/-- The assignment is open at the start, and accepted while the other admin's request is
under way; the second answer is stored over the first one, and leaves it answered. -/
theorem records_kept_answering :
    let past : List Bool := [true, true, false, false, true, true]
    let middle := ((workPool waitingStore answering).exec past).store
    let store := ((workPool waitingStore answering).exec (past ++ [false])).store
    waitingStore.orgAssignments.rows.map IncidentOrgAssignment.status = [.pending] ∧
      middle.orgAssignments.rows.map IncidentOrgAssignment.status = [.accepted] ∧
      store.orgAssignments.rows.map IncidentOrgAssignment.status = [.declined] ∧
      KeepsRecords middle store := by
  refine ⟨by decide, by decide, by decide,
    records_kept waitingStore answering (fun k now heq => ?_) _ _⟩
  cases k <;> cases heq

end Mapapi
