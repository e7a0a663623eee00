import Mapapi.Prologue
import Mapapi.Tacit

/-!
# An assignment is answered once

The three endpoints and the task look whether an assignment waits and write it
later, in another action; nothing keeps the others from writing in between. So
whether an assignment is answered once depends on the order of the actions: it
is as long as no answer is stored over another one and no second assignment of
an incident is created next to a waiting one (`Late`).

The programs follow a protocol (`Answering`) whose phase remembers the
assignments a program has found and the last answer it has stored. An incident
is only engaged after an acceptance.
-/

namespace Mapapi

open Lib

/-! ## The requests and the task -/

/-- A request to one of the three endpoints, or a run of the task. Each has
its own clock, since nothing orders the instants of concurrent requests. -/
inductive AssignmentOp where
  | assign (now : Instant) (auth : Option UserId) (i : IncidentId) (organisationId : RawId)
  | accept (now : Instant) (auth : Option UserId) (pk : OrgAssignmentId)
  | decline (now : Instant) (auth : Option UserId) (pk : OrgAssignmentId)
      (reason : Choice String)
  | autoAccept (now : Instant)

/-- Only what the requests do to the store matters here, so their answers are
dropped. The task that accepts tacitly is a program among the others: it walks
a snapshot and writes row by row. -/
def AssignmentOp.prog : AssignmentOp → Prog Db Unit
  | assign now auth i organisationId => do
    let _ ← assignToOrganisation now auth i organisationId
    pure ()
  | accept now auth pk => do
    let _ ← acceptOrgAssignment now auth pk
    pure ()
  | decline now auth pk reason => do
    let _ ← declineOrgAssignment now auth pk reason
    pure ()
  | autoAccept now => do
    let _ ← autoAcceptOverdueAssignments now
    pure ()

def assignmentPool {ι : Type} (db : Db) (ops : ι → AssignmentOp) : Pool Db ι Unit :=
  { store := db, progs := fun k => (ops k).prog }

/-- `IncidentOrgAssignment.objects.create(...)`, as `AssignIncidentToOrganisationView`
calls it. -/
def Db.insertAssignment (i : IncidentId) (organisation : OrganisationId) (user : UserId)
    (deadline : Instant) (db : Db) : Db :=
  { db with
    orgAssignments := db.orgAssignments.put
      { id := db.orgAssignments.freshKey, incident := i, organisation := organisation,
        assignedBy := some user, status := .pending, declineReason := none,
        deadline := deadline, respondedAt := none } }

/-! ## What is promised -/

/-- The next action of the program stores an answer. It is told by what the
action writes, so it does not depend on where in the program it stands. -/
def StoresAnswer (p : Prog Db Unit) (pk : OrgAssignmentId) (status : OrgAssignmentStatus) :
    Prop :=
  ∃ reason now next, p = .act (Db.answerAssignment pk status reason now) next

def CreatesAssignment (p : Prog Db Unit) (i : IncidentId) : Prop :=
  ∃ organisation user deadline next,
    p = .act (Db.insertAssignment i organisation user deadline) next

/-- Who has answered has done it. -/
def Db.RespondedRight (db : Db) : Prop :=
  ∀ a ∈ db.orgAssignments.rows, a.respondedAt = none ↔ a.status = .pending

section Promise

variable {ι : Type} [DecidableEq ι]

def LastAnswer (c : Pool Db ι Unit) (past : List ι) (k : ι) (pk : OrgAssignmentId) : Prop :=
  Last Pool.step (fun c j => j = k ∧ ∃ status, StoresAnswer (c.progs j) pk status)
    (fun c j => j = k ∧ ∃ pk status, StoresAnswer (c.progs j) pk status) c past

/-- Assignments are answered once. A turn that changes the incident of an
assignment, by an operation whose last answer was to it, has engaged the
incident on its behalf. -/
structure AnsweredOnce (c : Pool Db ι Unit) (schedule : List ι) : Prop where
  oneWaiting : ∀ past, past <+: schedule → (c.exec past).store.OneWaiting
  settled : ∀ past k, past ++ [k] <+: schedule → ∀ pk a,
    (c.exec past).store.orgAssignments.get? pk = some a → a.status ≠ .pending →
      ((c.exec (past ++ [k])).store.orgAssignments.get? pk).map IncidentOrgAssignment.status =
        some a.status
  declined : (∀ k, (c.exec schedule).result k ≠ none) →
    ∀ a ∈ (c.exec schedule).store.orgAssignments.rows, a.status = .declined →
      ∀ past k, past ++ [k] <+: schedule → LastAnswer c past k a.id →
        (c.exec (past ++ [k])).store.incidents.get? a.incident =
          (c.exec past).store.incidents.get? a.incident
  responded : (∀ k, (c.exec schedule).result k ≠ none) → (c.exec schedule).store.RespondedRight

/-- The turn comes too late: it answers an assignment that has been answered
otherwise, or creates one for an incident that waits. -/
def Late (c : Pool Db ι Unit) (k : ι) : Prop :=
  (∃ pk status a, StoresAnswer (c.progs k) pk status ∧
    c.store.orgAssignments.get? pk = some a ∧ a.status ≠ .pending ∧ a.status ≠ status) ∨
  ∃ i a, CreatesAssignment (c.progs k) i ∧ a ∈ c.store.orgAssignments.rows ∧
    a.incident = i ∧ a.status = .pending

end Promise

/-! ## The protocol -/

/-- What a program remembers: the assignments it has found, and its last answer. -/
structure AnswerPhase where
  known : List OrgAssignmentId
  last : Option (OrgAssignmentId × OrgAssignmentStatus)

def AnswerPhase.start : AnswerPhase := { known := [], last := none }

/-- What the next action may write in a phase. An answer is to an assignment
that was found, and an engagement follows an acceptance that the program
itself has stored; the other constructors leave the incidents or the
assignments alone. -/
inductive Answering : AnswerPhase → Db → (Db → Db) → AnswerPhase → Prop where
  /-- A read, or a write to other tables. -/
  | other {t db} (write : Db → Db) (hincidents : ∀ db, (write db).incidents = db.incidents)
      (hassignments : ∀ db, (write db).orgAssignments = db.orgAssignments) :
      Answering t db write t
  | find {t db} (pks : List OrgAssignmentId)
      (hfound : ∀ pk ∈ pks, db.orgAssignments.get? pk ≠ none) :
      Answering t db id { t with known := pks }
  | create {t db} (i : IncidentId) (organisation : OrganisationId) (user : UserId)
      (deadline : Instant) :
      Answering t db (Db.insertAssignment i organisation user deadline) t
  | answer {t db} (pk : OrgAssignmentId) (status : OrgAssignmentStatus)
      (reason : Option String → Option String) (now : Instant) (hknown : pk ∈ t.known)
      (hstatus : status ≠ .pending) :
      Answering t db (Db.answerAssignment pk status reason now)
        { t with last := some (pk, status) }
  | engage {t db} (pk : OrgAssignmentId) (write : Db → Db)
      (hlast : t.last = some (pk, .accepted))
      (hassignments : ∀ db, (write db).orgAssignments = db.orgAssignments) :
      Answering t db write t

theorem Answering.read (t : AnswerPhase) (db : Db) : Answering t db id t :=
  .other id (fun _ => rfl) fun _ => rfl

section Follows

variable {now : Instant} {auth : Option UserId} {pk : OrgAssignmentId} {t : AnswerPhase}

abbrev ToEnd (α : Type) : Prog Db α → AnswerPhase → Prop := Prog.Ended fun _ _ => True

theorem toEnd (t : AnswerPhase) (response : Response) :
    ToEnd Response (pure response) t :=
  Prog.ended_pure trivial

theorem follows_answer {status : OrgAssignmentStatus} {reason : Option String → Option String}
    {k : PUnit → View} (hknown : pk ∈ t.known) (hstatus : status ≠ .pending)
    (h : (k ⟨⟩).Follows Answering (ToEnd Response) { t with last := some (pk, status) }) :
    (Prog.modify (Db.answerAssignment pk status reason now) >>= k).Follows Answering
      (ToEnd Response) t :=
  Or.inr fun _ => ⟨_, .answer pk status reason now hknown hstatus, h⟩

theorem orgAssignments_engageIncident (incident : Incident) (leader : UserId) (db : Db) :
    (engageIncident now incident leader db).orgAssignments = db.orgAssignments := by
  unfold engageIncident
  split <;> rfl

theorem follows_assignToOrganisation {i : IncidentId} {organisationId : RawId} :
    (assignToOrganisation now auth i organisationId).Follows Answering (ToEnd Response) t := by
  have hread := Answering.read t
  have hend := toEnd t
  refine follows_authenticate hread hend fun user => follows_permit hend ?_
  refine follows_getIncident hread hend fun incident _ => ?_
  cases organisationId with
  | absent => exact Prog.follows_pure (hend _)
  | malformed => exact Prog.follows_pure (hend _)
  | uuid organisationId =>
      refine Prog.follows_read fun db => ⟨t, hread db, ?_⟩
      split
      · exact Prog.follows_pure (hend _)
      · refine Prog.follows_read fun db => ⟨t, hread db, follows_refuseIf hend fun _ => ?_⟩
        refine Prog.follows_atomic fun db => ⟨t, .create i _ user.id _, ?_⟩
        refine Or.inr fun db => ⟨t, .other _ (fun _ => rfl) fun _ => rfl, ?_⟩
        exact Prog.follows_pure (hend _)

theorem follows_getAssignment {user : User} {view : IncidentOrgAssignment → Incident → View}
    (h : ∀ assignment incident,
      (view assignment incident).Follows Answering (ToEnd Response) { t with known := [pk] }) :
    (getAssignment user pk view).Follows Answering (ToEnd Response) t := by
  refine Prog.follows_read fun db => ?_
  split
  · exact ⟨t, .read t db, Prog.follows_pure (toEnd _ _)⟩
  · rename_i assignment incident hrow
    refine ⟨_, .find [pk] fun pk' hpk' => ?_, follows_refuseIf (toEnd _) fun _ => h _ _⟩
    obtain rfl := List.mem_singleton.mp hpk'
    rw [(assignmentWithIncident?_eq_some.mp hrow).1]
    exact Option.some_ne_none _

theorem follows_acceptOrgAssignment :
    (acceptOrgAssignment now auth pk).Follows Answering (ToEnd Response) t := by
  refine follows_authenticate (.read t) (toEnd t) fun user => follows_permit (toEnd t) ?_
  refine follows_getAssignment fun assignment incident => follows_refuseIf (toEnd _) fun _ => ?_
  refine follows_answer List.mem_cons_self (by decide) ?_
  refine Or.inr fun db => ⟨_, .engage pk _ rfl (orgAssignments_engageIncident _ _), ?_⟩
  exact Prog.follows_pure (toEnd _ _)

theorem follows_declineOrgAssignment {reason : Choice String} :
    (declineOrgAssignment now auth pk reason).Follows Answering (ToEnd Response) t := by
  refine follows_authenticate (.read t) (toEnd t) fun user => follows_permit (toEnd t) ?_
  refine follows_getAssignment fun assignment incident => follows_refuseIf (toEnd _) fun _ => ?_
  cases reason with
  | notText => exact Prog.follows_pure (toEnd _ _)
  | unknown =>
      exact follows_answer List.mem_cons_self (by decide) (Prog.follows_pure (toEnd _ _))
  | one reason =>
      exact follows_answer List.mem_cons_self (by decide) (Prog.follows_pure (toEnd _ _))

theorem follows_autoAcceptOne {assignment : IncidentOrgAssignment} {incident : Incident}
    (hknown : assignment.id ∈ t.known) :
    (autoAcceptOne now (assignment, incident)).Follows Answering
      (Prog.Ended fun _ t' => t'.known = t.known) t := by
  refine Or.inr fun db => ⟨_, .answer assignment.id .accepted id now hknown (by decide), ?_⟩
  refine Prog.follows_read fun db => ⟨_, .read _ db, ?_⟩
  refine Prog.follows_ite (fun _ => ?_) fun _ => Prog.ended_pure rfl
  exact Prog.follows_modify fun db => ⟨_, .engage assignment.id _ rfl fun _ => rfl, rfl⟩

theorem follows_autoAccept :
    (autoAcceptOverdueAssignments now).Follows Answering (ToEnd Nat) t := by
  refine Prog.follows_read fun db => ?_
  let pks := (overdueAssignments now db).map fun row => row.1.id
  refine ⟨_, .find pks fun pk hpk => ?_, ?_⟩
  · obtain ⟨⟨assignment, incident⟩, hrow, rfl⟩ := List.mem_map.mp hpk
    have hget := Table.get?_of_mem (mem_overdueAssignments.mp hrow).1
    rw [show db.orgAssignments.get? assignment.id = some assignment from hget]
    exact Option.some_ne_none _
  · have hloop : ∀ row ∈ overdueAssignments now db, ∀ t' : AnswerPhase, t'.known = pks →
        (autoAcceptOne now row).Follows Answering (Prog.Ended fun _ t'' => t''.known = pks) t' := by
      intro row hrow t' ht'
      have hknown : row.1.id ∈ t'.known := ht' ▸ List.mem_map.mpr ⟨row, hrow, rfl⟩
      exact ht' ▸ follows_autoAcceptOne hknown
    refine Prog.follows_bind' (Prog.follows_forEach hloop rfl) fun _ t' _ => ?_
    exact Prog.follows_pure (Prog.ended_pure trivial)

theorem AssignmentOp.follows (op : AssignmentOp) (t : AnswerPhase) :
    op.prog.Follows Answering (ToEnd Unit) t := by
  have hend : ∀ (t : AnswerPhase), (pure () : Prog Db Unit).Follows Answering (ToEnd Unit) t :=
    fun t => Prog.follows_pure (Prog.ended_pure trivial)
  cases op with
  | assign now auth i organisationId =>
      exact Prog.follows_bind' follows_assignToOrganisation fun _ t _ => hend t
  | accept now auth pk => exact Prog.follows_bind' follows_acceptOrgAssignment fun _ t _ => hend t
  | decline now auth pk reason =>
      exact Prog.follows_bind' follows_declineOrgAssignment fun _ t _ => hend t
  | autoAccept now => exact Prog.follows_bind' follows_autoAccept fun _ t _ => hend t

end Follows

/-! ## One turn -/

section Turn

variable {db : Db} {pk : OrgAssignmentId} {status : OrgAssignmentStatus}
  {reason : Option String → Option String} {now : Instant} {i : IncidentId}
  {organisation : OrganisationId} {user : UserId} {deadline : Instant}

theorem answerAssignment_writes (pk : OrgAssignmentId) (status : OrgAssignmentStatus)
    (reason : Option String → Option String) (now : Instant) :
    ∃ db a, db.orgAssignments.get? pk = some a ∧
      (Db.answerAssignment pk status reason now db).orgAssignments.get? pk ≠ some a := by
  let waiting : IncidentOrgAssignment :=
    { id := pk, incident := 0, organisation := 0, assignedBy := none, status := .pending,
      declineReason := none, deadline := 0, respondedAt := none }
  let store := (Db.start [] [] (.new 0 none "" "")).waitingFor waiting
  have hrow : store.orgAssignments.get? pk = some waiting :=
    Table.get?_eq_some.mpr ⟨List.mem_singleton_self waiting, rfl⟩
  refine ⟨store, waiting, hrow, fun hsame => ?_⟩
  rw [get?_answerAssignment, if_pos rfl, hrow] at hsame
  exact Option.some_ne_none now
    (congrArg IncidentOrgAssignment.respondedAt (Option.some.inj hsame))

theorem get?_insertAssignment {a : IncidentOrgAssignment}
    (h : db.orgAssignments.get? pk = some a) :
    (db.insertAssignment i organisation user deadline).orgAssignments.get? pk = some a := by
  unfold Db.insertAssignment
  rw [Table.get?_put, if_neg, h]
  rintro rfl
  have hfresh := db.orgAssignments.get?_freshKey
  rw [show db.orgAssignments.get? db.orgAssignments.freshKey = some a from h] at hfresh
  cases hfresh

/-- The assignments of a store are still there, and the answers too. -/
def Db.KeepsAnswers (db db' : Db) : Prop :=
  ∀ pk a, db.orgAssignments.get? pk = some a →
    ∃ a', db'.orgAssignments.get? pk = some a' ∧ (a.status ≠ .pending → a'.status = a.status)

theorem Db.KeepsAnswers.refl (db : Db) : db.KeepsAnswers db :=
  fun _ a h => ⟨a, h, fun _ => rfl⟩

theorem Db.KeepsAnswers.of_eq {db' : Db} (h : db'.orgAssignments = db.orgAssignments) :
    db.KeepsAnswers db' :=
  fun _ a ha => ⟨a, h ▸ ha, fun _ => rfl⟩

theorem Db.KeepsAnswers.trans {db' db'' : Db} (h : db.KeepsAnswers db')
    (h' : db'.KeepsAnswers db'') : db.KeepsAnswers db'' := by
  intro pk a ha
  obtain ⟨a', ha', hstatus⟩ := h pk a ha
  obtain ⟨a'', ha'', hstatus'⟩ := h' pk a' ha'
  refine ⟨a'', ha'', fun hanswered => ?_⟩
  rw [hstatus' (hstatus hanswered ▸ hanswered), hstatus hanswered]

theorem keepsAnswers_answerAssignment
    (h : ∀ a, db.orgAssignments.get? pk = some a → a.status = .pending ∨ a.status = status) :
    db.KeepsAnswers (db.answerAssignment pk status reason now) := by
  intro pk' a ha
  rw [get?_answerAssignment]
  by_cases hpk : pk' = pk
  · subst hpk
    rw [if_pos rfl, ha, Option.map_some]
    exact ⟨_, rfl, fun hanswered => ((h a ha).resolve_left hanswered).symm⟩
  · rw [if_neg hpk]
    exact ⟨a, ha, fun _ => rfl⟩

theorem respondedRight_answerAssignment (hstatus : status ≠ .pending) (h : db.RespondedRight) :
    (db.answerAssignment pk status reason now).RespondedRight := by
  intro a ha
  obtain ⟨b, hb, rfl⟩ := List.mem_map.mp ha
  split
  · exact iff_of_false (Option.some_ne_none now) hstatus
  · exact h b hb

theorem respondedRight_insertAssignment (h : db.RespondedRight) :
    (db.insertAssignment i organisation user deadline).RespondedRight := by
  intro a ha
  rcases Table.mem_put ha with rfl | hold
  · exact iff_of_true rfl rfl
  · exact h a hold

theorem oneWaiting_insertAssignment (hone : db.OneWaiting)
    (hfree : ∀ a ∈ db.orgAssignments.rows, a.incident = i → a.status ≠ .pending) :
    (db.insertAssignment i organisation user deadline).OneWaiting := by
  let assignment : IncidentOrgAssignment :=
    { id := db.orgAssignments.freshKey, incident := i, organisation := organisation,
      assignedBy := some user, status := .pending, declineReason := none,
      deadline := deadline, respondedAt := none }
  refine @Db.oneWaiting_put _ _ assignment rfl ?_ rfl hone
  refine List.filter_eq_nil_iff.mpr fun a ha hwaits => ?_
  obtain ⟨hincident, hpending⟩ := of_decide_eq_true hwaits
  exact hfree a ha hincident hpending

end Turn

/-! ## Every schedule -/

section Schedules

variable {ι : Type} [DecidableEq ι] {db : Db} {ops : ι → AssignmentOp} {c : Pool Db ι Unit}
  {past schedule : List ι} {k : ι} {phase : ι → AnswerPhase}

/-- In the whole schedule nobody answers an assignment that has been answered
since it was read. -/
def NeverLate (c : Pool Db ι Unit) (schedule : List ι) : Prop :=
  ∀ past k, past ++ [k] <+: schedule → ¬ Late (c.exec past) k

/-- What holds after the turns `past`, as long as none came too late. It
speaks of the stored rows and of every program at once: a program remembers
assignments that waited when it looked, and they may not wait any more. -/
structure AnswerInv (c : Pool Db ι Unit) (past : List ι) (phase : ι → AnswerPhase) : Prop where
  oneWaiting : (c.exec past).store.OneWaiting
  responded : (c.exec past).store.RespondedRight
  known : ∀ k, ∀ pk ∈ (phase k).known, (c.exec past).store.orgAssignments.get? pk ≠ none
  last : ∀ k pk status, (phase k).last = some (pk, status) → status ≠ .pending ∧
    ∃ a, (c.exec past).store.orgAssignments.get? pk = some a ∧ a.status = status
  lastAnswer : ∀ k pk, LastAnswer c past k pk →
    ∃ status, (phase k).last = some (pk, status)

theorem lastAnswer_snoc {j : ι} {pk : OrgAssignmentId} :
    LastAnswer c (past ++ [k]) j pk ↔
      (k = j ∧ ∃ status, StoresAnswer ((c.exec past).progs k) pk status) ∨
        LastAnswer c past j pk ∧
          ¬ (k = j ∧ ∃ pk status, StoresAnswer ((c.exec past).progs k) pk status) :=
  last_snoc

theorem Answering.last_of_answer {t t' : AnswerPhase} {pk : OrgAssignmentId}
    {status : OrgAssignmentStatus} {reason : Option String → Option String} {now : Instant}
    (h : Answering t db (Db.answerAssignment pk status reason now) t') :
    ∃ status', t'.last = some (pk, status') := by
  obtain ⟨store, a, hrow, hwrites⟩ := answerAssignment_writes pk status reason now
  generalize Db.answerAssignment pk status reason now = write at h hwrites
  cases h with
  | other _ _ hassignments => exact absurd (hassignments store ▸ hrow) hwrites
  | find _ _ => exact absurd hrow hwrites
  | create i organisation user deadline => exact absurd (get?_insertAssignment hrow) hwrites
  | answer pk' status' _ _ _ _ =>
      rw [get?_answerAssignment] at hwrites
      by_cases hpk : pk = pk'
      · exact ⟨status', by rw [hpk]⟩
      · rw [if_neg hpk] at hwrites
        exact absurd hrow hwrites
  | engage _ _ _ hassignments => exact absurd (hassignments store ▸ hrow) hwrites

omit [DecidableEq ι] in
/-- A turn that is not late keeps what is promised of every store: the answers
that are stored, and that an incident waits for one organisation. -/
theorem turn_keeps {c : Pool Db ι Unit} {write : Db → Db} {next : Db → Prog Db Unit}
    {t t' : AnswerPhase} (hone : c.store.OneWaiting) (hresponded : c.store.RespondedRight)
    (hlate : ¬ Late c k) (hprog : c.progs k = .act write next)
    (hallowed : Answering t c.store write t') :
    c.store.KeepsAnswers (write c.store) ∧ (write c.store).OneWaiting ∧
      (write c.store).RespondedRight := by
  cases hallowed with
  | other _ _ hassignments | engage _ _ _ hassignments =>
      have heq := hassignments c.store
      refine ⟨.of_eq heq, (Db.KeepsWaiting.of_eq heq).oneWaiting hone, fun a ha => ?_⟩
      exact hresponded a (heq ▸ ha)
  | find _ _ => exact ⟨.refl _, hone, hresponded⟩
  | create i organisation user deadline =>
      refine ⟨fun pk a ha => ⟨a, get?_insertAssignment ha, fun _ => rfl⟩,
        oneWaiting_insertAssignment hone fun a ha hincident hpending => hlate ?_,
        respondedRight_insertAssignment hresponded⟩
      exact Or.inr ⟨i, a, ⟨organisation, user, deadline, next, hprog⟩, ha, hincident, hpending⟩
  | answer pk status reason now _ hstatus =>
      refine ⟨keepsAnswers_answerAssignment fun a ha => ?_,
        (Db.keepsWaiting_answerAssignment _ pk reason now hstatus).oneWaiting hone,
        respondedRight_answerAssignment hstatus hresponded⟩
      by_contra hanswered
      obtain ⟨hnot, hother⟩ := not_or.mp hanswered
      exact hlate (Or.inl ⟨pk, status, a, ⟨reason, now, next, hprog⟩, ha, hnot, hother⟩)

/-- A turn that is not late keeps the invariant. Only the request that has the
turn changes its phase; what the others know of the assignment they have read
stays true, because an answered assignment keeps its answer
(`Db.KeepsAnswers`) and assigning looks for a pending one first. -/
theorem AnswerInv.step {write : Db → Db} {next : Db → Prog Db Unit} {t' : AnswerPhase}
    (hinv : AnswerInv c past phase) (hlate : ¬ Late (c.exec past) k)
    (hprog : (c.exec past).progs k = .act write next)
    (hallowed : Answering (phase k) (c.exec past).store write t') :
    AnswerInv c (past ++ [k]) (Function.update phase k t') := by
  obtain ⟨hkeeps, hone, hresponded⟩ :=
    turn_keeps hinv.oneWaiting hinv.responded hlate hprog hallowed
  have hstore : (c.exec (past ++ [k])).store = write (c.exec past).store := by
    rw [Pool.store_exec_snoc hprog]
  have hstays : ∀ pk, (c.exec past).store.orgAssignments.get? pk ≠ none →
      (write (c.exec past).store).orgAssignments.get? pk ≠ none := by
    intro pk hpk
    obtain ⟨a, ha⟩ := Option.ne_none_iff_exists'.mp hpk
    obtain ⟨a', ha', -⟩ := hkeeps pk a ha
    rw [ha']
    exact Option.some_ne_none a'
  have hlast : ∀ pk status, status ≠ .pending ∧ (∃ a,
      (c.exec past).store.orgAssignments.get? pk = some a ∧ a.status = status) →
        status ≠ .pending ∧ ∃ a,
          (write (c.exec past).store).orgAssignments.get? pk = some a ∧ a.status = status := by
    rintro pk status ⟨hanswered, a, ha, rfl⟩
    obtain ⟨a', ha', hstatus⟩ := hkeeps pk a ha
    exact ⟨hanswered, a', ha', hstatus hanswered⟩
  constructor
  · exact hstore ▸ hone
  · exact hstore ▸ hresponded
  · intro j pk hpk
    rw [hstore]
    refine hstays pk ?_
    by_cases hj : j = k
    · subst hj
      rw [Function.update_self] at hpk
      cases hallowed with
      | find pks hfound => exact hfound pk hpk
      | other | create | answer | engage => exact hinv.known j pk hpk
    · rw [Function.update_of_ne hj] at hpk
      exact hinv.known j pk hpk
  · intro j pk status hj'
    rw [hstore]
    by_cases hj : j = k
    · subst hj
      rw [Function.update_self] at hj'
      cases hallowed with
      | answer pk' status' reason now hknown hstatus =>
          cases hj'
          obtain ⟨a, ha⟩ := Option.ne_none_iff_exists'.mp (hinv.known j pk hknown)
          rw [get?_answerAssignment, if_pos rfl, ha]
          exact ⟨hstatus, _, rfl, rfl⟩
      | find | other | create | engage => exact hlast pk status (hinv.last j pk status hj')
    · rw [Function.update_of_ne hj] at hj'
      exact hlast pk status (hinv.last j pk status hj')
  · intro j pk hj'
    rcases lastAnswer_snoc.mp hj' with ⟨rfl, status, reason, now, next', hanswer⟩ | ⟨hold, hnone⟩
    · rw [hprog] at hanswer
      cases hanswer
      rw [Function.update_self]
      exact hallowed.last_of_answer
    · by_cases hj : j = k
      · subst hj
        rw [Function.update_self]
        cases hallowed with
        | answer pk' status' reason now _ _ =>
            exact absurd ⟨rfl, pk', status', reason, now, next, hprog⟩ hnone
        | find | other | create | engage => exact hinv.lastAnswer j pk hold
      · rw [Function.update_of_ne hj]
        exact hinv.lastAnswer j pk hold

theorem AnswerInv.idle {u : Unit} (hinv : AnswerInv c past phase)
    (hprog : (c.exec past).progs k = .done u) : AnswerInv c (past ++ [k]) phase := by
  have hexec : c.exec (past ++ [k]) = c.exec past := by
    rw [Pool.exec_snoc_done hprog]
  refine ⟨hexec ▸ hinv.oneWaiting, hexec ▸ hinv.responded, hexec ▸ hinv.known,
    hexec ▸ hinv.last, fun j pk hj' => ?_⟩
  rcases lastAnswer_snoc.mp hj' with ⟨-, status, reason, now, next, hanswer⟩ | ⟨hold, -⟩
  · rw [hprog] at hanswer
    cases hanswer
  · exact hinv.lastAnswer j pk hold

/-- The invariant, under every schedule without a late turn. -/
theorem answerInv (hone : db.OneWaiting) (hresponded : db.RespondedRight)
    (hnever : NeverLate (assignmentPool db ops) schedule) (hpast : past <+: schedule) :
    ∃ phase, AnswerInv (assignmentPool db ops) past phase ∧
      ∀ k, (((assignmentPool db ops).exec past).progs k).Follows Answering (ToEnd Unit)
        (phase k) := by
  have hstart : AnswerInv (assignmentPool db ops) [] fun _ => .start :=
    { oneWaiting := hone
      responded := hresponded
      known := fun _ _ hpk => nomatch hpk
      last := fun _ _ _ hlast => nomatch hlast
      lastAnswer := fun _ _ hlast => absurd hlast not_last_nil }
  obtain ⟨phase, hinv, hfollows⟩ := Pool.exec_phases
    (c := assignmentPool db ops) (fun k => (ops k).follows .start)
    (I := fun past phase => past <+: schedule → AnswerInv (assignmentPool db ops) past phase)
    (fun _ => hstart)
    (fun past phase k _ hinv hprog hprefix =>
      (hinv ((List.prefix_append past [k]).trans hprefix)).idle hprog)
    (fun past phase k write next t' hinv hprog hallowed hprefix =>
      (hinv ((List.prefix_append past [k]).trans hprefix)).step (hnever past k hprefix) hprog
        hallowed) past
  exact ⟨phase, hinv hpast, hfollows⟩

theorem keepsAnswers_turn (hone : db.OneWaiting) (hresponded : db.RespondedRight)
    (hnever : NeverLate (assignmentPool db ops) schedule) (hpast : past ++ [k] <+: schedule) :
    ((assignmentPool db ops).exec past).store.KeepsAnswers
      ((assignmentPool db ops).exec (past ++ [k])).store := by
  obtain ⟨phase, hinv, hfollows⟩ :=
    answerInv hone hresponded hnever ((List.prefix_append past [k]).trans hpast)
  have hk := hfollows k
  cases hprog : ((assignmentPool db ops).exec past).progs k with
  | done u =>
      rw [Pool.exec_snoc_done hprog]
      exact .refl _
  | act write next =>
      rw [hprog] at hk
      rcases hk with ⟨u, hend, -⟩ | hk
      · cases hend
      obtain ⟨t', hallowed, -⟩ := hk ((assignmentPool db ops).exec past).store
      rw [Pool.store_exec_snoc hprog]
      exact (turn_keeps hinv.oneWaiting hinv.responded (hnever past k hpast) hprog hallowed).1

theorem keepsAnswers_exec (hone : db.OneWaiting) (hresponded : db.RespondedRight)
    (hnever : NeverLate (assignmentPool db ops) schedule) (rest : List ι)
    (hpast : past ++ rest <+: schedule) :
    ((assignmentPool db ops).exec past).store.KeepsAnswers
      ((assignmentPool db ops).exec (past ++ rest)).store := by
  induction rest using List.reverseRecOn with
  | nil =>
      rw [List.append_nil]
      exact .refl _
  | append_singleton rest k ih =>
      rw [← List.append_assoc] at hpast ⊢
      exact (ih ((List.prefix_append _ [k]).trans hpast)).trans
        (keepsAnswers_turn hone hresponded hnever hpast)

/-- An incident is engaged on behalf of an assignment that is and stays accepted. -/
theorem accepted_of_engaged (hone : db.OneWaiting) (hresponded : db.RespondedRight)
    (hnever : NeverLate (assignmentPool db ops) schedule) (hpast : past ++ [k] <+: schedule)
    {pk : OrgAssignmentId} (hlast : LastAnswer (assignmentPool db ops) past k pk)
    {i : IncidentId} (hengaged :
      ((assignmentPool db ops).exec (past ++ [k])).store.incidents.get? i ≠
        ((assignmentPool db ops).exec past).store.incidents.get? i) :
    ∃ a, ((assignmentPool db ops).exec schedule).store.orgAssignments.get? pk = some a ∧
      a.status = .accepted := by
  have hbefore : past <+: schedule := (List.prefix_append past [k]).trans hpast
  obtain ⟨phase, hinv, hfollows⟩ := answerInv hone hresponded hnever hbefore
  have hk := hfollows k
  cases hprog : ((assignmentPool db ops).exec past).progs k with
  | done u =>
      rw [Pool.exec_snoc_done hprog] at hengaged
      exact absurd rfl hengaged
  | act write next =>
      rw [hprog] at hk
      rcases hk with ⟨u, hend, -⟩ | hk
      · cases hend
      obtain ⟨t', hallowed, -⟩ := hk ((assignmentPool db ops).exec past).store
      rw [Pool.store_exec_snoc hprog] at hengaged
      cases hallowed with
      | other _ hincidents _ => rw [hincidents] at hengaged; exact absurd rfl hengaged
      | find _ _ | create _ _ _ _ | answer _ _ _ _ _ _ => exact absurd rfl hengaged
      | engage pk' _ hlast' _ =>
          obtain ⟨status, hstatus⟩ := hinv.lastAnswer k pk hlast
          rw [hlast'] at hstatus
          cases hstatus
          obtain ⟨-, a, ha, haccepted⟩ := hinv.last k pk .accepted hlast'
          obtain ⟨rest, rfl⟩ := hbefore
          obtain ⟨a', ha', hstays⟩ :=
            keepsAnswers_exec hone hresponded hnever rest List.prefix_rfl pk a ha
          exact ⟨a', ha', (hstays (by rw [haccepted]; decide)).trans haccepted⟩

end Schedules

/-- Assignments are answered once exactly when no turn comes too late: however
many requests and runs of the task there are, and in whatever order their
reads and writes happen. One direction is the invariant (`answerInv`); in the
other one the late turn itself breaks the promise, by what it leaves stored. -/
theorem answeredOnce_iff {ι : Type} [DecidableEq ι] (db : Db) (ops : ι → AssignmentOp)
    (hone : db.OneWaiting) (hresponded : db.RespondedRight) (schedule : List ι) :
    AnsweredOnce (assignmentPool db ops) schedule ↔
      NeverLate (assignmentPool db ops) schedule := by
  constructor
  · rintro h past k hpast (⟨pk, status, a, ⟨reason, now, next, hprog⟩, ha, hanswered, hother⟩ |
      ⟨i, a, ⟨organisation, user, deadline, next, hprog⟩, ha, hincident, hpending⟩)
    · have hsettled := h.settled past k hpast pk a ha hanswered
      rw [Pool.store_exec_snoc hprog, get?_answerAssignment, if_pos rfl, ha]
        at hsettled
      exact hother (Option.some.inj hsettled).symm
    · have hone' := h.oneWaiting _ hpast
      rw [Pool.store_exec_snoc hprog] at hone'
      have hrow := Table.get?_of_mem ha
      have hstays : a ∈ (((assignmentPool db ops).exec past).store.insertAssignment i organisation
          user deadline).orgAssignments.rows :=
        Table.mem_of_get? (get?_insertAssignment hrow)
      have heq := hone' a hstays _ (Table.mem_put_self ..) hincident hpending rfl
      have hfresh := Table.get?_freshKey ((assignmentPool db ops).exec past).store.orgAssignments
      rw [show key a = _ from congrArg IncidentOrgAssignment.id heq, hfresh] at hrow
      cases hrow
  · intro hnever
    refine ⟨fun past hpast => ?_, fun past k hpast pk a ha hanswered => ?_,
      fun _ a ha hdeclined past k hpast hlast => ?_, fun _ => ?_⟩
    · obtain ⟨phase, hinv, -⟩ := answerInv hone hresponded hnever hpast
      exact hinv.oneWaiting
    · obtain ⟨a', ha', hstatus⟩ := keepsAnswers_turn hone hresponded hnever hpast pk a ha
      rw [ha', Option.map_some, hstatus hanswered]
    · by_contra hengaged
      obtain ⟨a', ha', haccepted⟩ :=
        accepted_of_engaged hone hresponded hnever hpast hlast hengaged
      obtain rfl : a = a' := Option.some.inj ((Table.get?_of_mem ha).symm.trans ha')
      rw [hdeclined] at haccepted
      cases haccepted
    · obtain ⟨phase, hinv, -⟩ := answerInv hone hresponded hnever List.prefix_rfl
      exact hinv.responded

def waitingStore : Db :=
  (Db.start [{ id := 1, name := "Voirie" }]
    [.member 2 "voirie@map.ml" .orgAdmin 1, .member 3 "adjoint@map.ml" .orgAdmin 1]
    (.new 1 (some "Fuite") "Bamako" "01-02-2025")).waitingFor
      { id := 1, incident := 1, organisation := 1, assignedBy := none, status := .pending,
        declineReason := none, deadline := hours 72, respondedAt := none }

theorem waitingStore_oneWaiting : waitingStore.OneWaiting := by
  intro a ha b hb _ _ _
  rw [List.mem_singleton.mp ha, List.mem_singleton.mp hb]

theorem waitingStore_respondedRight : waitingStore.RespondedRight := by
  intro a ha
  rw [List.mem_singleton.mp ha]
  exact iff_of_true rfl rfl

def acceptAndDecline : Bool → AssignmentOp
  | true => .accept 0 (some 2) 1
  | false => .decline 0 (some 3) 1 .unknown

/-- Both look at the assignment before either of them answers it. -/
def answeringSchedule : List Bool := [true, true, false, false, true, true, false]

theorem answered_twice :
    ¬ AnsweredOnce (assignmentPool waitingStore acceptAndDecline) answeringSchedule := by
  intro h
  let past : List Bool := [true, true, false, false, true, true]
  let a : IncidentOrgAssignment :=
    { id := 1, incident := 1, organisation := 1, assignedBy := none, status := .accepted,
      declineReason := none, deadline := hours 72, respondedAt := some 0 }
  have hsettled := h.settled past false List.prefix_rfl 1 a (by decide) (by decide)
  revert hsettled
  decide

theorem answeredOnce_iff_raced :
    ¬ NeverLate (assignmentPool waitingStore acceptAndDecline) answeringSchedule := fun hnever =>
  answered_twice ((answeredOnce_iff waitingStore acceptAndDecline waitingStore_oneWaiting
    waitingStore_respondedRight answeringSchedule).mpr hnever)

/-- Both admins are served: the assignment ends up declined, after its acceptance has
engaged the incident. -/
theorem declined_yet_engaged :
    let c := (assignmentPool waitingStore acceptAndDecline).exec answeringSchedule
    waitingStore.OneWaiting ∧ waitingStore.RespondedRight ∧ (∀ k, c.result k ≠ none) ∧
      c.store.orgAssignments.rows.map IncidentOrgAssignment.status = [.declined] ∧
      c.store.incidents.rows.map (fun r => (r.etat, r.takenBy)) = [(.taken, some 2)] ∧
      ¬ AnsweredOnce (assignmentPool waitingStore acceptAndDecline) answeringSchedule :=
  ⟨waitingStore_oneWaiting, waitingStore_respondedRight, by decide, by decide, by decide,
    answered_twice⟩

end Mapapi
